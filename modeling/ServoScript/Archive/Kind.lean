import ServoScript.Archive.Time
import ServoScript.Literal.Reader
import ServoScript.Text.Basic

/-!
# Kinds of entries

The kind of the entries of an array fixes how many octets each of them has and what they mean. A kind
is written as a short text, or as a list of named fields with kinds of their own.
-/

namespace ServoScript.Archive

/-- A kind of entries. Sizes are numbers of octets, but the length of a text is one of characters. -/
inductive Kind where
  | bool
  | integer (isSigned isBig : Bool) (size : Nat)
  | float (isBig : Bool) (size : Nat)
  | complex (isBig : Bool) (size : Nat)
  | octets (size : Nat)
  | text (isBig : Bool) (length : Nat)
  | raw (size : Nat)
  /-- A moment or a span of time. -/
  | time (isBig isSpan : Bool) (unit : TimeUnit) (factor : Nat)
  /-- Entries of no fixed form, which are not read. -/
  | foreign
  /-- A fixed number of entries of another kind. -/
  | grid (cells size : Nat) (hasForeign : Bool)
  /-- Named fields, of this many octets together. -/
  | record (size : Nat) (hasForeign : Bool)
  deriving DecidableEq

namespace Kind

inductive Flaw where
  /-- The description is of no known form. -/
  | unknown
  | tooFew (expected actual : Nat)
  | tooMany (expected : Nat)
  | emptyTuple
  | fieldName
  | repeatedName
  | badExtents
  | negativeExtent
  | format (place : Nat) (t : Text)
  | orders (first second : CodePoint)
  deriving DecidableEq

def Flaw.message : Flaw → Text
  | .unknown => []
  | .tooFew expected actual =>
    "not enough values to unpack (expected " ++ Text.ofNat expected ++ ", got " ++
      Text.ofNat actual ++ ")"
  | .tooMany expected => "too many values to unpack (expected " ++ Text.ofNat expected ++ ")"
  | .emptyTuple => "tuple index out of range"
  | .fieldName => "field names must be strings"
  | .repeatedName => "name already used as a name or title"
  | .badExtents => "invalid shape in fixed-type tuple."
  | .negativeExtent => "invalid shape in fixed-type tuple: dimension smaller than zero."
  | .format place t =>
    "format number " ++ Text.ofNat place ++ " of \"" ++ t ++ "\" is not recognized"
  | .orders first second =>
    "inconsistent byte-order specification (" ++ [first] ++ " and " ++ [second] ++ ")"

def size : Kind → Nat
  | .bool => 1
  | .integer _ _ size => size
  | .float _ size => size
  | .complex _ size => size
  | .octets size => size
  | .text _ length => 4 * length
  | .raw size => size
  | .time .. => 8
  | .foreign => 8
  | .grid cells size _ => cells * size
  | .record size _ => size

/-- How many entries of an array one entry of a kind is. -/
def cells : Kind → Nat
  | .grid cells _ _ => cells
  | _ => 1

def hasForeign : Kind → Bool
  | .foreign => true
  | .grid _ _ hasForeign => hasForeign
  | .record _ hasForeign => hasForeign
  | _ => false

def isRaw : Kind → Bool
  | .raw _ => true
  | _ => false

/-! ## Short descriptions -/

def ofLetter? (isBig : Bool) : CodePoint → Option Kind
  | '?' => some .bool
  | 'b' => some (.integer true false 1)
  | 'B' => some (.integer false false 1)
  | 'h' => some (.integer true isBig 2)
  | 'H' => some (.integer false isBig 2)
  | 'i' => some (.integer true isBig 4)
  | 'I' => some (.integer false isBig 4)
  | 'l' => some (.integer true isBig 8)
  | 'L' => some (.integer false isBig 8)
  | 'q' => some (.integer true isBig 8)
  | 'Q' => some (.integer false isBig 8)
  | 'p' => some (.integer true isBig 8)
  | 'P' => some (.integer false isBig 8)
  | 'n' => some (.integer true isBig 8)
  | 'N' => some (.integer false isBig 8)
  | 'e' => some (.float isBig 2)
  | 'f' => some (.float isBig 4)
  | 'd' => some (.float isBig 8)
  | 'g' => some (.float isBig 16)
  | 'F' => some (.complex isBig 8)
  | 'D' => some (.complex isBig 16)
  | 'G' => some (.complex isBig 32)
  | 'O' => some .foreign
  | 'S' => some (.octets 0)
  | 'c' => some (.octets 1)
  | 'U' => some (.text isBig 0)
  | 'V' => some (.raw 0)
  | 'M' => some (.time isBig false .generic 1)
  | 'm' => some (.time isBig true .generic 1)
  | _ => none

def ofName? (name : String) : Option Kind :=
  match name with
  | "bool" | "bool_" => some .bool
  | "int8" | "byte" => some (.integer true false 1)
  | "uint8" | "ubyte" => some (.integer false false 1)
  | "int16" | "short" => some (.integer true false 2)
  | "uint16" | "ushort" => some (.integer false false 2)
  | "int32" | "intc" => some (.integer true false 4)
  | "uint32" | "uintc" => some (.integer false false 4)
  | "int64" | "int" | "int_" | "intp" | "long" | "longlong" => some (.integer true false 8)
  | "uint64" | "uint" | "uintp" | "ulong" | "ulonglong" => some (.integer false false 8)
  | "float16" | "half" => some (.float false 2)
  | "float32" | "single" => some (.float false 4)
  | "float64" | "double" | "float" => some (.float false 8)
  | "float128" | "longdouble" => some (.float false 16)
  | "complex64" | "csingle" => some (.complex false 8)
  | "complex128" | "cdouble" | "complex" => some (.complex false 16)
  | "complex256" | "clongdouble" => some (.complex false 32)
  | "bytes" | "bytes_" | "a" => some (.octets 0)
  | "str" | "str_" | "unicode" => some (.text false 0)
  | "void" => some (.raw 0)
  | "object" | "object_" => some .foreign
  | _ => none

def maxSize : Nat := Nat.pow 2 31 - 1

/-- The number behind a letter. Blanks and a plus sign may stand before it. -/
def sizeOf? (t : Text) : Option Nat :=
  let t := t.dropWhile fun (c : CodePoint) => c == ' ' || ('\t' ≤ c && c ≤ '\r')
  let t := if t.head? = some (CodePoint.char '+') then t.drop 1 else t
  if t.isEmpty || !t.all Text.isDigit then none
  else
    let n := Text.natOfDigits t
    if n ≤ maxSize then some n else none

def ofSize? (isBig : Bool) (letter : CodePoint) (size : Nat) : Option Kind :=
  match letter with
  | 'S' | 'a' => some (.octets size)
  | 'U' => if 4 * size ≤ maxSize then some (.text isBig size) else none
  | 'V' => some (.raw size)
  | 'b' => if size = 1 then some .bool else none
  | 'i' => if [1, 2, 4, 8].contains size then some (.integer true isBig size) else none
  | 'u' => if [1, 2, 4, 8].contains size then some (.integer false isBig size) else none
  | 'f' => if [2, 4, 8, 16].contains size then some (.float isBig size) else none
  | 'c' => if [8, 16, 32].contains size then some (.complex isBig size) else none
  | 'O' => if size = 8 then some .foreign else none
  | _ => none

/-- The unit of time in brackets, and its factor. Without brackets it is no fixed one. -/
def unit? (t : Text) : Option (TimeUnit × Nat) :=
  match t, t.getLast? with
  | [], _ => some (.generic, 1)
  | '[' :: inner, some ']' =>
    let inner := inner.dropLast
    let factor := inner.takeWhile Text.isDigit
    let sign := inner.drop factor.length
    match TimeUnit.signs.lookup (Text.toString sign) with
    | some unit => some (unit, if factor.isEmpty then 1 else Text.natOfDigits factor)
    | none =>
      if factor.isEmpty && sign = ("generic" : Text) then some (.generic, 1) else none
  | _, _ => none

def time? (t : Text) : Option (Bool × Text) :=
  let marks : List (String × Bool) :=
    [("M8", false), ("m8", true), ("datetime64", false), ("timedelta64", true)]
  (marks.find? fun (mark, _) => (mark : Text).isPrefixOf t).map fun (mark, isSpan) =>
    (isSpan, t.drop mark.length)

def isOrder (c : CodePoint) : Bool :=
  c == '<' || c == '>' || c == '=' || c == '|'

def ofPlain (t : Text) : Except Flaw Kind :=
  let order := t.head?.filter isOrder
  let isBig := order = some (CodePoint.char '>')
  let body := if order.isSome then t.drop 1 else t
  let named : Except Flaw Kind := match ofName? (Text.toString t) with
    | some kind => .ok kind
    | none => .error .unknown
  match time? body, body with
  | some (isSpan, rest), _ =>
    match unit? rest with
    | some (unit, factor) => .ok (.time isBig isSpan unit factor)
    | none => .error .unknown
  | none, [] => .error .unknown
  | none, [letter] =>
    match ofLetter? isBig letter with
    | some kind => .ok kind
    | none => named
  | none, letter :: rest =>
    match (sizeOf? rest).bind (ofSize? isBig letter) with
    | some kind => .ok kind
    | none => named

/-! ## Kinds with several entries -/

def extentsOf : Literal → Except Flaw (List Nat)
  | .int n => extent n |>.map ([·])
  | .bool b => .ok [if b then 1 else 0]
  | .tuple items => items.mapM single
  | .list items => items.mapM single
  | _ => .error .badExtents
where
  extent (n : Int) : Except Flaw Nat :=
    if n < 0 then .error .negativeExtent
    else if (maxSize : Int) < n then .error .badExtents
    else .ok n.toNat
  single : Literal → Except Flaw Nat
    | .int n => extent n
    | .bool b => .ok (if b then 1 else 0)
    | _ => .error .badExtents

def withLength? (kind : Kind) (v : Literal) : Option Kind :=
  match kind, v with
  | .octets 0, .int n => if 0 ≤ n then some (.octets n.toNat) else none
  | .text isBig 0, .int n => if 0 ≤ n then some (.text isBig n.toNat) else none
  | .raw 0, .int n => if 0 ≤ n then some (.raw n.toNat) else none
  | _, _ => none

/-- A fixed number of entries of a kind. A single one is the kind itself, and so is none at all. -/
def repeated (kind : Kind) (v : Literal) : Except Flaw Kind :=
  match withLength? kind v with
  | some kind => .ok kind
  | none => do
    let extents ← extentsOf v
    match v, extents with
    | .int 1, _ => .ok kind
    | _, [] => .ok kind
    | _, extents =>
      .ok (.grid (extents.foldl (· * ·) 1 * kind.cells) (kind.size / max kind.cells 1)
        kind.hasForeign)

def recordOf (kinds : List Kind) : Kind :=
  .record ((kinds.map size).foldl (· + ·) 0) (kinds.any hasForeign)

/-- Whether a short description has several forms: it starts with a number, or has a comma outside of
square brackets. -/
def isCompound (t : Text) : Bool :=
  let body := if t.head?.any isOrder then t.drop 1 else t
  body.head?.any Text.isDigit || ("()" : Text).isPrefixOf body || hasComma 0 (t.drop 1)
where
  hasComma (depth : Nat) : Text → Bool
    | [] => false
    | c :: rest =>
      if c == '[' then hasComma (depth + 1) rest
      else if c == ']' then hasComma (depth - 1) rest
      else (c == ',' && depth = 0) || hasComma depth rest

structure Form where
  first : Option CodePoint
  count : Text
  second : Option CodePoint
  body : Text

def readForm (t : Text) : Form × Text :=
  let first := t.head?.filter isOrder
  let t := if first.isSome then t.drop 1 else t
  let start := t.takeWhile (· == CodePoint.char ' ')
  let t := t.drop start.length
  let opening : Text := if t.head? = some (CodePoint.char '(') then "(" else []
  let t := t.drop opening.length
  let inner := t.takeWhile fun (c : CodePoint) => c == ' ' || c == ',' || Text.isDigit c
  let t := t.drop inner.length
  let closing : Text := if t.head? = some (CodePoint.char ')') then ")" else []
  let t := t.drop closing.length
  let after := if closing.isEmpty then [] else t.takeWhile (· == CodePoint.char ' ')
  let t := t.drop after.length
  let second := t.head?.filter isOrder
  let t := if second.isSome then t.drop 1 else t
  let word := t.takeWhile fun c => c.isAlpha || Text.isDigit c || c == '.' || c == '?'
  let t := t.drop word.length
  let unit := match t with
    | '[' :: rest =>
      let inner := rest.takeWhile fun c => c.isAlpha || Text.isDigit c || c == ',' || c == '.'
      if (rest.drop inner.length).head? = some (CodePoint.char ']') then
        CodePoint.char '[' :: inner ++ [CodePoint.char ']']
      else []
    | _ => []
  (⟨first, start ++ opening ++ inner ++ closing ++ after, second, word ++ unit⟩, t.drop unit.length)

def orderOf (first second : Option CodePoint) : Except Flaw (Option CodePoint) :=
  let plain (c : CodePoint) : CodePoint := if c == '=' then '<' else c
  match first, second with
  | some a, some b =>
    if plain a = plain b then .ok (some (plain a)) else .error (.orders (plain a) (plain b))
  | some a, none => .ok (some a)
  | none, second => .ok second

def ofForm (form : Form) : Except Flaw Kind := do
  let order ← orderOf form.first form.second
  let order := order.filter (· == CodePoint.char '>')
  let kind ← ofPlain (order.toList ++ form.body)
  if form.count.isEmpty then .ok kind
  else
    match Literal.read form.count with
    | some (.ok v) => repeated kind v
    | _ => .error .unknown

def readForms (all : Text) : (fuel count : Nat) → Text → Except Flaw (List Form × Bool)
  | 0, _, _ => .ok ([], false)
  | fuel + 1, count, t =>
    if t.isEmpty then .ok ([], false)
    else
      let (form, rest) := readForm t
      let next := rest.dropWhile Text.isBlank
      if rest.isEmpty || next.isEmpty then .ok ([form], false)
      else if next.head? = some (CodePoint.char ',') then do
        let (forms, _) ← readForms all fuel (count + 1) ((next.drop 1).dropWhile Text.isBlank)
        .ok (form :: forms, true)
      else .error (.format (count + 1) all)

def ofText (t : Text) : Except Flaw Kind :=
  if isCompound t then do
    let (forms, isList) ← readForms t (t.length + 1) 0 t
    let kinds ← forms.mapM ofForm
    match kinds, isList with
    | [kind], false => .ok kind
    | kinds, _ => .ok (recordOf kinds)
  else ofPlain t

/-! ## Descriptions -/

/-- The parts of a literal, if it has some. -/
def partsOf? : Literal → Option (List Literal)
  | .text codes => some (codes.map fun n => .text [n])
  | .octets values => some (values.map fun octet => .int octet.toNat)
  | .tuple items => some items
  | .list items => some items
  | .set items => some items
  | .dictionary entries => some (entries.map Prod.fst)
  | _ => none

def fieldName : Literal → Except Flaw Literal
  | .tuple [_, name] => .ok name
  | .tuple items =>
    .error (if items.length < 2 then .tooFew 2 items.length else .tooMany 2)
  | name => .ok name

def isEmptyText : Literal → Bool
  | .text [] => true
  | _ => false

def checkNames (done : List Codes) : List Literal → Except Flaw Unit
  | [] => .ok ()
  | .text name :: rest =>
    if done.contains name then .error .repeatedName else checkNames (name :: done) rest
  | _ :: _ => .error .fieldName

mutual

def ofLiteral : (fuel : Nat) → Literal → Except Flaw Kind
  | 0, _ => .error .unknown
  | fuel + 1, v =>
    match v with
    | .text codes =>
      match codes.toText? with
      | some t => ofText t
      | none => .error .unknown
    | .tuple [] => .error .emptyTuple
    | .tuple [item] => do
      let _ ← ofLiteral fuel item
      .error .emptyTuple
    | .tuple (item :: extents :: _) => do repeated (← ofLiteral fuel item) extents
    | v =>
      match partsOf? v with
      | none => .error .unknown
      | some fields => do
        let (names, kinds) ← fieldsOf fuel fields
        checkNames [] names
        .ok (recordOf kinds)

def fieldsOf : (fuel : Nat) → List Literal → Except Flaw (List Literal × List Kind)
  | 0, _ => .error .unknown
  | _, [] => .ok ([], [])
  | fuel + 1, field :: rest =>
    match partsOf? field with
    | none => .error .unknown
    | some parts => do
      let (name, kind) ← match parts with
        | [name, kind] => do .ok (name, ← ofLiteral fuel kind)
        | [name, kind, extents] => do .ok (name, ← repeated (← ofLiteral fuel kind) extents)
        | parts => .error (if parts.length < 3 then .tooFew 3 parts.length else .tooMany 3)
      let isGap := isEmptyText name && kind.isRaw
      let names ← if isGap then .ok [] else (fieldName name).map ([·])
      let (others, kinds) ← fieldsOf fuel rest
      .ok (names ++ others, kind :: kinds)

end

end Kind

end ServoScript.Archive
