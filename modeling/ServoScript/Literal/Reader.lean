import ServoScript.Literal.Escape
import ServoScript.Literal.Numeral
import ServoScript.Literal.SetOrder

/-!
# Reading literals

A literal stands on one line, or on several ones if these are within brackets. What is read may still
have no value, like a set of lists; then the first part without one tells why.
-/

namespace ServoScript.Literal

inductive Flaw where
  /-- An item of a set or a key of a dictionary is of a kind that can change. -/
  | unhashable (kind : Text)
  /-- The entries of a dictionary are those of another one. -/
  | spread
  /-- An integer is too large to be part of a complex number. -/
  | large
  /-- A name stands for no literal. -/
  | name

def Flaw.message : Flaw → Text
  | .unhashable kind => "unhashable type: '" ++ kind ++ "'"
  | .spread => "malformed node or string: None"
  | .large => "int too large to convert to float"
  | .name => "malformed node or string"

/-- What was read: a literal, or why it has no value. -/
abbrev Reading := Except Flaw Literal

/-! ## Parts of literals -/

mutual

def changeable? : Literal → Option Text
  | .list _ => some ("list" : Text)
  | .set _ => some ("set" : Text)
  | .dictionary _ => some ("dict" : Text)
  | .tuple items => firstChangeable? items
  | _ => Option.none

def firstChangeable? : List Literal → Option Text
  | [] => Option.none
  | item :: rest => (changeable? item).or (firstChangeable? rest)

end

def fixed (v : Literal) : Reading :=
  match changeable? v with
  | some kind => .error (.unhashable kind)
  | Option.none => .ok v

/-- The entries of a dictionary with one more. A key keeps its first place and its last value. -/
def putEntry (key value : Literal) : List (Literal × Literal) → List (Literal × Literal)
  | [] => [(key, value)]
  | (k, v) :: rest =>
    if same k key then (k, value) :: rest else (k, v) :: putEntry key value rest

def items : List Reading → Except Flaw (List Literal)
  | [] => .ok []
  | reading :: rest => do
    let v ← reading
    let vs ← items rest
    .ok (v :: vs)

def fixedItems : List Reading → Except Flaw (List Literal)
  | [] => .ok []
  | reading :: rest => do
    let v ← fixed (← reading)
    let vs ← fixedItems rest
    .ok (v :: vs)

/-- The dictionary of entries, behind those of `done`. An entry without a key stands for those of
another dictionary. -/
def dictionaryOf (done : List (Literal × Literal)) : List (Option Reading × Reading) → Reading
  | [] => .ok (.dictionary done)
  | (Option.none, _) :: _ => .error .spread
  | (some key, value) :: rest => do
    let key ← key
    let value ← value
    let key ← fixed key
    dictionaryOf (putEntry key value done) rest

/-! ## Numbers with signs -/

def opposite : Binary64 → Binary64
  | .finite negative significand scale => .finite (!negative) significand scale
  | .infinite negative => .infinite (!negative)
  | .undefined => .undefined

def signed? (negative : Bool) : Literal → Option Literal
  | .int n => some (.int (if negative then -n else n))
  | .float x => some (.float (if negative then opposite x else x))
  | .complex re im =>
    some (if negative then .complex (opposite re) (opposite im) else .complex re im)
  | _ => Option.none

def realPart? : Literal → Option (Except Flaw Binary64)
  | .int n =>
    match Binary64.ofRatio (n < 0) n.natAbs 1 with
    | .infinite _ => some (.error .large)
    | x => some (.ok x)
  | .float x => some (.ok x)
  | _ => Option.none

def joined (negative : Bool) (re im : Binary64) : Literal :=
  let re := if re.isZero && !negative then .finite false 0 0 else re
  .complex re (if negative && !im.isZero then opposite im else im)

def sum? (negative : Bool) (a b : Literal) : Option Reading :=
  match realPart? a, b with
  | some re, .complex _ im => some (re.map (joined negative · im))
  | _, _ => Option.none

/-! ## Gaps -/

/-- What follows blanks and comments. Within brackets the ends of lines are blanks too. A backslash at
the end of a line, other than the last one, joins it with the next one. -/
def skip (isNested inComment : Bool) : Text → Text
  | [] => []
  | '\\' :: '\n' :: c :: rest =>
    if inComment then skip isNested inComment ('\n' :: c :: rest)
    else skip isNested false (c :: rest)
  | c :: rest =>
    if c == '\n' then if isNested then skip isNested false rest else c :: rest
    else if inComment then skip isNested true rest
    else if c == '#' then skip isNested true rest
    else if c == ' ' || c == '\t' || c == '\x0c' then skip isNested false rest
    else c :: rest
termination_by t => t.length

/-! ## Texts -/

inductive Piece where
  | text (codes : Codes)
  | octets (values : List UInt8)

def lettersBefore (t : Text) : Text :=
  (t.takeWhile CodePoint.isAlpha).map CodePoint.toLower

def startsPiece (t : Text) : Bool :=
  let letters := lettersBefore t
  ["", "r", "u", "b", "br", "rb"].any (fun (s : String) => (s : Text) = letters) &&
    (quote? (t.drop letters.length)).isSome

def readPiece (t : Text) : Option (Piece × Text) := do
  let letters := lettersBefore t
  let (q, rest) ← quote? (t.drop letters.length)
  let (content, rest) ← body q [] rest
  let isRaw := letters.contains 'r'
  if letters.contains 'b' then
    let values ← octetBody isRaw content
    return (.octets values, rest)
  else
    let codes ← textBody isRaw content
    return (.text codes, rest)

/-- Two pieces in a row. They are of one sort. -/
def Piece.append? : Piece → Piece → Option Piece
  | .text s, .text t => some (.text (s ++ t))
  | .octets s, .octets t => some (.octets (s ++ t))
  | _, _ => Option.none

def readPieces (isNested : Bool) (first : Piece) : (fuel : Nat) → Text → Option (Piece × Text)
  | 0, _ => Option.none
  | fuel + 1, t =>
    let next := skip isNested false t
    if startsPiece next then do
      let (piece, rest) ← readPiece next
      let both ← first.append? piece
      readPieces isNested both fuel rest
    else some (first, t)

def Piece.literal : Piece → Literal
  | .text codes => .text codes
  | .octets values => .octets values

/-! ## Literals -/

def maxDepth : Nat := 200

def keywords : List String :=
  ["and", "as", "assert", "async", "await", "break", "class", "continue", "def", "del", "elif",
    "else", "except", "finally", "for", "from", "global", "if", "import", "in", "is", "lambda",
    "nonlocal", "not", "or", "pass", "raise", "return", "try", "while", "with", "yield"]

/-- Reads a name. Few names stand for literals, and a name of basic characters for none at all. -/
def readName (isNested : Bool) (t : Text) : Option (Reading × Text) :=
  let name := t.takeWhile isNameChar
  let rest := t.dropWhile isNameChar
  if name = ("None" : Text) then some (.ok .none, rest)
  else if name = ("True" : Text) then some (.ok (.bool true), rest)
  else if name = ("False" : Text) then some (.ok (.bool false), rest)
  else if name.isEmpty || keywords.any (fun (word : String) => (word : Text) = name) ||
      !name.all (fun c => c.toNat < 0x80) then Option.none
  else
    match decide (name = ("set" : Text)), skip isNested false rest with
    | true, '(' :: inner =>
      match skip true false inner with
      | ')' :: rest => some (.ok (.set []), rest)
      | _ => Option.none
    | _, _ => some (.error .name, rest)

mutual

def readValue : (fuel depth : Nat) → Text → Option (Reading × Text)
  | 0, _, _ => Option.none
  | fuel + 1, depth, t => do
    let isNested := 0 < depth
    let (a, rest) ← readSigned fuel depth (skip isNested false t)
    let sign := skip isNested false rest
    match a, sign with
    | .ok a, c :: after =>
      if c == '+' || c == '-' then
        let (b, rest) ← readAtom fuel depth (skip isNested false after)
        match b with
        | .ok b => return (← sum? (c == '-') a b, rest)
        | .error _ => Option.none
      else return (.ok a, rest)
    | a, _ => return (a, rest)

def readSigned : (fuel depth : Nat) → Text → Option (Reading × Text)
  | 0, _, _ => Option.none
  | fuel + 1, depth, t =>
    match t with
    | c :: after =>
      if c == '-' || c == '+' then do
        let (v, rest) ← readAtom fuel depth (skip (0 < depth) false after)
        match v with
        | .ok v => return (.ok (← signed? (c == '-') v), rest)
        | .error _ => Option.none
      else readAtom fuel depth t
    | [] => Option.none

def readAtom : (fuel depth : Nat) → Text → Option (Reading × Text)
  | 0, _, _ => Option.none
  | fuel + 1, depth, t =>
    let inside := depth + 1
    match t with
    | [] => Option.none
    | '.' :: '.' :: '.' :: rest => some (.ok .ellipsis, rest)
    | c :: after =>
      if c == '(' || c == '[' || c == '\x7b' then
        if maxDepth < inside then Option.none
        else if c == '(' then do
          let (readings, isSingle, rest) ← readItems fuel inside ')' after
          match readings, isSingle with
          | [reading], true => return (reading, rest)
          | readings, _ => return ((items readings).map .tuple, rest)
        else if c == '[' then do
          let (readings, _, rest) ← readItems fuel inside ']' after
          return ((items readings).map .list, rest)
        else readBraces fuel inside (skip true false after)
      else if startsPiece t then do
        let (first, rest) ← readPiece t
        let (piece, rest) ← readPieces (0 < depth) first t.length rest
        return (.ok piece.literal, rest)
      else if startsNumber t then do
        let (v, rest) ← readNumber t
        return (.ok v, rest)
      else readName (0 < depth) t

def readItems : (fuel depth : Nat) → (close : CodePoint) → Text →
    Option (List Reading × Bool × Text)
  | 0, _, _, _ => Option.none
  | fuel + 1, depth, close, t =>
    match skip true false t with
    | [] => Option.none
    | c :: rest =>
      if c == close then some ([], false, rest)
      else do
        let (reading, rest) ← readValue fuel depth (c :: rest)
        match skip true false rest with
        | ',' :: rest =>
          let (readings, _, rest) ← readItems fuel depth close rest
          return (reading :: readings, false, rest)
        | d :: rest => if d == close then some ([reading], true, rest) else Option.none
        | [] => Option.none

/-- Reads a set or a dictionary behind its brace. The first entry tells which one it is. -/
def readBraces : (fuel depth : Nat) → Text → Option (Reading × Text)
  | 0, _, _ => Option.none
  | fuel + 1, depth, t =>
    match t with
    | '\x7d' :: rest => some (.ok (.dictionary []), rest)
    | '*' :: '*' :: _ => do
      let (entries, rest) ← readEntries fuel depth t
      return (dictionaryOf [] entries, rest)
    | _ => do
      let (first, rest) ← readValue fuel depth t
      match skip true false rest with
      | ':' :: rest =>
        let (value, rest) ← readValue fuel depth rest
        let (entries, rest) ← endEntry fuel depth (some first, value) rest
        return (dictionaryOf [] entries, rest)
      | ',' :: rest =>
        let (readings, _, rest) ← readItems fuel depth '\x7d' rest
        return ((fixedItems (first :: readings)).map fun vs => .set (setOrder vs), rest)
      | '\x7d' :: rest =>
        return ((fixedItems [first]).map fun vs => .set (setOrder vs), rest)
      | _ => Option.none

def readEntries : (fuel depth : Nat) → Text → Option (List (Option Reading × Reading) × Text)
  | 0, _, _ => Option.none
  | fuel + 1, depth, t => do
    match skip true false t with
    | '\x7d' :: rest => return ([], rest)
    | '*' :: '*' :: rest =>
      let (value, rest) ← readValue fuel depth rest
      endEntry fuel depth (Option.none, value) rest
    | t =>
      let (key, rest) ← readValue fuel depth t
      match skip true false rest with
      | ':' :: rest =>
        let (value, rest) ← readValue fuel depth rest
        endEntry fuel depth (some key, value) rest
      | _ => Option.none

def endEntry : (fuel depth : Nat) → (entry : Option Reading × Reading) → Text →
    Option (List (Option Reading × Reading) × Text)
  | 0, _, _, _ => Option.none
  | fuel + 1, depth, entry, t =>
    match skip true false t with
    | ',' :: rest => do
      let (entries, rest) ← readEntries fuel depth rest
      return (entry :: entries, rest)
    | '\x7d' :: rest => some ([entry], rest)
    | _ => Option.none

end

/-! ## Whole texts -/

def withLineEnds : Text → Text
  | [] => []
  | '\r' :: '\n' :: rest => '\n' :: withLineEnds rest
  | '\r' :: rest => '\n' :: withLineEnds rest
  | c :: rest => c :: withLineEnds rest

/-- What follows lines without content. The line with content has no margin, which a form feed starts
anew; nothing is told of one that has. -/
def skipLines (margin : Nat) (inComment : Bool) : Text → Option Text
  | [] => if margin = 0 || inComment then some [] else Option.none
  | c :: rest =>
    if c == '\n' then skipLines 0 false rest
    else if inComment then skipLines margin true rest
    else if c == '#' then skipLines margin true rest
    else if c == ' ' || c == '\t' then skipLines (margin + 1) false rest
    else if c == '\x0c' then skipLines 0 false rest
    else if margin = 0 then some (c :: rest)
    else Option.none

def readBare : (fuel : Nat) → Text → Option (List Reading × Bool × Text)
  | 0, _ => Option.none
  | fuel + 1, t => do
    let (reading, rest) ← readValue (4 * t.length + 8) 0 t
    match skip false false rest with
    | ',' :: rest =>
      match skip false false rest with
      | [] => return ([reading], false, [])
      | '\n' :: rest => return ([reading], false, '\n' :: rest)
      | next =>
        let (readings, _, rest) ← readBare fuel next
        return (reading :: readings, false, rest)
    | rest => return ([reading], true, rest)

/-- The literal that a whole text is, or why it has no value; nothing, if it cannot be read. -/
def read (t : Text) : Option Reading := do
  if t.contains '\x00' then Option.none
  let t := withLineEnds (t.dropWhile fun (c : CodePoint) => c == ' ' || c == '\t')
  let t ← skipLines 0 false t
  let (readings, isSingle, rest) ← readBare (t.length + 1) t
  let rest ← match rest with
    | [] => some []
    | '\n' :: rest => skipLines 0 false rest
    | _ => Option.none
  if !rest.isEmpty then Option.none
  match readings, isSingle with
  | [reading], true => return reading
  | readings, _ => return (items readings).map .tuple

end ServoScript.Literal
