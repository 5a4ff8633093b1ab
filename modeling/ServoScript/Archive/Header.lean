import ServoScript.Archive.Kind
import ServoScript.Literal.OldNotation
import ServoScript.Text.Utf8

/-!
# The header of an array file

A file with a single array starts with a mark, a version, and a header that tells the kind of the
entries, their order and the extents of the array.
-/

namespace ServoScript.Archive

inductive Header.Flaw where
  /-- The file ends too early. -/
  | short (part : Text) (expected actual : Nat)
  | version (major minor : Nat)
  | undecodable (flaw : Utf8.Flaw)
  | long (length : Nat)
  | lexeme (flaw : Literal.Lexeme.Flaw)
  | malformed (header : Text)
  | literal (flaw : Literal.Flaw)
  | notDictionary (v : Literal)
  | keys (found : List Literal)
  | incomparable (kinds : Literal.Incomparable)
  /-- A number has too many digits to be written. -/
  | unwritable
  | shape (v : Literal)
  | order (v : Literal)
  | unknownKind (v : Literal)
  | kind (flaw : Kind.Flaw)
  | foreign
  | hugeExtent
  | negativeCount
  | incomplete (extents : Literal) (expected : Int) (actual : Nat)
  /-- An extent is a truth value. -/
  | boolExtent
  | deep (directions : Nat)
  | twoUnknown
  | unfit (size : Nat) (extents : List Int)

def Header.shownExtents (extents : List Int) : Text :=
  let texts := extents.map fun n => if n < 0 then ("newaxis" : Text) else Text.ofInt n
  CodePoint.char '(' :: List.intercalate [CodePoint.char ','] texts ++ (if extents.length = 1 then ",)" else ")")

def Header.Flaw.message : Header.Flaw → Text
  | .short part expected actual =>
    "EOF: reading " ++ part ++ ", expected " ++ Text.ofNat expected ++ " bytes got " ++
      Text.ofNat actual
  | .version major minor =>
    "we only support format version (1,0), (2,0), and (3,0), not (" ++ Text.ofNat major ++ ", " ++
      Text.ofNat minor ++ ")"
  | .undecodable flaw => flaw.message
  | .long length =>
    "Header info length (" ++ Text.ofNat length ++ ") is large and may not be safe to load " ++
      "securely.\nTo allow loading, adjust `max_header_size` or fully trust the `.npy` file using " ++
      "`allow_pickle=True`.\nFor safety against large resource use or crashes, sandboxing may be " ++
      "necessary."
  | .lexeme flaw => flaw.message
  | .malformed header => "Cannot parse header: " ++ Text.quoted header
  | .literal flaw => flaw.message
  | .notDictionary v => "Header is not a dictionary: " ++ v.shown
  | .keys found => "Header does not contain the correct keys: " ++ (Literal.list found).shown
  | .incomparable kinds =>
    "'<' not supported between instances of '" ++ kinds.left ++ "' and '" ++ kinds.right ++ "'"
  | .unwritable =>
    "Exceeds the limit (4300 digits) for integer string conversion; " ++
      "use sys.set_int_max_str_digits() to increase the limit"
  | .shape v => "shape is not valid: " ++ v.shown
  | .order v => "fortran_order is not a valid bool: " ++ v.shown
  | .unknownKind v => "descr is not a valid dtype descriptor: " ++ v.shown
  | .kind flaw => flaw.message
  | .foreign => "Object arrays cannot be loaded when allow_pickle=False"
  | .hugeExtent => "Python int too large to convert to C long"
  | .negativeCount => "negative dimensions are not allowed"
  | .incomplete extents expected actual =>
    "Failed to read all data for array. Expected " ++ extents.shown ++ " = " ++ Text.ofInt expected ++
      " elements, could only read " ++ Text.ofNat actual ++
      " elements. (file seems not fully written?)"
  | .boolExtent => "an integer is required"
  | .deep directions =>
    "maximum supported dimension for an ndarray is currently 64, found " ++ Text.ofNat directions
  | .twoUnknown => "can only specify one unknown dimension"
  | .unfit size extents =>
    "cannot reshape array of size " ++ Text.ofNat size ++ " into shape " ++
      Header.shownExtents extents

structure Header where
  kind : Kind
  /-- Whether the entries are stored column by column. -/
  isByColumns : Bool
  extents : List Literal

namespace Header

def mark : List UInt8 := [0x93, 0x4E, 0x55, 0x4D, 0x50, 0x59]

def maxLength : Nat := 10000

def maxExtents : Nat := 64

def takeOctets (part : Text) (count : Nat) (octets : List UInt8) :
    Except Flaw (List UInt8 × List UInt8) :=
  if octets.length < count then .error (.short part count octets.length)
  else .ok (octets.take count, octets.drop count)

/-! ## The literal -/

def ofReading : Literal.Reading → Except Flaw Literal
  | .ok v => .ok v
  | .error flaw => .error (.literal flaw)

/-- The literal of a header. In the older versions a number may have a letter behind it. -/
def literalOf (isOld : Bool) (header : Text) : Except Flaw Literal :=
  match Literal.read header with
  | some reading => ofReading reading
  | none =>
    if !isOld then .error (.malformed header)
    else
      match Literal.withoutLetters header with
      | .error flaw => .error (.lexeme flaw)
      | .ok bare =>
        match Literal.read bare with
        | some reading => ofReading reading
        | none => .error (.malformed bare)

def showing (v : Literal) (flaw : Flaw) : Flaw :=
  if v.isWritable then flaw else .unwritable

def valueOf (key : String) (entries : List (Literal × Literal)) : Literal :=
  ((entries.find? fun
    | (.text k, _) => k = Codes.ofText key
    | _ => false).map Prod.snd).getD .none

def keyNames : List String := ["descr", "fortran_order", "shape"]

def isKey : Literal → Bool
  | .text codes => keyNames.any fun key => Codes.ofText key = codes
  | _ => false

def isExtent : Literal → Bool
  | .int _ => true
  | .bool _ => true
  | _ => false

def ofLiteral : Literal → Except Flaw Header
  | .dictionary entries => do
    let keys := entries.map Prod.fst
    if keys.length ≠ keyNames.length || !keys.all isKey then
      match Literal.sort keys with
      | .error kinds => .error (.incomparable kinds)
      | .ok keys => .error (showing (.list keys) (.keys keys))
    let shape := valueOf "shape" entries
    let order := valueOf "fortran_order" entries
    let description := valueOf "descr" entries
    match shape, order with
    | .tuple extents, order =>
      if !extents.all isExtent then .error (showing shape (.shape shape))
      match order with
      | .bool isByColumns =>
        match Kind.ofLiteral (maxLength + 1) description with
        | .ok kind => .ok ⟨kind, isByColumns, extents⟩
        | .error .unknown => .error (showing description (.unknownKind description))
        | .error flaw => .error (.kind flaw)
      | order => .error (showing order (.order order))
    | shape, _ => .error (showing shape (.shape shape))
  | v => .error (showing v (.notDictionary v))

def textOf (major : Nat) (octets : List UInt8) : Except Flaw Text :=
  if major < 3 then .ok (octets.map fun octet => CodePoint.ofNat octet.toNat)
  else match Utf8.decode octets with
    | .ok t => .ok t
    | .error flaw => .error (.undecodable flaw)

def read (octets : List UInt8) : Except Flaw (Header × List UInt8) := do
  let (start, octets) ← takeOctets "magic string" 8 octets
  let major := Octets.numberAt start 6 1
  let minor := Octets.numberAt start 7 1
  if minor ≠ 0 || major < 1 || 3 < major then .error (.version major minor)
  let (size, octets) ← takeOctets "array header length" (if major = 1 then 2 else 4) octets
  let (header, content) ← takeOctets "array header" (Octets.number size) octets
  let header ← textOf major header
  if maxLength < header.length then .error (.long header.length)
  .ok (← ofLiteral (← literalOf (major < 3) header), content)

/-! ## Extents -/

def extentNumber : Literal → Int
  | .int n => n
  | .bool b => if b then 1 else 0
  | _ => 0

def numbers (h : Header) : List Int :=
  h.extents.map extentNumber

/-- The number that an extent counts as among others. If one needs all 64 bits for its magnitude and
another one does not, both are taken as floating-point numbers first. -/
def countedAs (isMixed : Bool) (n : Int) : Int :=
  if !isMixed then Int.bmod n (Nat.pow 2 64)
  else match (Binary64.ofRatio (n < 0) n.natAbs 1).toInt? with
    | some m => if -(Nat.pow 2 63) ≤ m && m < Nat.pow 2 63 then m else -(Nat.pow 2 63)
    | none => -(Nat.pow 2 63)

/-- The number of entries: the product of the extents in 64 bits. -/
def count (h : Header) : Except Flaw Int :=
  let ns := h.numbers
  if ns.any fun n => n < -(Nat.pow 2 63) || Nat.pow 2 64 ≤ n then .error .hugeExtent
  else
    let isMixed := ns.any (Nat.pow 2 63 ≤ ·) && ns.any (· < Nat.pow 2 63)
    .ok (ns.foldl (fun product n => Int.bmod (product * countedAs isMixed n) (Nat.pow 2 64)) 1)

/-- The extents of an array with `size` entries. One of them may be unknown. -/
def fit (h : Header) (size : Nat) : Except Flaw (List Nat) := do
  let ns := if h.isByColumns then h.numbers.reverse else h.numbers
  if maxExtents < ns.length then .error (.deep ns.length)
  if h.extents.any fun
    | .bool _ => true
    | _ => false then .error .boolExtent
  let known := (ns.filter (0 ≤ ·)).foldl (fun product n => product * n.toNat) 1
  match ns.filter (· < 0) with
  | [] => .ok (h.numbers.map Int.toNat)
  | [_] =>
    if known = 0 || size % known ≠ 0 then .error (.unfit size ns)
    else .ok (h.numbers.map fun n => if n < 0 then size / known else n.toNat)
  | _ => .error .twoUnknown

/-- Checks what a file with a single array has behind its header. All octets are taken if the count
is negative. -/
def checkFile (h : Header) (content : List UInt8) : Except Flaw Unit := do
  let count ← h.count
  if h.kind.hasForeign then .error .foreign
  let size := h.kind.size
  if size = 0 && count < 0 then .error .negativeCount
  let available := content.length / size
  let taken := if size = 0 then count.toNat
    else if count < 0 then available else min count.toNat available
  let actual := taken * h.kind.cells
  if (actual : Int) ≠ count then .error (.incomplete (.tuple h.extents) count actual)
  let _ ← h.fit actual
  .ok ()

end Header

end ServoScript.Archive
