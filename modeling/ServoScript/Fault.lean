import ServoScript.Json.Reader
import ServoScript.Text.Utf8

/-!
# Faults

Everything that can stop an operation, by its cause, and the wording of each cause.
-/

namespace ServoScript

/-- The causes that stop an operation. -/
inductive Fault where
  /-- A value of this kind stands for no integer. -/
  | notInteger (kind : Json.Kind)
  /-- A text is no integer numeral; `shown` is how the message shows it. -/
  | malformedNumeral (shown : Text)
  /-- A numeral has more digits than are read. -/
  | tooManyDigits (digits : Nat)
  /-- An infinite number has no whole part. -/
  | infiniteNumber
  /-- An undefined number has no whole part. -/
  | undefinedNumber
  /-- A token is no unsigned decimal numeral. -/
  | notUnsigned (token : Text)
  /-- An unsigned numeral lies beyond the 16-bit words. -/
  | aboveWord (value : Nat)
  /-- A value of this kind has no length. -/
  | unsized (kind : Json.Kind)
  /-- A value of this kind has no items to go through. -/
  | notIterable (kind : Json.Kind)
  /-- A value of this kind does not offer the named operation. -/
  | unsupported (kind : Json.Kind) (operation : Text)
  /-- Values of two kinds are not comparable. -/
  | incomparable (relation : Text) (left right : Json.Kind)
  /-- A value of this kind is no position in a container. -/
  | notPosition (container : Text) (kind : Json.Kind)
  /-- A position lies outside of its list. -/
  | outsideList
  /-- A position is beyond all lists. -/
  | hugePosition
  /-- A number of items is beyond all lists. -/
  | hugeCount
  /-- There is no room for so many items. -/
  | noRoom
  /-- A value of this kind has no successor. -/
  | noSuccessor (kind : Json.Kind)
  /-- An integer has too many digits to be written. -/
  | tooLongToWrite
  /-- An object has no member under a number. -/
  | absentKey (key : Nat)
  /-- A subroutine for no channels at all. -/
  | noChannels
  /-- A file is no text. -/
  | undecodable (flaw : Utf8.Flaw)
  /-- A text is no document. -/
  | unreadable (document : Text) (flaw : Json.Flaw)
  /-- A file was expected where a folder is. -/
  | isFolder (path : Text)
  /-- A folder was expected where a file is. -/
  | isFile (path : Text)
  /-- The folder of a file is missing. -/
  | noFolder (path : Text)
  /-- A file stands where the folder of a file should be. -/
  | notFolder (path : Text)
  /-- A value of this kind is no name of a file. -/
  | notFileName (kind : Json.Kind)
  /-- An archive without channels. -/
  | emptyArchive
  /-- A value of this kind is no extent of an array. -/
  | notExtent (kind : Json.Kind)
  /-- An extent is beyond all arrays. -/
  | hugeExtent
  /-- An array has more octets than there can be. -/
  | hugeArray
  /-- There is no room for an array of this size and shape, with entries of a kind. -/
  | noRoomForArray (size shape kind : Text)
  /-- A list is nested too deeply for an array. -/
  | tooDeep (directions : Nat)
  /-- The lists in a list are not all alike; the shape is known for some directions. -/
  | ragged (directions : Nat) (shape : Text)
  /-- An array holds 16-bit words only. -/
  | notWord (value : Int)
  /-- An integer does not fit into 64 bits. -/
  | notLong

namespace Fault

def shownLimit : Nat := 200

def message : Fault → Text
  | .notInteger kind =>
    "int() argument must be a string, a bytes-like object or a real number, not '" ++
      kind.label ++ "'"
  | .malformedNumeral shown => "invalid literal for int() with base 10: " ++ shown.take shownLimit
  | .tooManyDigits digits => Numeral.tooLongMessage digits
  | .infiniteNumber => "cannot convert float infinity to integer"
  | .undefinedNumber => "cannot convert float NaN to integer"
  | .notUnsigned token => Text.quoted token ++ " is not an unsigned integer"
  | .aboveWord value => Text.ofNat value ++ " is outside 0..65535"
  | .unsized kind => "object of type '" ++ kind.label ++ "' has no len()"
  | .notIterable kind => "'" ++ kind.label ++ "' object is not iterable"
  | .unsupported kind operation =>
    "'" ++ kind.label ++ "' object has no attribute '" ++ operation ++ "'"
  | .incomparable relation left right =>
    "'" ++ relation ++ "' not supported between instances of '" ++ left.label ++ "' and '" ++
      right.label ++ "'"
  | .notPosition container kind =>
    container ++ " indices must be integers or slices, not " ++ kind.label
  | .outsideList => "list index out of range"
  | .hugePosition => "cannot fit 'int' into an index-sized integer"
  | .hugeCount => "cannot fit 'int' into an index-sized integer"
  | .noRoom => ""
  | .noSuccessor kind =>
    match kind with
    | .text => "can only concatenate str (not \"int\") to str"
    | .list => "can only concatenate list (not \"int\") to list"
    | _ => "unsupported operand type(s) for +: '" ++ kind.label ++ "' and 'int'"
  | .tooLongToWrite =>
    "Exceeds the limit (4300 digits) for integer string conversion; " ++
      "use sys.set_int_max_str_digits() to increase the limit"
  | .absentKey key => Text.ofNat key
  | .noChannels => "frame_subroutine_name: channels must be non-empty"
  | .undecodable flaw => flaw.message
  | .unreadable document flaw => flaw.message document
  | .isFolder path => "[Errno 21] Is a directory: " ++ Text.quoted path
  | .isFile path => "[Errno 17] File exists: " ++ Text.quoted path
  | .noFolder path => "[Errno 2] No such file or directory: " ++ Text.quoted path
  | .notFolder path => "[Errno 20] Not a directory: " ++ Text.quoted path
  | .notFileName kind =>
    "unsupported operand type(s) for /: 'PosixPath' and '" ++ kind.label ++ "'"
  | .emptyArchive => "channel_count must be >= 1"
  | .notExtent .bool => "an integer is required"
  | .notExtent kind => "'" ++ kind.label ++ "' object cannot be interpreted as an integer"
  | .hugeExtent => "Maximum allowed dimension exceeded"
  | .hugeArray =>
    "array is too big; `arr.size * arr.dtype.itemsize` is larger than the maximum possible size."
  | .noRoomForArray size shape kind =>
    "Unable to allocate " ++ size ++ " for an array with shape " ++ shape ++ " and data type " ++ kind
  | .tooDeep directions =>
    "setting an array element with a sequence. The requested array would exceed the maximum " ++
      "number of dimension of " ++ Text.ofNat directions ++ "."
  | .ragged directions shape =>
    "setting an array element with a sequence. The requested array has an inhomogeneous shape " ++
      "after " ++ Text.ofNat directions ++ " dimensions. The detected shape was " ++ shape ++
      " + inhomogeneous part."
  | .notWord value => "Python integer " ++ Text.ofInt value ++ " out of bounds for uint16"
  | .notLong => "Python int too large to convert to C long"

/-- The name of the class of a fault. -/
def className : Fault → Text
  | .notInteger _ => "TypeError"
  | .malformedNumeral _ => "ValueError"
  | .tooManyDigits _ => "ValueError"
  | .infiniteNumber => "OverflowError"
  | .undefinedNumber => "ValueError"
  | .notUnsigned _ => "ValueError"
  | .aboveWord _ => "ValueError"
  | .unsized _ => "TypeError"
  | .notIterable _ => "TypeError"
  | .unsupported _ _ => "AttributeError"
  | .incomparable _ _ _ => "TypeError"
  | .notPosition _ _ => "TypeError"
  | .outsideList => "IndexError"
  | .hugePosition => "IndexError"
  | .hugeCount => "OverflowError"
  | .noRoom => "MemoryError"
  | .noSuccessor _ => "TypeError"
  | .tooLongToWrite => "ValueError"
  | .absentKey _ => "KeyError"
  | .noChannels => "ValueError"
  | .undecodable _ => "UnicodeDecodeError"
  | .unreadable _ (.lack _ _) => "JSONDecodeError"
  | .unreadable _ (.tooManyDigits _) => "ValueError"
  | .isFolder _ => "IsADirectoryError"
  | .isFile _ => "FileExistsError"
  | .noFolder _ => "FileNotFoundError"
  | .notFolder _ => "NotADirectoryError"
  | .notFileName _ => "TypeError"
  | .emptyArchive => "ValueError"
  | .notExtent _ => "TypeError"
  | .hugeExtent => "ValueError"
  | .hugeArray => "ValueError"
  | .noRoomForArray _ _ _ => "_ArrayMemoryError"
  | .tooDeep _ => "ValueError"
  | .ragged _ _ => "ValueError"
  | .notWord _ => "OverflowError"
  | .notLong => "OverflowError"

def isSystem : Fault → Bool
  | .isFolder _ => true
  | .isFile _ => true
  | .noFolder _ => true
  | .notFolder _ => true
  | _ => false

end Fault

namespace Numeral

/-- Integers are written out only up to a number of digits. -/
def checkShort (ns : List Int) : Except Fault Unit :=
  if ns.all isShort then .ok () else .error .tooLongToWrite

theorem checkShort_eq_ok {ns : List Int} (h : ∀ n ∈ ns, isShort n = true) : checkShort ns = .ok () :=
  if_pos (List.all_eq_true.mpr h)

theorem checkShort_eq_error {ns : List Int} (h : ¬ ∀ n ∈ ns, isShort n = true) :
    checkShort ns = .error .tooLongToWrite :=
  if_neg fun hall => h (List.all_eq_true.mp hall)

theorem checkShort_append (ms ns : List Int) :
    checkShort (ms ++ ns) = (do checkShort ms; checkShort ns) := by
  rw [checkShort, checkShort, checkShort, List.all_append]
  cases ms.all isShort <;> cases ns.all isShort <;> rfl

end Numeral

end ServoScript
