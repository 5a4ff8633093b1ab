import ServoScript.Json.Basic
import ServoScript.Text.Numeral

/-!
# Writing documents

Documents as ASCII text. A spread document has one item or member on a line, two blanks deeper than
what holds it; a compact one has no layout at all.
-/

namespace ServoScript.Json

def hexEscape (n : Nat) : Text :=
  "\\u" ++ Text.hex 4 n

/-- One character of a written text. Those outside the visible ASCII ones are written by number,
beyond 16 bits as a surrogate pair. -/
def writtenChar (c : CodePoint) : Text :=
  if c == '"' then "\\\""
  else if c == '\\' then "\\\\"
  else if c == '\n' then "\\n"
  else if c == '\r' then "\\r"
  else if c == '\t' then "\\t"
  else if c == '\x0c' then "\\f"
  else if c == '\x08' then "\\b"
  else if ' ' ≤ c && c ≤ '~' then [c]
  else if c.toNat < 0x10000 then hexEscape c.toNat
  else
    let n := c.toNat - 0x10000
    hexEscape (0xD800 + n / 0x400) ++ hexEscape (0xDC00 + n % 0x400)

def writtenText (t : Text) : Text :=
  CodePoint.char '"' :: t.flatMap writtenChar ++ [CodePoint.char '"']

def writtenFloat : Binary64 → Text
  | .infinite negative => if negative then "-Infinity" else "Infinity"
  | .undefined => "NaN"
  | x => x.text

/-- The layout of a document: what stands before an item at some depth, and behind a key. -/
structure Style where
  newline : Nat → Text
  colon : Text

def Style.spread : Style := ⟨fun depth => '\n' :: List.replicate (2 * depth) (CodePoint.char ' '), ": "⟩

def Style.compact : Style := ⟨fun _ => [], ":"⟩

/-- Written parts inside a list or an object that stands at `depth`. -/
def Style.enclosed (style : Style) (depth : Nat) (left right : CodePoint) (parts : List Text) : Text :=
  if parts.isEmpty then [left, right]
  else
    let line := style.newline (depth + 1)
    left :: line ++ List.intercalate (CodePoint.char ',' :: line) parts ++ style.newline depth ++ [right]

mutual

/-- The written form of a value that stands at `depth`. -/
def write (style : Style) (depth : Nat) : Json → Text
  | .null => "null"
  | .bool true => "true"
  | .bool false => "false"
  | .int n => Text.ofInt n
  | .float x => writtenFloat x
  | .text t => writtenText t
  | .list items => style.enclosed depth '[' ']' (writeItems style (depth + 1) items)
  | .object members =>
    style.enclosed depth '\x7b' '\x7d' (writeMembers style (depth + 1) members)

def writeItems (style : Style) (depth : Nat) : List Json → List Text
  | [] => []
  | item :: rest => write style depth item :: writeItems style depth rest

def writeMembers (style : Style) (depth : Nat) : Members → List Text
  | [] => []
  | (key, value) :: rest =>
    (writtenText key ++ style.colon ++ write style depth value) :: writeMembers style depth rest

end

mutual

def isWritable : Json → Bool
  | .int n => Numeral.isShort n
  | .list items => areWritable items
  | .object members => areWritableMembers members
  | _ => true

def areWritable : List Json → Bool
  | [] => true
  | item :: rest => isWritable item && areWritable rest

def areWritableMembers : Members → Bool
  | [] => true
  | (_, value) :: rest => isWritable value && areWritableMembers rest

end

def spread (v : Json) : Text :=
  v.write .spread 0

def compact (v : Json) : Text :=
  v.write .compact 0

end ServoScript.Json
