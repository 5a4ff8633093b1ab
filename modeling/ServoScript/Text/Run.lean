import ServoScript.Text.Basic
import ServoScript.Text.Decimal

/-!
# Tables of characters

A short notation for tables that map characters to lists of characters. An entry has the number of a
character, a mark and the numbers that it is mapped to, with plus signs between them. Behind the first
number, `*n` stands for `n` characters in a row, and `/n` for every second one of a row; the number
that they are mapped to moves along. All numbers are hexadecimal.
-/

namespace ServoScript

/-- A run of characters that are mapped in the same way. -/
structure Run where
  start : Nat
  count : Nat
  step : Nat
  mark : CodePoint
  targets : List Nat

namespace Run

/-- The characters of a run, in the notation of a table. -/
def ofSource (source : Text) (mark : CodePoint) (targets : List Nat) : Run :=
  match Text.split '*' source, Text.split '/' source with
  | [start, count], _ => ⟨Text.natOfHex start, Text.natOfHex count, 1, mark, targets⟩
  | _, [start, count] => ⟨Text.natOfHex start, Text.natOfHex count, 2, mark, targets⟩
  | _, _ => ⟨Text.natOfHex source, 1, 1, mark, targets⟩

def isMark (c : CodePoint) : Bool :=
  c == '=' || c == '~' || c == '<'

def ofEntry (entry : Text) : Run :=
  let source := entry.takeWhile (!isMark ·)
  match entry.drop source.length with
  | mark :: targets =>
    let numbers := (Text.split '+' targets).filter (!·.isEmpty)
    ofSource source mark (numbers.map Text.natOfHex)
  | [] => ofSource source '~' []

def table (t : String) : List Run :=
  (Text.words t).map ofEntry

def contains (r : Run) (n : Nat) : Bool :=
  r.start ≤ n && n < r.start + r.count * r.step && (n - r.start) % r.step = 0

def image (r : Run) (n : Nat) : List Nat :=
  match r.targets with
  | [target] => [target + (n - r.start)]
  | targets => targets

def find? (runs : List Run) (n : Nat) : Option (List Nat) :=
  (runs.find? (·.contains n)).map (·.image n)

end Run

end ServoScript
