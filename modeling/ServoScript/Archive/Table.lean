import ServoScript.Archive.Time
import ServoScript.Json.Coercion
import ServoScript.Number.Width
import ServoScript.Text.Quoted
import ServoScript.Word

/-!
# Arrays

An array has an extent in each direction and entries of one kind, row by row.
-/

namespace ServoScript.Archive

inductive Entries where
  | texts (values : List Text)
  | integers (values : List Int)
  | floats (values : List Binary64)
  /-- Floating-point numbers with fewer bits. -/
  | narrow (width : Width) (values : List Binary64)
  | complexes (width : Width) (values : List (Binary64 × Binary64))
  | spans (unit : TimeUnit) (factor : Nat) (values : List Int)
  | moments (unit : TimeUnit) (factor : Nat) (values : List Int)
  | bools (values : List Bool)
  | octets (values : List (List UInt8))
  /-- Entries of no fixed kind, which are not read. -/
  | foreign

/-- An array with its extent in each direction. -/
structure Table where
  shape : List Nat
  entries : Entries

/-- A stored text: the null characters at its end are lost. -/
def stored (t : Text) : Text :=
  (t.reverse.dropWhile (· == CodePoint.char '\x00')).reverse

/-- Stored octets: the zeros at their end are lost. -/
def storedOctets (octets : List UInt8) : List UInt8 :=
  (octets.reverse.dropWhile (· == 0)).reverse

/-- The number of characters that a stored text takes; at least one. -/
def textWidth (values : List Text) : Nat :=
  values.foldl (fun width t => max width t.length) 1

/-- The number of entries that a shape has room for. -/
def volume (shape : List Nat) : Nat :=
  shape.foldl (· * ·) 1

/-- The parts of a list with `count` parts of `size` entries each. -/
def parts {α : Type} (size : Nat) : (count : Nat) → List α → List (List α)
  | 0, _ => []
  | count + 1, l => l.take size :: parts size count (l.drop size)

namespace Entries

def length : Entries → Nat
  | .texts values => values.length
  | .integers values => values.length
  | .floats values => values.length
  | .narrow _ values => values.length
  | .complexes _ values => values.length
  | .spans _ _ values => values.length
  | .moments _ _ values => values.length
  | .bools values => values.length
  | .octets values => values.length
  | .foreign => 0

def boolText (b : Bool) : Text :=
  if b then "True" else "False"

def labels : Entries → List Text
  | .texts values => values.map stored
  | .integers values => values.map Text.ofInt
  | .floats values => values.map Binary64.text
  | .narrow width values => values.map width.text
  | .complexes width values => values.map fun (re, im) => width.complexText re im
  | .spans unit factor values => values.map (Time.spanText unit factor)
  | .moments unit factor values => values.map (Time.momentText unit factor)
  | .bools values => values.map boolText
  | .octets values => values.map fun octets => Octets.shown (storedOctets octets)
  | .foreign => []

def minLong : Int := -(Nat.pow 2 63)

def isLong (n : Int) : Bool :=
  minLong ≤ n && n < Nat.pow 2 63

/-- An integer modulo `2 ^ 64`, as a signed one. -/
def wrap (n : Int) : Int :=
  Int.bmod n (Nat.pow 2 64)

/-- A floating-point number without its fraction; the least integer, if it has not 64 bits. -/
def truncate (x : Binary64) : Int :=
  match (Json.float x).toInt with
  | .ok n => if isLong n then n else minLong
  | .error _ => minLong

def longOfText (t : Text) : Except Fault Int := do
  let t := stored t
  let n ← Json.intOfText ("np.str_(" ++ Text.quoted t ++ ")") t
  if isLong n then .ok n else .error .notLong

/-- The integer of 64 bits that stored octets stand for. They are basic characters. -/
def longOfOctets (octets : List UInt8) : Except Fault Int := do
  let octets := storedOctets octets
  let t := octets.map fun octet => if octet < 0x80 then CodePoint.ofNat octet.toNat else '?'
  let n ← Json.intOfText (Octets.shown octets) t
  if isLong n then .ok n else .error .notLong

def toLongs : Entries → Except Fault (List Int)
  | .texts values => values.mapM longOfText
  | .integers values => .ok (values.map wrap)
  | .floats values => .ok (values.map truncate)
  | .narrow _ values => .ok (values.map truncate)
  | .complexes _ values => .ok (values.map fun (re, _) => truncate re)
  | .spans _ _ values => .ok values
  | .moments _ _ values => .ok values
  | .octets values => values.mapM longOfOctets
  | .bools values => .ok (values.map fun b => if b then 1 else 0)
  | .foreign => .ok []

end Entries

end ServoScript.Archive
