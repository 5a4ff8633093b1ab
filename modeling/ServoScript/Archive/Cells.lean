import ServoScript.Archive.Header
import ServoScript.Archive.Table

/-!
# Entries from octets

The array in a file within an archive. Its entries are cut from what follows the header, each of the
size that their kind tells, and are put row by row.
-/

namespace ServoScript.Archive

inductive Cells.Flaw where
  | header (flaw : Header.Flaw)
  /-- Entries of this kind have no values here. -/
  | unread

def Cells.Flaw.message : Cells.Flaw → Text
  | .header flaw => flaw.message
  | .unread => "unsupported kind of entries"

namespace Cells

def numberIn (isBig : Bool) (octets : List UInt8) : Nat :=
  Octets.number (if isBig then octets.reverse else octets)

def signedIn (isBig : Bool) (size : Nat) (octets : List UInt8) : Int :=
  Int.bmod (numberIn isBig octets) (Nat.pow 2 (8 * size))

def textIn (isBig : Bool) (length : Nat) (octets : List UInt8) : Text :=
  (parts 4 length octets).map fun four => CodePoint.ofNat (numberIn isBig four)

def widthOf? (size : Nat) : Option Width :=
  match size with
  | 2 => some .half
  | 4 => some .single
  | 8 => some .double
  | _ => none

def entriesOf (kind : Kind) (cells : List (List UInt8)) : Except Flaw Entries :=
  match kind with
  | .bool => .ok (.bools (cells.map fun cell => numberIn false cell ≠ 0))
  | .integer true isBig size => .ok (.integers (cells.map (signedIn isBig size)))
  | .integer false isBig _ =>
    .ok (.integers (cells.map fun cell => (numberIn isBig cell : Int)))
  | .float isBig size =>
    match widthOf? size with
    | some w =>
      let values := cells.map fun cell => w.ofBits (numberIn isBig cell)
      .ok (if w = .double then .floats values else .narrow w values)
    | none => .error .unread
  | .complex isBig size =>
    match widthOf? (size / 2) with
    | some w =>
      let number (octets : List UInt8) : Binary64 := w.ofBits (numberIn isBig octets)
      .ok (.complexes w (cells.map fun cell =>
        (number (cell.take (size / 2)), number (cell.drop (size / 2)))))
    | none => .error .unread
  | .time isBig true unit factor => .ok (.spans unit factor (cells.map (signedIn isBig 8)))
  | .time isBig false unit factor => .ok (.moments unit factor (cells.map (signedIn isBig 8)))
  | .octets _ => .ok (.octets cells)
  | .text isBig length => .ok (.texts (cells.map (textIn isBig length)))
  | _ => .error .unread

/-- Every `step`-th item, from the first one on. -/
def everyNth {α : Type} (step : Nat) : (fuel : Nat) → List α → List α
  | 0, _ => []
  | _, [] => []
  | fuel + 1, a :: rest => a :: everyNth step fuel (rest.drop (step - 1))

def byRows {α : Type} : (shape : List Nat) → List α → List α
  | [], items => items
  | extent :: shape, items =>
    (List.range extent).flatMap fun n => byRows shape (everyNth extent items.length (items.drop n))

def chunkSize : Nat := Nat.pow 2 18

/-- Checks that there are `count` entries of a size. They are read in chunks, and the first one that
is too short is told. -/
def checkLength (size count available : Nat) : Except Header.Flaw Unit :=
  if count * size ≤ available then .ok ()
  else
    let perChunk := chunkSize / min chunkSize size
    let before := available / (perChunk * size) * perChunk
    .error (.short "array data" (min perChunk (count - before) * size) (available - before * size))

def table (h : Header) (content : List UInt8) : Except Flaw Table := do
  let checked : Except Header.Flaw (Nat × List Nat) := do
    let count ← h.count
    if h.kind.hasForeign then .error .foreign
    if count < 0 then .error .negativeCount
    let count := count.toNat
    if 0 < h.kind.size then checkLength h.kind.size count content.length
    let actual := count * h.kind.cells
    if actual ≠ count then .error (.incomplete (.tuple h.extents) count actual)
    .ok (count, ← h.fit count)
  match checked with
  | .error flaw => .error (.header flaw)
  | .ok (count, shape) =>
    let cells := parts h.kind.size count content
    let cells := if h.isByColumns then byRows shape cells else cells
    .ok ⟨shape, ← entriesOf h.kind cells⟩

def read (octets : List UInt8) : Except Flaw Table :=
  match Header.read octets with
  | .error flaw => .error (.header flaw)
  | .ok (header, content) => table header content

end Cells

end ServoScript.Archive
