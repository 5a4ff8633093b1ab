import ServoScript.Archive.Table

/-!
# Nested lists as arrays

A nested list is an array of texts if all lists at one depth have the same length. The depth is
explored item by item, and the first one that does not fit fixes what the message tells.
-/

namespace ServoScript.Archive

def maxDirections : Nat := 64

/-- What is known about the shape of a nested list: the extents so far, the number of directions that
are still possible, whether an entry or an empty list has fixed that number, and whether something
did not fit. -/
structure Outline where
  shape : List Nat
  limit : Nat
  isFixed : Bool
  isRagged : Bool

namespace Outline

def blank : Outline := ⟨[], maxDirections, false, false⟩

/-- The outline of a list in which something does not fit. -/
def ragged (o : Outline) : Outline :=
  ⟨o.shape, o.limit, o.isFixed, true⟩

def addEntry (o : Outline) (depth : Nat) : Outline :=
  if o.limit = depth then ⟨o.shape, o.limit, true, o.isRagged⟩
  else ⟨o.shape, depth, true, o.isRagged || o.isFixed⟩

/-- The outline after the start of a list at a depth, unless the list does not fit. -/
def addList? (o : Outline) (depth length : Nat) : Option Outline :=
  if !o.isFixed then
    some ⟨o.shape.take depth ++ [length], o.limit, o.isFixed, o.isRagged⟩
  else if o.shape[depth]? = some length then some o
  else none

mutual

def add (o : Outline) (depth : Nat) : Json → Outline
  | .list items =>
    if depth = o.limit then (o.addEntry depth).ragged
    else match o.addList? depth items.length with
      | none => ⟨o.shape, depth, o.isFixed, true⟩
      | some o =>
        if items.isEmpty then ⟨o.shape, depth + 1, true, o.isRagged⟩
        else addItems o (depth + 1) items
  | _ => o.addEntry depth

def addItems (o : Outline) (depth : Nat) : List Json → Outline
  | [] => o
  | item :: rest => addItems (add o depth item) depth rest

end

end Outline

mutual

def leaves : Json → List Text
  | .list items => leavesOf items
  | v => [v.toText]

def leavesOf : List Json → List Text
  | [] => []
  | item :: rest => leaves item ++ leavesOf rest

end

def shownShape : List Nat → Text
  | [extent] => CodePoint.char '(' :: Text.ofNat extent ++ ",)"
  | shape => CodePoint.char '(' :: List.intercalate (", " : Text) (shape.map Text.ofNat) ++ [CodePoint.char ')']

def Table.ofNested (v : Json) : Except Fault Table :=
  let outline := Outline.blank.add 0 v
  if !outline.isRagged then .ok ⟨outline.shape.take outline.limit, .texts (leaves v)⟩
  else if outline.limit = maxDirections then .error (.tooDeep maxDirections)
  else
    .error (.ragged outline.limit (shownShape (outline.shape.take outline.limit)))

def Table.flat (t : Table) : Table :=
  ⟨[t.entries.length], t.entries⟩

end ServoScript.Archive
