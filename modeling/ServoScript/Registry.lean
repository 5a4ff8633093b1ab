import ServoScript.Frame

/-!
# Channel lists and their registry

A subroutine sets a list of channels and is named after it. The registry holds the different lists
that a script needs, in the order in which they were first needed. It writes out the name of every
list that it takes in, after it has done so; a list whose name is too long is a fault, and stays.
-/

namespace ServoScript

/-- The name of the subroutine that sets these channels in this order. No channels have no
subroutine. -/
def subroutineName (channels : List Int) : Except Fault Text := do
  if channels.isEmpty then .error .noChannels
  Numeral.checkShort channels
  .ok ("frame_" ++ List.intercalate [CodePoint.char '_'] (channels.map Text.ofInt))

/-- Different channel lists in the order in which they first came. -/
structure Registry where
  lists : List (List Int)
  deriving DecidableEq, Inhabited

namespace Registry

def empty : Registry := ⟨[]⟩

def find? (r : Registry) (channels : List Int) : Option Nat :=
  r.lists.findIdx? (· == channels)

def contains (r : Registry) (channels : List Int) : Bool :=
  (r.find? channels).isSome

def size (r : Registry) : Nat :=
  r.lists.length

/-- The registry with a list at its end, unless it has it already. -/
def add (r : Registry) (channels : List Int) : Registry :=
  if r.contains channels then r else ⟨r.lists ++ [channels]⟩

/-- Takes in a list and tells whether it is new. -/
def register (r : Registry) (channels : List Int) : Except Fault Bool × Registry :=
  (if r.contains channels then .ok false else (Numeral.checkShort channels).map fun _ => true,
    r.add channels)

/-- Takes in lists in order, up to the first fault, and counts the new ones. -/
def registerAll (r : Registry) : List (List Int) → Except Fault Nat × Registry
  | [] => (.ok 0, r)
  | channels :: rest =>
    match r.register channels with
    | (.error fault, r) => (.error fault, r)
    | (.ok isNew, r) =>
      let (count, r) := registerAll r rest
      (count.map (isNew.toNat + ·), r)

def ofLists (lists : List (List Int)) : Except Fault Registry :=
  let (count, r) := empty.registerAll lists
  count.map fun _ => r

def merge (r other : Registry) : Except Fault Nat × Registry :=
  r.registerAll other.lists

def subroutineNames (r : Registry) : Except Fault (List Text) :=
  r.lists.mapM subroutineName

end Registry

end ServoScript
