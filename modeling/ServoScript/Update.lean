import ServoScript.Frame

/-!
# Updates between frames

What has to be written to the device when a frame follows another: the enabled channels whose
target differs, with their new targets. The first frame writes all of them. A cursor walks through
frames that may change while it walks.
-/

namespace ServoScript

/-- Channels with their new targets, in the order of writing. -/
abbrev Update := List (Int × Int)

namespace Update

def channels (u : Update) : List Int :=
  u.map Prod.fst

def values (u : Update) : List Int :=
  u.map Prod.snd

/-- Whether a channel has to be written: always, if there is no frame before. -/
def isNeeded (previous : Option (List Int)) (targets : List Int) (channel : Int) : Bool :=
  match previous with
  | none => true
  | some before => targetAt targets channel != targetAt before channel

/-- The update of the enabled channels from the targets before to new ones. -/
def between (enabled : List Int) (previous : Option (List Int)) (targets : List Int) : Update :=
  (enabled.filter (isNeeded previous targets)).map fun channel =>
    (channel, targetAt targets channel)

/-- The updates of a list of frames' targets, one for each. -/
def along (enabled : List Int) (previous : Option (List Int)) : List (List Int) → List Update
  | [] => []
  | targets :: rest => between enabled previous targets :: along enabled (some targets) rest

def ofFrames (enabled : List Int) (frames : List Frame) : List Update :=
  along enabled none (frames.map Frame.targets)

end Update

/-- A walk through frames. It remembers the targets of the frame that it gave out last, and once it
has come to the end it stays there. -/
inductive Cursor where
  | walking (enabled : List Int) (position : Nat) (previous : Option (List Int))
  | finished
  deriving DecidableEq, Inhabited

namespace Cursor

def start (enabled : List Int) : Cursor :=
  .walking enabled 0 none

def next (frames : List (List Int)) : Cursor → Option Update × Cursor
  | .finished => (none, .finished)
  | .walking enabled position previous =>
    match frames[position]? with
    | none => (none, .finished)
    | some targets =>
      (some (Update.between enabled previous targets),
        .walking enabled (position + 1) (some targets))

end Cursor

end ServoScript
