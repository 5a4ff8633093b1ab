import ServoScript.Update

/-!
# Drafts of frames and sequences

A draft is what a caller hands in: its targets are integers already, but its name and its duration
are values of any kind, which are read only when they are needed.
-/

namespace ServoScript

/-- A frame whose name and duration have not been read yet. -/
structure Frame.Draft where
  name : Json
  duration : Json
  targets : List Int

structure Sequence.Draft where
  name : Json
  frames : List Frame.Draft

def Frame.draft (f : Frame) : Frame.Draft :=
  ⟨.text f.name, .int f.duration, f.targets⟩

def Sequence.draft (s : Sequence) : Sequence.Draft :=
  ⟨.text s.name, s.frames.map Frame.draft⟩

namespace Frame.Draft

def make (name duration targets : Json) : Except Fault Draft :=
  targets.toInts.map fun targets => ⟨name, duration, targets⟩

def resolve (d : Draft) : Except Fault Frame :=
  d.duration.toInt.map fun duration => ⟨d.name.toText, duration, d.targets⟩

/-- The target of the channel that a value stands for. A floating-point number stands for none, which
shows only within the range of the targets. -/
def target (d : Draft) (channel : Json) : Except Fault Int := do
  if ← channel.isWithin d.targets.length then
    match channel with
    | .float _ => .error (.notPosition "tuple" .float)
    | _ => .ok (targetAt d.targets (← channel.toInt))
  else .ok 0

def setTargets (d : Draft) (values : Json) : Except Fault Draft :=
  values.toInts.map fun targets => ⟨d.name, d.duration, targets⟩

/-- The draft with targets from a text. The count is read first. -/
def parseTargets [Memory] (d : Draft) (t count : Json) : Except Fault Draft := do
  let count ← Frame.targetCount (← count.toInt)
  let t ← t.optionalText "split"
  .ok ⟨d.name, d.duration, Frame.targetsOfText count t⟩

end Frame.Draft

namespace Sequence.Draft

def resolve (d : Draft) : Except Fault Sequence :=
  (d.frames.mapM Frame.Draft.resolve).map fun frames => ⟨d.name.toText, frames⟩

end Sequence.Draft

namespace Frame

def draftUpdates (enabled : List Int) (frames : List Draft) : List Update :=
  Update.along enabled none (frames.map Draft.targets)

end Frame

inductive Cursor.Draft where
  | waiting (enabled : Json)
  | started (cursor : Cursor)

/-- The update of the next frame. A walk whose channels cannot be read is finished at once. -/
def Cursor.Draft.next (frames : List Frame.Draft) :
    Cursor.Draft → Except Fault (Option Update) × Cursor.Draft
  | .waiting enabled =>
    match enabled.toInts with
    | .error fault => (.error fault, .started .finished)
    | .ok enabled =>
      let (update, cursor) := (Cursor.start enabled).next (frames.map Frame.Draft.targets)
      (.ok update, .started cursor)
  | .started cursor =>
    let (update, cursor) := cursor.next (frames.map Frame.Draft.targets)
    (.ok update, .started cursor)

end ServoScript
