import ServoScript.Draft.ChannelList
import ServoScript.Draft.Frame

/-!
# Scripts from drafts

The scripts of drafts. The line width is read first, then, if there is a frame at all, the enabled
channels, then the durations frame by frame.
-/

namespace ServoScript

/-- The line width that a value asks for. A width that is no whole number, or is a text, lets the
count of targets on a line never reach it. -/
def LineWidth.ofJson (v : Json) : Except Fault LineWidth :=
  match v with
  | .null => .ok none
  | .float x => v.toInt.map fun n => if n < 1 then none else x.toInt?.map Int.toNat
  | .text _ => v.toInt.map fun _ => none
  | _ => v.toInt.map LineWidth.ofInt

namespace Script

def ofDrafts (r : Registry) (enabled width : Json) (frames : List Frame.Draft) :
    Except Fault (List Text) × Registry :=
  match LineWidth.ofJson width with
  | .error fault => (.error fault, r)
  | .ok width =>
    if frames.isEmpty then (.ok [], r)
    else match enabled.toInts with
      | .error fault => (.error fault, r)
      | .ok enabled =>
        writeFrames (fun d u => do frameLines width (← d.resolve) u) r
          (frames.zip (Frame.draftUpdates enabled frames))

def subroutineOfDraft (enabled width : Json) (r : Registry) (d : Sequence.Draft) :
    Except Fault (List Text) × Registry :=
  let (lines, r) := ofDrafts r enabled width d.frames
  (lines.map (subroutineLines d.name.toText), r)

def loopedOfDraft (enabled width : Json) (d : Sequence.Draft) :
    Except Fault (List Text × Registry) :=
  let (lines, r) := ofDrafts .empty enabled width d.frames
  loopWith d.name.toText lines r

def programOfDrafts (enabled width : Json) (drafts : List Sequence.Draft) : Except Fault Text :=
  programWith (subroutineOfDraft enabled width) drafts

end Script

def Compiled.ofDraft (enabled width : Json) (d : Sequence.Draft) :
    Except Fault (Compiled × Sequence) := do
  let (lines, r) ← Script.loopedOfDraft enabled width d
  .ok (← ofLines d.name.toText d.frames.length lines r, ← d.resolve)

end ServoScript
