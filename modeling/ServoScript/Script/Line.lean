import ServoScript.Registry
import ServoScript.Update

/-!
# The lines of a frame

A frame becomes a call: its duration and the new targets are pushed, then the subroutine for their
channels is called. A frame that changes nothing only waits. Long calls are broken into rows of a
given width, and the name of the frame follows as a comment.
-/

namespace ServoScript

/-- How many targets stand on a line; without a width all of them do. -/
abbrev LineWidth := Option Nat

namespace LineWidth

/-- The width that an integer asks for. Those below one ask for none. -/
def ofInt (n : Int) : LineWidth :=
  if n < 1 then none else some n.toNat

end LineWidth

namespace Script

def indent : Text := "  "

def comment (name : Text) : Text :=
  Text.replace '\n' ' ' (Text.replace '\r' ' ' name)

def consRow {α : Type} (a : α) : List (List α) → List (List α)
  | [] => [[a]]
  | row :: rows => (a :: row) :: rows

/-- Values in rows of `width`, of which the first one has room for `room` more. There is always a
last row. -/
def rowsFrom {α : Type} (width : Nat) : (room : Nat) → List α → List (List α)
  | _, [] => [[]]
  | 0, a :: rest => [] :: consRow a (rowsFrom width (width - 1) rest)
  | room + 1, a :: rest => consRow a (rowsFrom width room rest)

/-- Values in rows of the given width, the last one filled as far as they go. -/
def rows {α : Type} (width : LineWidth) (values : List α) : List (List α) :=
  match width with
  | none => [values]
  | some n => rowsFrom n n values

def cells (values : List Int) : Text :=
  values.flatMap fun value => Text.ofInt value ++ [CodePoint.char ' ']

/-- Rows of values as lines: `lead` stands before the first value, `close` behind the last. -/
def rowLines (lead close : Text) : List (List Int) → List Text
  | [] => [indent ++ lead ++ close]
  | [row] => [indent ++ lead ++ cells row ++ close]
  | row :: rest => (indent ++ lead ++ cells row) :: rowLines [] close rest

/-- The lines of a frame with its update. -/
def frameLines (width : LineWidth) (f : Frame) (u : Update) : Except Fault (List Text) := do
  let lead := Text.ofInt f.duration ++ [CodePoint.char ' ']
  let note := " # " ++ comment f.name
  Numeral.checkShort [f.duration]
  if u.isEmpty then .ok [indent ++ lead ++ "delay" ++ note]
  else do
    Numeral.checkShort u.values
    let name ← subroutineName u.channels
    .ok (rowLines lead (name ++ note) (rows width u.values))

/-- Takes in the channels of an update, unless it writes none. -/
def registerUpdate (r : Registry) (u : Update) : Except Fault Bool × Registry :=
  if u.isEmpty then (.ok false, r) else r.register u.channels

/-- The lines of frames with their updates, of which `write` gives those of one. The channels of an
update are registered before its frame is written, and stay so if that fails. -/
def writeFrames {α : Type} (write : α → Update → Except Fault (List Text)) (r : Registry) :
    List (α × Update) → Except Fault (List Text) × Registry
  | [] => (.ok [], r)
  | (f, u) :: rest =>
    let (isNew, r) := registerUpdate r u
    match isNew.bind fun _ => write f u with
    | .error fault => (.error fault, r)
    | .ok lines =>
      let (more, r) := writeFrames write r rest
      (more.map (lines ++ ·), r)

def framesLines (enabled : List Int) (width : LineWidth) (r : Registry) (frames : List Frame) :
    Except Fault (List Text) × Registry :=
  writeFrames (frameLines width) r (frames.zip (Update.ofFrames enabled frames))

def text (lines : List Text) : Text :=
  lines.flatMap (· ++ [CodePoint.char '\n'])

end Script

end ServoScript
