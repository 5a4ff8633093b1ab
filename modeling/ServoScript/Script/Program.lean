import ServoScript.Script.Line

/-!
# Scripts

The scripts of sequences: a sequence that is played for ever, a sequence as a subroutine, and a
program with a subroutine for each of several sequences. The subroutines that set channels follow,
each once. A sequence is called by an identifier: letters, digits and low lines of ASCII.
-/

namespace ServoScript

namespace Identifier

def isPart (c : CodePoint) : Bool :=
  ('A' ≤ c && c ≤ 'Z') || ('a' ≤ c && c ≤ 'z') || ('0' ≤ c && c ≤ '9') || c == '_'

/-- The text with one low line for each run of blanks. `inRun` says whether a run goes on. -/
def joinBlanks (inRun : Bool) : Text → Text
  | [] => []
  | c :: rest =>
    if Text.isBlank c then
      if inRun then joinBlanks true rest else '_' :: joinBlanks true rest
    else c :: joinBlanks false rest

/-- The identifier of a name of which nothing is left. -/
def fallback : Text := "sequence"

/-- The identifier of a name: a low line for each run of blanks, and no other foreign characters. -/
def ofName (name : Text) : Text :=
  match (joinBlanks false name).filter isPart with
  | [] => fallback
  | identifier => identifier

end Identifier

namespace Script

def loopStart : Text := "begin"

def loopEnd : Text := "repeat"

def setInstruction : Text := "servo"

/-- The subroutine that sets channels. The call pushes the duration and then the targets in the order
of the channels, so that they come off the stack from the last channel to the first, and the
duration is left for the delay. A channel that the name can show, a line can show. -/
def channelSubroutine (channels : List Int) : Except Fault (List Text) := do
  let name ← subroutineName channels
  .ok (("sub " ++ name) ::
    channels.reverse.map (fun channel => indent ++ Text.ofInt channel ++ " " ++ setInstruction) ++
    [indent ++ "delay", indent ++ "return"])

def title (name : Text) : Text :=
  "# " ++ comment name

def subroutineLines (name : Text) (lines : List Text) : List Text :=
  [title name, "sub " ++ Identifier.ofName name] ++ lines ++ [indent ++ "return"]

/-- The lines of a sequence's frames as a loop, with the subroutines of the registry behind it. -/
def loopWith (name : Text) (lines : Except Fault (List Text)) (r : Registry) :
    Except Fault (List Text × Registry) := do
  let lines ← lines
  let subroutines ← r.lists.mapM channelSubroutine
  .ok ([title name, loopStart] ++ lines ++ [loopEnd, []] ++ subroutines.flatMap (· ++ [[]]), r)

def loopedLines (enabled : List Int) (width : LineWidth) (s : Sequence) :
    Except Fault (List Text × Registry) :=
  let (lines, r) := framesLines enabled width .empty s.frames
  loopWith s.name lines r

def looped (enabled : List Int) (width : LineWidth) (s : Sequence) : Except Fault Text := do
  let (lines, _) ← loopedLines enabled width s
  .ok (text lines)

def sequenceSubroutine (enabled : List Int) (width : LineWidth) (r : Registry) (s : Sequence) :
    Except Fault (List Text) × Registry :=
  let (lines, r) := framesLines enabled width r s.frames
  (lines.map (subroutineLines s.name), r)

/-- The subroutines of sequences, of which `write` gives that of one. Each has a registry of its own,
which is merged into one. -/
def writeSubroutines {α : Type} (write : Registry → α → Except Fault (List Text) × Registry)
    (merged : Registry) : List α → Except Fault (List Text × Registry)
  | [] => .ok ([], merged)
  | s :: rest => do
    let (lines, r) := write .empty s
    let lines ← lines
    let (count, merged) := merged.merge r
    let _ ← count
    let (more, merged) ← writeSubroutines write merged rest
    .ok (lines ++ more, merged)

def programWith {α : Type} (write : Registry → α → Except Fault (List Text) × Registry)
    (sequences : List α) : Except Fault Text := do
  let (lines, merged) ← writeSubroutines write .empty sequences
  let subroutines ← merged.lists.mapM channelSubroutine
  .ok (text (lines ++ subroutines.flatMap ([] :: ·)))

def program (enabled : List Int) (width : LineWidth) (sequences : List Sequence) :
    Except Fault Text :=
  programWith (sequenceSubroutine enabled width) sequences

end Script

/-- A sequence with the script that plays it for ever. -/
structure Compiled where
  name : Text
  script : Text
  channelLists : List (List Int)
  subroutineNames : List Text
  frameCount : Nat
  deriving DecidableEq, Inhabited

namespace Compiled

def ofLines (name : Text) (frameCount : Nat) (lines : List Text) (r : Registry) :
    Except Fault Compiled := do
  let names ← r.subroutineNames
  .ok ⟨name, Script.text lines, r.lists, names, frameCount⟩

def ofSequence (enabled : List Int) (width : LineWidth) (s : Sequence) : Except Fault Compiled := do
  let (lines, r) ← Script.loopedLines enabled width s
  ofLines s.name s.frames.length lines r

def lineCount (c : Compiled) : Nat :=
  (Text.lines c.script).length

end Compiled

end ServoScript
