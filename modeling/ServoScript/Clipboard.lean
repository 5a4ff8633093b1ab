import ServoScript.Draft.Frame

/-!
# Frames on the clipboard

Frames as lines of text for a spreadsheet: the name, the duration and the targets of a frame, with
tabs between them. Lines from outside are read leniently, each for itself.
-/

namespace ServoScript.Clipboard

def defaultDuration : Nat := 500

/-- A name without the characters that separate fields and lines. -/
def cleanName (name : Text) : Text :=
  Text.replace '\n' ' ' (Text.replace '\r' ' ' (Text.replace '\t' ' ' name))

/-- The target fields of a line. A single empty one stands for no targets. -/
def targetFields (targets : List Int) : List Text :=
  if targets.isEmpty then [[]] else targets.map Text.ofInt

def encodeLine (f : Frame) : Text :=
  List.intercalate [CodePoint.char '\t'] (cleanName f.name :: Text.ofInt f.duration :: targetFields f.targets)

def encode (frames : List Frame) : Text :=
  frames.flatMap fun f => encodeLine f ++ [CodePoint.char '\n']

/-- The targets in the fields of a line, at most `limit` of them; a negative limit is zero. -/
def targetsOf (limit : Option Int) (fields : List Text) : List Int :=
  let fields := if fields = [[]] then [] else fields
  let fields := match limit with
    | some n => fields.take n.toNat
    | none => fields
  fields.map fun field => (Word.parseD field 0 : Int)

/-- The frame on a line. A line with fewer than three fields has none. -/
def decodeLine (limit : Option Int) (line : Text) : Option Frame :=
  match Text.split '\t' line with
  | name :: duration :: target :: targets =>
    some ⟨name.take Frame.maxNameLength, Word.parseD duration defaultDuration,
      targetsOf limit (target :: targets)⟩
  | _ => none

/-- The frames of a text, line by line. A carriage return at the end of a line does not count. -/
def decode (limit : Option Int) (t : Text) : List Frame :=
  (Text.split '\n' t).filterMap fun line => decodeLine limit (Text.dropFinal '\r' line)

/-- The limit that a value asks for; null asks for none. -/
def limitOf : Json → Except Fault (Option Int)
  | .null => .ok none
  | v => v.toInt.map some

/-- The frame on a line, with a limit that is read only if the line has a frame. -/
def decodeLineDraft (line limit : Json) : Except Fault (Option Frame) := do
  let line ← line.expectText "split"
  if (decodeLine none line).isNone then .ok none
  else .ok (decodeLine (← limitOf limit) line)

/-- The frames of a text, with a limit that is read only if there is a frame. -/
def decodeDraft (t limit : Json) : Except Fault (List Frame) := do
  let t ← t.optionalText "split"
  if (decode none t).isEmpty then .ok []
  else .ok (decode (← limitOf limit) t)

end ServoScript.Clipboard
