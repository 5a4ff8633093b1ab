import ServoScript.Frame

/-!
# Payloads

Frames and sequences as values that are exchanged with a client. Reading a payload checks it: every
flaw is told by its cause, and a sequence is taken as a whole or not at all. The position of a frame
and the limit on its targets may be values of any kind; a fault says that one of them is of no use.
-/

namespace ServoScript

namespace Frame

inductive Flaw where
  | notObject
  | duration
  | targetsKind
  /-- There are more targets than a limit; `limit` is how the message shows it. -/
  | tooManyTargets (limit : Text)
  | target (index : Nat)
  deriving DecidableEq

/-- The wording of a flaw of the frame that is called `label`. -/
def Flaw.message (label : Text) : Flaw → Text
  | .notObject => label ++ " must be an object"
  | .duration => label ++ ".duration_ms must be an integer in 0..65535"
  | .targetsKind => label ++ ".targets must be an array or a space-separated string"
  | .tooManyTargets limit => label ++ ".targets has more than " ++ limit ++ " values"
  | .target index =>
    label ++ ".targets[" ++ Text.ofNat index ++ "] must be an integer in 0..65535"

/-- The word that a value is. Truth values and floating-point numbers are none. -/
def word? : Json → Option Int
  | .int n => if Word.isWord n then some n else none
  | _ => none

/-- A list of words, from position `index` on. -/
def wordsFrom (index : Nat) : List Json → Except Flaw (List Int)
  | [] => .ok []
  | v :: rest =>
    match word? v with
    | none => .error (.target index)
    | some n => (wordsFrom (index + 1) rest).map (n :: ·)

/-- The name in a payload without the blanks around it; empty, if none is given. -/
def givenName (members : Json.Members) : Text :=
  match Json.member? "name" members with
  | none => []
  | some v => if v.isGiven then Text.trim v.toText else []

def placeName (place : Nat) : Text :=
  "Frame " ++ Text.ofNat (place + 1)

def nameAt (index : Json) : Except Fault Text := do
  match ← index.successor with
  | .int n => do
    Numeral.checkShort [n]
    .ok ("Frame " ++ Text.ofInt n)
  | v => .ok ("Frame " ++ v.toText)

/-- The name of a frame: the one given, or else `unnamed`, cut to the greatest length. -/
def nameOf (unnamed : Except Fault Text) (members : Json.Members) : Except Fault Text :=
  let given := givenName members
  (if given.isEmpty then unnamed else .ok given).map (·.take maxNameLength)

/-- The number of targets from a text of words: the limit, or as many as there are words. -/
def countOf [Memory] (limit : Json) (t : Text) : Except Fault Nat :=
  match limit with
  | .null => .ok (Text.words t).length
  | limit => limit.toInt.bind targetCount

def exceeds (limit : Json) (items : List Json) : Except Fault Bool :=
  match limit with
  | .null => .ok false
  | limit => Json.Relation.greater.holds (.int items.length) limit

/-- The flaw of a list with more targets than a limit, which has to be shown. -/
def overfull : Json → Except Fault Flaw
  | .int n => do
    -- A limit that is not negative is below the length of a list, and none is that long.
    if n < 0 then Numeral.checkShort [n]
    .ok (.tooManyTargets (Text.ofInt n))
  | limit => .ok (.tooManyTargets limit.toText)

/-- The targets in a payload: a list of words, or a text whose words are read leniently. A limit
bounds the list and is the exact number of targets from a text. -/
def targetsOf [Memory] (limit : Json) (members : Json.Members) :
    Except Fault (Except Flaw (List Int)) :=
  match (Json.member? "targets" members).getD (.list []) with
  | .text t => do .ok (.ok (targetsOfText (← countOf limit t) t))
  | .list items => do
    if ← exceeds limit items then .ok (.error (← overfull limit))
    else .ok (wordsFrom 0 items)
  | _ => .ok (.error .targetsKind)

/-- The frame that a payload describes; `unnamed` is its name if none is given. The name is made
before the duration is checked. -/
def ofPayloadOr [Memory] (unnamed : Except Fault Text) (limit : Json) :
    Json → Except Fault (Except Flaw Frame)
  | .object members => do
    let name ← nameOf unnamed members
    match (Json.member? "duration_ms" members).bind word? with
    | none => .ok (.error .duration)
    | some duration =>
      .ok ((← targetsOf limit members).map fun targets => ⟨name, duration, targets⟩)
  | _ => .ok (.error .notObject)

def ofPayload [Memory] (index limit : Json) : Json → Except Fault (Except Flaw Frame) :=
  ofPayloadOr (nameAt index) limit

def toPayload (f : Frame) : Json :=
  .object [("name", .text f.name), ("duration_ms", .int f.duration), ("targets", .ofInts f.targets)]

end Frame

namespace Sequence

inductive Flaw where
  | notObject
  | name
  | framesKind
  | frame (index : Nat) (flaw : Frame.Flaw)
  deriving DecidableEq

/-- The wording of a flaw. A frame is called by its position. -/
def Flaw.message : Flaw → Text
  | .notObject => "sequence must be an object"
  | .name => "name is required"
  | .framesKind => "frames must be an array"
  | .frame index flaw => flaw.message ("frames[" ++ Text.ofNat index ++ "]")

/-- The frames of a list of payloads, from position `index` on. -/
def framesFrom [Memory] (limit : Json) (index : Nat) : List Json → Except Fault (Except Flaw (List Frame))
  | [] => .ok (.ok [])
  | v :: rest => do
    match ← Frame.ofPayloadOr (.ok (Frame.placeName index)) limit v with
    | .error flaw => .ok (.error (.frame index flaw))
    | .ok f => .ok ((← framesFrom limit (index + 1) rest).map (f :: ·))

def ofPayload [Memory] (limit : Json) : Json → Except Fault (Except Flaw Sequence)
  | .object members =>
    let name := Frame.givenName members
    if name.isEmpty then .ok (.error .name)
    else match (Json.member? "frames" members).getD (.list []) with
      | .list items => do
        .ok ((← framesFrom limit 0 items).map fun frames => ⟨name, frames⟩)
      | _ => .ok (.error .framesKind)
  | _ => .ok (.error .notObject)

def toPayload (s : Sequence) : Json :=
  .object [("name", .text s.name), ("frames", .list (s.frames.map Frame.toPayload))]

end Sequence

end ServoScript
