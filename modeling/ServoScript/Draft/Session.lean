import ServoScript.Session

/-!
# Drafts of operations

Operations whose arguments are values of any kind. An argument is read when its turn comes, so that
an operation may be refused before a fault in a later argument shows.
-/

namespace ServoScript

/-- An operation with unread arguments. A file that is given takes the place of the usual one. -/
inductive Operation.Draft where
  | status
  | loadConfig (file : Json)
  | loadSequences (file : Json)
  | saveSequences (file : Json)
  | list
  | get (index : Json)
  | add (payload : Json)
  | delete (index : Json)
  | appendFrame (index payload : Json)
  | importClipboard (index text : Json)
  | exportClipboard (index : Json)
  | loopedScript (index : Json)
  | subroutineListing

namespace Session

/-- The index that a value stands for; a negative one, if it lies outside of the sequences. -/
def indexOf (s : Session) (index : Json) : Except Fault Int := do
  if ← index.isWithin s.sequences.length then
    match index with
    | .float _ => .error (.notPosition "list" .float)
    | _ => index.toInt
  else .ok (-1)

def configuredIndexOf (s : Session) (index : Json) : Except Fault Int :=
  if s.config.isNone then .ok (-1) else s.indexOf index

end Session

/-- The operation of a draft in a session, unless it is refused at once. No value is a file, but the
configuration is only looked for. -/
def Operation.Draft.resolve (s : Session) :
    Operation.Draft → Except Fault (Except Refusal Operation)
  | .status => .ok (.ok .status)
  | .loadConfig file =>
    .ok (if file.isGiven then .error (.missingConfig file.toText) else .ok .loadConfig)
  | .loadSequences file =>
    if s.config.isNone || !file.isGiven then .ok (.ok .loadSequences)
    else .error (.unsupported file.kind "exists")
  | .saveSequences file =>
    if file.isGiven then .error (.unsupported file.kind "exists") else .ok (.ok .saveSequences)
  | .list => .ok (.ok .list)
  | .get index => do .ok (.ok (.get (← s.indexOf index)))
  | .add payload => .ok (.ok (.add payload))
  | .delete index => do .ok (.ok (.delete (← s.indexOf index)))
  | .appendFrame index payload => do
    .ok (.ok (.appendFrame (← s.configuredIndexOf index) payload))
  | .importClipboard index t => do
    let index ← s.configuredIndexOf index
    match s.lookUp index with
    | .error refusal => .ok (.error refusal)
    | .ok _ => .ok (.ok (.importClipboard index (← t.optionalText "split")))
  | .exportClipboard index => do .ok (.ok (.exportClipboard (← s.indexOf index)))
  | .loopedScript index => do .ok (.ok (.loopedScript (← s.configuredIndexOf index)))
  | .subroutineListing => .ok (.ok .subroutineListing)

/-- Runs the operation of a draft: its answer or refusal, and the workspace after it. -/
def Workspace.runDraft [Memory] (w : Workspace) (d : Operation.Draft) :
    Except Fault (Except Refusal Answer) × Workspace :=
  match d.resolve w.session with
  | .error fault => (.error fault, w)
  | .ok (.error refusal) => (.ok (.error refusal), w)
  | .ok (.ok operation) => w.run operation

end ServoScript
