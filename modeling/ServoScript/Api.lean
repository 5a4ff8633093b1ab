import ServoScript.Session

/-!
# The request interface

Sessions by requests: a request is for a handler, which takes its payload from the document in the body and
answers with a status and a document. How a handler is chosen and how a body is decoded is up to the
framework that the handlers are registered with.
-/

namespace ServoScript

def Sequence.summary (s : Sequence) : Json.Members :=
  [("name", .text s.name), ("num_frames", .int s.frames.length), ("duration_ms", .int s.duration)]

def Compiled.summary (c : Compiled) : Json.Members :=
  [("sequence_name", .text c.name), ("num_frames", .int c.frameCount),
    ("num_subroutines", .int c.subroutineNames.length),
    ("subroutines", .ofTexts c.subroutineNames), ("script_lines", .int c.lineCount)]

def Session.status (s : Session) : Json.Members :=
  let (count, enabled) : Json × List Int := match s.config with
    | some config => (.int config.table.size, config.table.enabled)
    | none => (.null, [])
  [("config_loaded", .bool s.config.isSome), ("servo_count", count),
    ("enabled_channels", .ofInts enabled), ("sequence_count", .int s.sequences.length)]

def Answer.toJson : Answer → Json
  | .done => .object []
  | .status session => .object session.status
  | .list sequences =>
    .list (sequences.zipIdx.map fun (s, index) => .object (("index", .int index) :: s.summary))
  | .sequence s => s.toPayload
  | .added s index => .object (("index", .int index) :: s.summary)
  | .extended s => .object s.summary
  | .imported s count => .object (("imported", .int count) :: s.summary)
  | .clipboard t => .text t
  | .script compiled =>
    .object [("script", .text compiled.script), ("summary", .object compiled.summary)]
  | .listing program count =>
    .object [("script", .text program), ("num_sequences", .int count)]

/-- A response: its status, and its document if it has one. -/
structure Response where
  status : Nat
  body : Option Json

namespace Response

def ofMembers (status : Nat) (members : Json.Members) : Response :=
  ⟨status, some (.object members)⟩

def wrong (status : Nat) (message : Text) : Response :=
  ofMembers status [("ok", .bool false), ("error", .text message)]

def refused : Refusal → Response
  | .noSequence => wrong 404 (Refusal.message .noSequence)
  | refusal => wrong 400 refusal.message

def answered (key : Text) (v : Json) : Response :=
  ofMembers 200 [("ok", .bool true), (key, v)]

def outcome : Except Refusal Answer → Text
  | .ok _ => "ok"
  | .error refusal => refusal.message

def succeeded : Except Refusal Answer → Bool
  | .ok _ => true
  | .error _ => false

end Response

/-- What a request asks of a session. -/
inductive Command where
  /-- An operation, and how its outcome becomes a response in the workspace after it. -/
  | perform (operation : Operation) (render : Except Refusal Answer → Workspace → Response)
  /-- A response that needs no operation. -/
  | reply (response : Response)

namespace Command

def respondWith (render : Json → Response) (result : Except Refusal Answer) (_ : Workspace) :
    Response :=
  match result with
  | .ok answer => render answer.toJson
  | .error refusal => Response.refused refusal

def respondLoaded (result : Except Refusal Answer) (w : Workspace) : Response :=
  Response.ofMembers (if Response.succeeded result then 200 else 400)
    [("ok", .bool (Response.succeeded result)), ("message", .text (Response.outcome result)),
      ("status", .object w.session.status)]

def respondSaved (result : Except Refusal Answer) (_ : Workspace) : Response :=
  Response.ofMembers (if Response.succeeded result then 200 else 500)
    [("ok", .bool (Response.succeeded result)), ("message", .text (Response.outcome result))]

/-- The members of an object beside the news that all went well. -/
def flattened : Json → Response
  | .object members => Response.ofMembers 200 (("ok", .bool true) :: members)
  | _ => Response.ofMembers 200 [("ok", .bool true)]

def withObject (document : Except Nat Json) (make : Json → Command) : Command :=
  match document with
  | .error status => .reply ⟨status, none⟩
  | .ok (.object members) => make (.object members)
  | .ok _ => .reply (Response.wrong 400 "request body must be a JSON object")

def withText (document : Except Nat Json) (make : Text → Command) : Command :=
  let wrong := Response.wrong 400 "request body must be a JSON object with a 'text' string"
  match document with
  | .error status => .reply ⟨status, none⟩
  | .ok (.object members) =>
    match Json.member? "text" members with
    | some (.text t) => make t
    | _ => .reply wrong
  | .ok _ => .reply wrong

end Command

inductive Handler where
  | status
  | loadConfig
  | loadSequences
  | saveSequences
  | listSequences
  | addSequence
  | getSequence (index : Int)
  | deleteSequence (index : Int)
  | appendFrame (index : Int)
  | exportClipboard (index : Int)
  | importClipboard (index : Int)
  | loopedScript (index : Int)
  | subroutineListing
  deriving DecidableEq

open Command in
/-- The command of a handler for a request with a body. The body is `document`, or the status of the
answer to a body that cannot be decoded. -/
def Handler.command (document : Except Nat Json) : Handler → Command
  | .status => .perform .status (respondWith fun v => ⟨200, some v⟩)
  | .loadConfig => .perform .loadConfig respondLoaded
  | .loadSequences => .perform .loadSequences respondLoaded
  | .saveSequences => .perform .saveSequences respondSaved
  | .listSequences => .perform .list (respondWith (Response.answered "sequences"))
  | .addSequence => withObject document fun payload =>
    .perform (.add payload) (respondWith (Response.answered "sequence"))
  | .getSequence index => .perform (.get index) (respondWith (Response.answered "sequence"))
  | .deleteSequence index => .perform (.delete index) (respondWith flattened)
  | .appendFrame index => withObject document fun payload =>
    .perform (.appendFrame index payload) (respondWith (Response.answered "sequence"))
  | .exportClipboard index => .perform (.exportClipboard index) (respondWith (Response.answered "text"))
  | .importClipboard index => withText document fun t =>
    .perform (.importClipboard index t) (respondWith (Response.answered "sequence"))
  | .loopedScript index => .perform (.loopedScript index) (respondWith flattened)
  | .subroutineListing => .perform .subroutineListing (respondWith flattened)

/-- What a framework makes of requests. -/
structure Framework (ρ : Type) where
  /-- The handler for a request, or the status of the answer to one that matches no route. -/
  route : ρ → Except Nat Handler
  /-- The document in the body, or the status of the answer to one that cannot be decoded. -/
  document : ρ → Except Nat Json

namespace Workspace

variable [Memory]

/-- Carries a command out. A fault gives the status 500. -/
def obey (w : Workspace) : Command → Response × Workspace
  | .reply response => (response, w)
  | .perform operation render =>
    match w.run operation with
    | (.error _, after) => (⟨500, none⟩, after)
    | (.ok result, after) => (render result after, after)

def respond {ρ : Type} (framework : Framework ρ) (w : Workspace) (request : ρ) : Response × Workspace :=
  match framework.route request with
  | .error status => (⟨status, none⟩, w)
  | .ok handler => w.obey (handler.command (framework.document request))

end Workspace

end ServoScript
