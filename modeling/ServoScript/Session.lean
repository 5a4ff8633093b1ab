import ServoScript.ChannelTable
import ServoScript.Clipboard
import ServoScript.Payload
import ServoScript.Script.Program
import ServoScript.Store

/-!
# Sessions

A session holds a configuration, once one is loaded, and sequences. Operations on it read and write its
two files, and either answer or are refused.
-/

namespace ServoScript

/-- What scripts are made for. -/
structure Config where
  table : ChannelTable
  width : LineWidth
  deriving DecidableEq, Inhabited

/-- A configuration, once one is loaded, and the sequences. -/
structure Session where
  config : Option Config
  sequences : List Sequence
  deriving DecidableEq, Inhabited

/-- A session with its two files. -/
structure Workspace where
  session : Session
  configFile : File
  storeFile : File
  deriving DecidableEq, Inhabited

inductive Refusal where
  | missingConfig (path : Text)
  | badConfig (fault : Fault)
  | configVersion
  | noConfig
  | noSequence
  | badSequence (flaw : Sequence.Flaw)
  | badFrame (flaw : Frame.Flaw)
  | unsaved (fault : Fault)

def Refusal.message : Refusal → Text
  | .missingConfig path => "Missing " ++ path
  | .badConfig fault => fault.message
  | .configVersion => "config_file.json version must be 1"
  | .noConfig => "Config not loaded"
  | .noSequence => "sequence not found"
  | .badSequence flaw => flaw.message
  | .badFrame flaw => flaw.message "frame"
  | .unsaved fault => "failed to save sequences: " ++ fault.message

namespace Config

/-- The configuration of a document. The version is checked before anything else is read. -/
def ofDocument (v : Json) : Except Refusal Config :=
  match v.toMembers "get" with
  | .error fault => .error (.badConfig fault)
  | .ok members =>
    match ((Json.member? "version" members).getD (.int 0)).toInt with
    | .error fault => .error (.badConfig fault)
    | .ok version =>
      if version ≠ 1 then .error .configVersion
      else match (Json.member? "targets_per_line" members).getD .null with
        | .null => .ok ⟨ChannelTable.ofConfig members, none⟩
        | width =>
          match width.toInt with
          | .error fault => .error (.badConfig fault)
          | .ok width => .ok ⟨ChannelTable.ofConfig members, LineWidth.ofInt width⟩

def ofFile (file : File) : Except Refusal Config :=
  if !file.isPresent then .error (.missingConfig file.path)
  else match file.document with
    | .error fault => .error (.badConfig fault)
    | .ok v => ofDocument v

end Config

namespace Session

def fresh : Session := ⟨none, []⟩

def sequenceAt? (s : Session) : Int → Option Sequence
  | .ofNat index => s.sequences[index]?
  | .negSucc _ => none

def loadedConfig (s : Session) : Except Refusal Config :=
  match s.config with
  | some config => .ok config
  | none => .error .noConfig

/-- The sequence at an index, which has to exist. -/
def sequenceAt (s : Session) (index : Int) : Except Refusal Sequence :=
  match s.sequenceAt? index with
  | some sequence => .ok sequence
  | none => .error .noSequence

def withSequences (s : Session) (sequences : List Sequence) : Session :=
  ⟨s.config, sequences⟩

def lookUp (s : Session) (index : Int) : Except Refusal (Config × Sequence) := do
  let config ← s.loadedConfig
  .ok (config, ← s.sequenceAt index)

end Session

inductive Operation where
  | status
  | loadConfig
  | loadSequences
  | saveSequences
  | list
  | get (index : Int)
  | add (payload : Json)
  | delete (index : Int)
  | appendFrame (index : Int) (payload : Json)
  | importClipboard (index : Int) (text : Text)
  | exportClipboard (index : Int)
  | loopedScript (index : Int)
  | subroutineListing

inductive Answer where
  | done
  | status (session : Session)
  | list (sequences : List Sequence)
  | sequence (sequence : Sequence)
  | added (sequence : Sequence) (index : Nat)
  | extended (sequence : Sequence)
  | imported (sequence : Sequence) (count : Nat)
  | clipboard (text : Text)
  | script (compiled : Compiled)
  | listing (script : Text) (sequenceCount : Nat)

def Workspace.withSession (w : Workspace) (session : Session) : Workspace :=
  ⟨session, w.configFile, w.storeFile⟩

/-! ## Operations

An operation goes through a workspace step by step. It may be refused or stop at a fault on its way; what
it has changed until then stays changed. -/

/-- Something to do in a workspace. -/
def Procedure (α : Type) : Type :=
  Workspace → Except Fault (Except Refusal α) × Workspace

namespace Procedure

instance : Monad Procedure where
  pure a w := (.ok (.ok a), w)
  bind x f w :=
    match x w with
    | (.ok (.ok a), w) => f a w
    | (.ok (.error refusal), w) => (.ok (.error refusal), w)
    | (.error fault, w) => (.error fault, w)

def workspace : Procedure Workspace :=
  fun w => (.ok (.ok w), w)

def ofResult {α : Type} (result : Except Fault (Except Refusal α)) : Procedure α :=
  fun w => (result, w)

def ofExcept {α : Type} (result : Except Refusal α) : Procedure α :=
  ofResult (.ok result)

def ofFaulty {α : Type} (result : Except Fault α) : Procedure α :=
  ofResult (result.map .ok)

/-- A step that checks something from outside, whose flaws are refused. -/
def ofChecked {α φ : Type} (refuse : φ → Refusal) (result : Except Fault (Except φ α)) : Procedure α :=
  ofResult (result.map (·.mapError refuse))

def setConfig (config : Config) : Procedure Unit :=
  fun w => (.ok (.ok ()), w.withSession ⟨some config, w.session.sequences⟩)

def changeSequences (change : List Sequence → List Sequence) : Procedure Unit :=
  fun w => (.ok (.ok ()), w.withSession (w.session.withSequences (change w.session.sequences)))

def setStoreFile (file : File) : Procedure Unit :=
  fun w => (.ok (.ok ()), ⟨w.session, w.configFile, file⟩)

def loadedConfig : Procedure Config := do
  ofExcept (← workspace).session.loadedConfig

def sequenceAt (index : Int) : Procedure Sequence := do
  ofExcept ((← workspace).session.sequenceAt index)

def extend (index : Int) (frames : List Frame) : Procedure Sequence := do
  let sequence ← sequenceAt index
  let extended : Sequence := ⟨sequence.name, sequence.frames ++ frames⟩
  changeSequences (·.set index.toNat extended)
  return extended

/-- Writes the sequences to their file. The system may refuse that; other faults stop it. -/
def save : Procedure Unit := do
  let w ← workspace
  match Store.save w.session.sequences w.storeFile with
  | .ok file => setStoreFile file
  | .error fault =>
    if fault.isSystem then ofExcept (.error (.unsaved fault)) else ofFaulty (.error fault)

end Procedure

open Procedure in
def Operation.perform [Memory] : Operation → Procedure Answer
  | .status => do
    return .status (← workspace).session
  | .loadConfig => do
    setConfig (← ofExcept (Config.ofFile (← workspace).configFile))
    return .done
  | .loadSequences => do
    let config ← loadedConfig
    let sequences ← ofFaulty (Store.read config.table.size (← workspace).storeFile)
    changeSequences fun _ => sequences
    return .done
  | .saveSequences => do
    save
    return .done
  | .list => do
    return .list (← workspace).session.sequences
  | .get index => do
    return .sequence (← sequenceAt index)
  | .add payload => do
    let config ← loadedConfig
    let sequence ← ofChecked .badSequence (Sequence.ofPayload (.int config.table.size) payload)
    changeSequences (· ++ [sequence])
    return .added sequence ((← workspace).session.sequences.length - 1)
  | .delete index => do
    let _ ← sequenceAt index
    changeSequences (·.eraseIdx index.toNat)
    return .done
  | .appendFrame index payload => do
    let config ← loadedConfig
    let sequence ← sequenceAt index
    let frame ← ofChecked .badFrame (Frame.ofPayloadOr
      (.ok (Frame.placeName sequence.frames.length)) (.int config.table.size) payload)
    return .extended (← extend index [frame])
  | .importClipboard index t => do
    let config ← loadedConfig
    let frames := Clipboard.decode (some config.table.size) t
    return .imported (← extend index frames) frames.length
  | .exportClipboard index => do
    let sequence ← sequenceAt index
    return .clipboard (Clipboard.encode sequence.frames)
  | .loopedScript index => do
    let config ← loadedConfig
    let sequence ← sequenceAt index
    return .script (← ofFaulty (Compiled.ofSequence config.table.enabled config.width sequence))
  | .subroutineListing => do
    let config ← loadedConfig
    let sequences := (← workspace).session.sequences
    let script ← ofFaulty (Script.program config.table.enabled config.width sequences)
    return .listing script sequences.length

/-- Runs an operation: its answer, unless it is refused or stops at a fault, and the workspace after
it. -/
def Workspace.run [Memory] (w : Workspace) (operation : Operation) :
    Except Fault (Except Refusal Answer) × Workspace :=
  operation.perform w

end ServoScript
