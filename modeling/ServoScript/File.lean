import ServoScript.Fault
import ServoScript.Json.Printer
import ServoScript.Text.Basic

/-!
# Files

A file has a place and a state. A document is read from it as text in UTF-8.
-/

namespace ServoScript

inductive FileState where
  /-- Nothing is there, and perhaps not even its folder. -/
  | missing
  /-- Nothing is there, and a file stands where its folder should be. -/
  | blocked
  /-- A folder is there. -/
  | folder
  /-- A file is there, with these octets. -/
  | octets (content : List UInt8)
  deriving DecidableEq, Inhabited

/-- A file at `root/parent/name`. -/
structure File where
  root : Text
  parent : Text
  name : Text
  state : FileState
  deriving DecidableEq, Inhabited

namespace File

def parentPath (f : File) : Text :=
  f.root ++ [CodePoint.char '/'] ++ f.parent

def path (f : File) : Text :=
  f.parentPath ++ [CodePoint.char '/'] ++ f.name

def withState (f : File) (state : FileState) : File :=
  ⟨f.root, f.parent, f.name, state⟩

def isPresent (f : File) : Bool :=
  match f.state with
  | .folder => true
  | .octets _ => true
  | _ => false

inductive Node where
  | folder
  | leaf
  deriving DecidableEq

/-- What is under the root at a path, given from its last part to its first. The root holds nothing
but the file and its folder. -/
def nodeAt (f : File) : List Text → Option Node
  | [] => some .folder
  | [parent] =>
    if parent ≠ f.parent then none
    else match f.state with
      | .missing => none
      | .blocked => some .leaf
      | _ => some .folder
  | [name, parent] =>
    if parent ≠ f.parent || name ≠ f.name then none
    else match f.state with
      | .folder => some .folder
      | .octets _ => some .leaf
      | _ => none
  | _ => none

inductive Place where
  /-- Under the root, at a path given from its last part to its first. -/
  | under (here : List Text)
  /-- In the folder that holds the root. -/
  | beside
  /-- In the folder that holds all. -/
  | top

def temporary : Text := "tmp"

/-- Whether a path leads from a place to something. Two points lead back. Of what is not under the
root, only the folders that hold it are known. -/
def leads (f : File) : Place → List Text → Bool
  | .under here, [] => (f.nodeAt here).isSome
  | .under here, part :: rest =>
    if f.nodeAt here ≠ some .folder then false
    else if part = (".." : Text) then
      match here with
      | [] => f.leads .beside rest
      | _ :: up => f.leads (.under up) rest
    else f.leads (.under (part :: here)) rest
  | .beside, [] => true
  | .beside, part :: rest => part = (".." : Text) && f.leads .top rest
  | .top, [] => true
  | .top, part :: rest =>
    if part = (".." : Text) then f.leads .top rest else part = temporary && f.leads .beside rest

/-- Whether something is at a path. One that starts with a slash leads from the folder that holds
all, others from the root. -/
def rootHas (f : File) (path : Text) : Bool :=
  let start : Place := if path.head? = some (CodePoint.char '/') then .top else .under []
  f.leads start ((Text.split '/' path).filter fun part => !part.isEmpty && part != ("." : Text))

def rootHasDraft (f : File) : Json → Except Fault Bool
  | .text path => .ok (f.rootHas path)
  | v => .error (.notFileName v.kind)

def rawText (f : File) : Except Fault Text :=
  match f.state with
  | .octets content =>
    match Utf8.decode content with
    | .ok t => .ok t
    | .error flaw => .error (.undecodable flaw)
  | _ => .error (.isFolder f.path)

def text (f : File) : Except Fault Text :=
  f.rawText.map Text.unixLines

def document (f : File) : Except Fault Json :=
  match f.text with
  | .error fault => .error fault
  | .ok t =>
    match Json.read t with
    | .ok v => .ok v
    | .error flaw => .error (.unreadable t flaw)

/-- The file with a text written to it; its folder is made if it is missing. -/
def write (f : File) (t : Text) : Except Fault File :=
  match f.state with
  | .blocked => .error (.isFile f.parentPath)
  | .folder => .error (.isFolder f.path)
  | _ => .ok (f.withState (.octets (Utf8.encode t)))

/-- The file with a document written to it. Its folder is made first; then the document must have a
text before the file is opened. -/
def writeDocument (f : File) (v : Json) : Except Fault File :=
  match f.state with
  | .blocked => .error (.isFile f.parentPath)
  | _ => if v.isWritable then f.write v.spread else .error .tooLongToWrite

end File

end ServoScript
