import ServoScript.Draft.Frame
import ServoScript.File
import ServoScript.RunSort

/-!
# The store

Sequences in a file, under numbered keys in one member of its document. Whatever else the document
holds is kept. What makes no sense is left out or has a default, so that reading fails only for a
count of targets for which there is no room.
-/

namespace ServoScript.Store

/-- The order of two keys as the difference of their numbers. A key that is no number is equal to
every key. -/
def compareKeys (x y : Text) : Int :=
  match Word.parse x, Word.parse y with
  | .ok m, .ok n => (m : Int) - n
  | _, _ => 0

def keyBefore (x y : Text) : Bool :=
  compareKeys x y < 0

def sortKeys (keys : List Text) : List Text :=
  RunSort.sort keyBefore keys

def sequencesKey : Text := "sequences"

/-- The members of the document in the file; none, if there is no such document. -/
def tree (file : File) : Json.Members :=
  match file.document with
  | .ok (.object members) => members
  | _ => []

def textD (members : Json.Members) (key fallback : Text) : Text :=
  match Json.member? key members with
  | some (.text t) => t
  | _ => fallback

/-- The duration in a node: its low 16 bits if it is an integer, otherwise zero. -/
def durationOf (members : Json.Members) : Int :=
  match Json.member? "duration" members with
  | some (.int n) => n % 65536
  | _ => 0

/-- The frame of a node, with `count` targets. -/
def frameOf (count : Nat) (key : Text) (members : Json.Members) : Frame :=
  ⟨textD members "name" ("Frame " ++ key), durationOf members,
    Frame.targetsOfText count (textD members "targets" [])⟩

/-- The frames under the keys of a node, in the order of the keys. What is no object is left out. -/
def framesOf (count : Nat) (nodes : Json.Members) : List Frame :=
  (sortKeys (nodes.map Prod.fst)).filterMap fun key =>
    match Json.member? key nodes with
    | some (.object members) => some (frameOf count key members)
    | _ => none

def sequenceOf (count : Nat) (key : Text) (members : Json.Members) : Sequence :=
  let nodes := match Json.member? "frames" members with
    | some (.object nodes) => nodes
    | _ => []
  ⟨textD members "name" ("Sequence " ++ key), framesOf count nodes⟩

/-- The sequences of a document's members, in their order. What is no object is left out. -/
def sequencesOf (count : Nat) (members : Json.Members) : List Sequence :=
  match Json.member? sequencesKey members with
  | some (.object nodes) =>
    nodes.filterMap fun (key, node) =>
      match node with
      | .object members => some (sequenceOf count key members)
      | _ => none
  | _ => []

/-- The sequences of a document's members, with a count of targets that is found only if there is a
frame. -/
def sequencesWith (count : Except Fault Nat) (members : Json.Members) :
    Except Fault (List Sequence) :=
  match count with
  | .ok count => .ok (sequencesOf count members)
  | .error fault =>
    let sequences := sequencesOf 0 members
    if sequences.all (·.frames.isEmpty) then .ok sequences else .error fault

/-- The sequences in the file, with `count` targets for each frame. -/
def read [Memory] (count : Int) (file : File) : Except Fault (List Sequence) :=
  sequencesWith (Frame.targetCount count) (tree file)

def readDraft [Memory] (count : Json) (file : File) : Except Fault (List Sequence) :=
  sequencesWith (count.toInt.bind Frame.targetCount) (tree file)

/-- The node of a frame. -/
def frameNode (name : Json) (duration : Int) (targets : List Int) : Json :=
  .object [("name", name), ("duration", .int duration),
    ("targets", .text (Frame.targetsText targets))]

/-- Values under consecutive numbers of at least `width` digits. -/
def numbered (width : Nat) (nodes : List Json) : Json :=
  .object (nodes.zipIdx.map fun (node, index) => (Text.padded width index, node))

def sequenceNode (name : Json) (frames : List Json) : Json :=
  .object [("name", name), ("frames", numbered 4 frames)]

def nodeOf (s : Sequence) : Json :=
  sequenceNode (.text s.name) (s.frames.map fun f => frameNode (.text f.name) f.duration f.targets)

/-- The node of a draft of a sequence. Names keep their kind. -/
def nodeOfDraft (d : Sequence.Draft) : Except Fault Json := do
  let frames ← d.frames.mapM fun f => do
    let duration ← f.duration.toInt
    Numeral.checkShort f.targets
    .ok (frameNode f.name duration f.targets)
  .ok (sequenceNode d.name frames)

/-- The file with nodes in place of all its sequences. -/
def saveNodes (nodes : List Json) (file : File) : Except Fault File :=
  file.writeDocument (.object (Json.put sequencesKey (numbered 2 nodes) (tree file)))

def save (sequences : List Sequence) (file : File) : Except Fault File := do
  Numeral.checkShort (sequences.flatMap fun s => s.frames.flatMap (·.targets))
  saveNodes (sequences.map nodeOf) file

def saveDrafts (drafts : List Sequence.Draft) (file : File) : Except Fault File := do
  saveNodes (← drafts.mapM nodeOfDraft) file

end ServoScript.Store
