import ServoScript.Archive.Display
import ServoScript.Archive.Nested
import ServoScript.Draft.Frame

/-!
# Archives

A sequence as an archive of four arrays: its name, the names of its frames, their durations, and a
grid of targets with a row for each frame and a column for each channel. An archive from outside is
checked before it becomes a sequence. What the files of archives look like is left open.
-/

namespace ServoScript.Archive

inductive Flaw where
  | missing (path : Text)
  | unreadable (reason : Text)
  | incomplete
  | lengths
  | flatTargets
  | rows
  | unreadableNumber (fault : Fault)
  | durations
  | targets

def Flaw.message : Flaw → Text
  | .missing path => "Sequence file not found: " ++ path
  | .unreadable reason => "Failed to read NPZ: " ++ reason
  | .incomplete => "NPZ must contain arrays: sequence_name, frame_names, durations, targets"
  | .lengths => "frame_names and durations must have the same length"
  | .flatTargets => "targets must be a 2D array (frames x channels)"
  | .rows => "targets must have one row per frame"
  | .unreadableNumber fault => "Failed checking duration/target bounds: " ++ fault.message
  | .durations => "durations must be in 0..65535"
  | .targets => "targets must be in 0..65535"

/-- What a file in an archive holds. -/
inductive Value where
  | table (table : Table)
  /-- Octets that are no array. -/
  | raw (octets : List UInt8)

/-- The value as an array. Octets are an array without extent. -/
def Value.toTable : Value → Table
  | .table t => t
  | .raw octets => ⟨[], .octets [octets]⟩

def Value.text : Value → Text
  | .table t => t.text
  | .raw octets => Octets.shown octets

structure Arrays where
  name : Table
  frameNames : Table
  durations : Table
  targets : Table

structure Parts where
  name : Text
  frameNames : Table
  durations : Table
  targets : Table

def Arrays.named (a : Arrays) : List (Text × Table) :=
  [("sequence_name", a.name), ("frame_names", a.frameNames), ("durations", a.durations),
    ("targets", a.targets)]

/-! ## Files -/

/-- An archive that is open: what it holds under a name, or why that cannot be read. -/
abbrev Opened := Text → Option (Except Text Value)

/-- How archives are written to files of some content and opened again. -/
structure Codec (γ : Type) where
  write : List (Text × Table) → γ
  /-- The archive in a file, or why it is none. -/
  opened : γ → Except Text Opened

/-- What is at a path. -/
inductive Slot (γ : Type) where
  /-- Nothing, in a folder that is there. -/
  | free
  /-- Nothing, and its folder is missing. -/
  | stray
  /-- Nothing, and a file stands where its folder should be. -/
  | blocked
  | folder
  | file (content : γ)

/-- A file system, by its paths. -/
abbrev Disk (γ : Type) := Text → Slot γ

def Disk.put {γ : Type} (disk : Disk γ) (path : Text) (content : γ) : Disk γ :=
  fun other => if other = path then .file content else disk other

def suffix : Text := ".npz"

/-- The path of the file that an archive is saved in: the one given, with the suffix if it lacks it. -/
def filePath (path : Text) : Text :=
  if suffix.isSuffixOf path then path else path ++ suffix

/-- The value under a name, if the archive holds it. -/
def Opened.value (opened : Opened) (name : Text) : Except Flaw Value :=
  match opened name with
  | none => .error .incomplete
  | some (.error reason) => .error (.unreadable reason)
  | some (.ok value) => .ok value

/-- The four arrays of an archive. All have to be there before any of them is read. -/
def Opened.parts (opened : Opened) : Except Flaw Parts := do
  let names : List Text := ["sequence_name", "frame_names", "durations", "targets"]
  if names.any fun name => (opened name).isNone then .error .incomplete
  let name ← opened.value "sequence_name"
  let frameNames ← opened.value "frame_names"
  let durations ← opened.value "durations"
  let targets ← opened.value "targets"
  .ok ⟨name.text, frameNames.toTable, durations.toTable, targets.toTable⟩

def Codec.parts {γ : Type} (codec : Codec γ) (content : γ) : Except Flaw Parts :=
  match codec.opened content with
  | .error reason => .error (.unreadable reason)
  | .ok opened => opened.parts

/-! ## Room -/

/-- Checks that there can be a grid of entries with `size` octets each. An extent of zero does not
count. -/
def checkSize (size rows columns : Nat) : Except Fault Unit :=
  if Json.wordBound ≤ (size * max rows 1 * max columns 1 : Nat) then .error .hugeArray else .ok ()

def longSize : Nat := 8

/-- A number of octets in a unit of `1024 ^ power` of them, with three digits. -/
def sizeIn (unit : Text) (power octets : Nat) : Text :=
  let places (n : Nat) : Nat := Binary64.roundDiv (octets * Nat.pow 10 n) (Nat.pow 1024 power)
  let digits : Text :=
    if places 2 < 1000 then
      Text.ofNat (places 2 / 100) ++ "." ++ Text.padded 2 (places 2 % 100)
    else if places 1 < 1000 then Text.ofNat (places 1 / 10) ++ "." ++ Text.ofNat (places 1 % 10)
    else Text.ofNat (places 0) ++ "."
  digits ++ " " ++ unit

def sizeText (octets : Nat) : Text :=
  let units : List Text := [("bytes" : Text), ("KiB" : Text), ("MiB" : Text), ("GiB" : Text), ("TiB" : Text),
    ("PiB" : Text), ("EiB" : Text)]
  let power := Nat.log2 octets / 10
  let power := if Binary64.roundDiv octets (Nat.pow 1024 power) = 1024 then power + 1 else power
  let power := min power (units.length - 1)
  sizeIn (units.getD power []) power octets

/-- Checks that there is room for a grid of entries of a kind with `size` octets each. -/
def checkRoom [Memory] (kind : Text) (size rows columns : Nat) : Except Fault Unit := do
  checkSize size rows columns
  let octets := size * (rows * columns)
  if 0 < rows * columns && Memory.octets ≤ octets then
    .error (.noRoomForArray (sizeText octets) (shownShape [rows, columns]) kind)

/-! ## Loading -/

/-- The number of columns of a grid with a row for each of `count` frames. A grid without entries is
good for no frames, whatever its shape. -/
def columns (count : Nat) (targets : Table) : Except Flaw Nat :=
  match targets.shape with
  | [rows, columns] => if rows = count then .ok columns else .error .rows
  | shape => if volume shape = 0 && count = 0 then .ok 0 else .error .flatTargets

def longs (table : Table) : Except Flaw (List Int) :=
  match table.entries.toLongs with
  | .ok values => .ok values
  | .error fault => .error (.unreadableNumber fault)

def gridLongs [Memory] (rows columns : Nat) (table : Table) : Except Flaw (List Int) :=
  match checkRoom "int64" longSize rows columns with
  | .ok () => longs table
  | .error fault => .error (.unreadableNumber fault)

/-- Frames from their names, their durations and the rows of their targets. -/
def framesOf : List Text → List Int → List (List Int) → List Frame
  | name :: names, duration :: durations, targets :: rows =>
    ⟨name, duration, targets⟩ :: framesOf names durations rows
  | _, _, _ => []

def Parts.toSequence [Memory] (a : Parts) : Except Flaw Sequence := do
  let names := a.frameNames.entries.labels
  let count := names.length
  if a.durations.entries.length ≠ count then .error .lengths
  let width ← columns count a.targets
  let durations ← longs a.durations
  let targets ← gridLongs count width a.targets
  if !durations.all Word.isWord then .error .durations
  if !targets.all Word.isWord then .error .targets
  .ok ⟨a.name, framesOf names durations (parts width count targets)⟩

def load {γ : Type} [Memory] (codec : Codec γ) (content : γ) : Except Flaw Sequence := do
  (← codec.parts content).toSequence

def loadFrom {γ : Type} [Memory] (codec : Codec γ) (disk : Disk γ) (path : Text) : Except Flaw Sequence :=
  match disk path with
  | .file content => load codec content
  | .folder => .error (.unreadable (Fault.isFolder path).message)
  | _ => .error (.missing path)

/-! ## Saving -/

def word (n : Int) : Except Fault Int :=
  if Word.isWord n then .ok n
  else if Entries.isLong n then .error (.notWord n)
  else .error .notLong

/-- The targets of the first `count` channels. -/
def row (count : Nat) (targets : List Int) : List Int :=
  (List.range count).map fun (channel : Nat) => targetAt targets channel

def extentOf : Json → Except Fault Nat
  | .int n => if Json.wordBound ≤ n then .error .hugeExtent else .ok n.toNat
  | v => .error (.notExtent v.kind)

def wordSize : Nat := 2

/-- The arrays of a draft with `count` channels. The targets are checked frame by frame, then the
names are laid out, then all durations are read, then they are checked. -/
def saveDraft [Memory] (count : Json) (d : Sequence.Draft) : Except Fault Arrays := do
  if ← Json.Relation.less.holds count (.int 1) then .error .emptyArchive
  let count ← extentOf count
  let frames := d.frames.length
  checkRoom "uint16" wordSize frames count
  let targets ← d.frames.mapM fun f => (row count f.targets).mapM word
  let name ← Table.ofNested d.name
  let frameNames ← Table.ofNested (.list (d.frames.map Frame.Draft.name))
  let durations ← d.frames.mapM fun f => f.duration.toInt
  let durations ← durations.mapM word
  .ok ⟨name, frameNames.flat, ⟨[frames], .integers durations⟩,
    ⟨[frames, count], .integers targets.flatten⟩⟩

/-- The arrays of a sequence with `count` channels. -/
def save [Memory] (count : Int) (s : Sequence) : Except Fault Arrays :=
  saveDraft (.int count) s.draft

/-- Saves a sequence at a path. The arrays are made before the file is opened. -/
def saveTo {γ : Type} [Memory] (codec : Codec γ) (disk : Disk γ) (path : Text) (count : Int) (s : Sequence) :
    Except Fault Unit × Disk γ :=
  match save count s with
  | .error fault => (.error fault, disk)
  | .ok arrays =>
    let path := filePath path
    match disk path with
    | .stray => (.error (.noFolder path), disk)
    | .blocked => (.error (.notFolder path), disk)
    | .folder => (.error (.isFolder path), disk)
    | _ => (.ok (), disk.put path (codec.write arrays.named))

end ServoScript.Archive
