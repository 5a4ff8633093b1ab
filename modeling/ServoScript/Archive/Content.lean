import ServoScript.Archive
import ServoScript.Archive.Cells
import ServoScript.Archive.Member
import ServoScript.File

/-!
# The files of archives

The archives of files that hold octets, or, before they are written out, the arrays themselves. What
is proved about archives is proved for every codec; the one here is the codec that runs. The modules
on directories, members, kinds and headers, and with them those on literals and the names of
characters, serve it alone.
-/

namespace ServoScript.Archive

inductive Content where
  /-- An archive of named arrays. -/
  | arrays (tables : List (Text × Table))
  /-- A single array. -/
  | single (table : Table)
  /-- Octets, which may be an archive. -/
  | octets (octets : List UInt8)

/-- The value of an array, unless its entries are foreign. -/
def known : Table → Except Text Value
  | ⟨_, .foreign⟩ => .error Header.Flaw.foreign.message
  | table => .ok (.table table)

/-- The name of the file for an array. It ends before a null character. -/
def fileName (name : Text) : Text :=
  (name ++ ".npy").takeWhile (· != CodePoint.char '\x00')

/-- The file of an array: the last one with its name, or else with the name of the file for it. -/
def findFile? {α : Type} (files : List (Text × α)) (name : Text) : Option α :=
  (files.reverse.lookup name).or (files.reverse.lookup (name ++ ".npy"))

/-- The archive of files, which are read by a function when their turn comes. -/
def openedFiles {α : Type} (read : α → Except Text Value) (files : List (Text × α)) : Opened :=
  fun name => (findFile? files name).map read

/-- Reads a file of an archive. Only one that starts with the mark of an array is an array. -/
def readMember (octets : List UInt8) (e : Entry) : Except Text Value :=
  match Member.content octets e with
  | .error flaw => .error flaw.message
  | .ok content =>
    if Header.mark.isPrefixOf content then
      match Cells.read content with
      | .error flaw => .error flaw.message
      | .ok table => .ok (.table table)
    else .ok (.raw content)

def openedOctets (octets : List UInt8) : Except Text Opened :=
  match Directory.entries octets with
  | .error flaw => .error flaw.message
  | .ok entries => .ok (openedFiles (readMember octets) (entries.map fun e => (e.name, e)))

def singleReason : Text :=
  "'numpy.ndarray' object does not support the context manager protocol"

def reasonOfSingle (octets : List UInt8) : Text :=
  match Header.read octets with
  | .error flaw => flaw.message
  | .ok (header, content) =>
    match header.checkFile content with
    | .error flaw => flaw.message
    | .ok () => singleReason

namespace Content

def opened : Content → Except Text Opened
  | .arrays tables => .ok (openedFiles known (tables.map fun (name, table) => (fileName name, table)))
  | .single ⟨_, .foreign⟩ => .error Header.Flaw.foreign.message
  | .single _ => .error singleReason
  | .octets file =>
    if file.isEmpty then .error "No data left in file"
    else if Directory.fileMark.isPrefixOf file || Directory.endMark.isPrefixOf file then
      openedOctets file
    else if Header.mark.isPrefixOf file then .error (reasonOfSingle file)
    else
      .error ("This file contains pickled (object) data. If you trust the file you can load it " ++
        "unsafely using the `allow_pickle=` keyword argument or `pickle.load()`.")

/-- Archives in files whose arrays are not written out. -/
def codec : Codec Content where
  write := .arrays
  opened := opened

def slotOf : FileState → Slot Content
  | .octets content => .file (.octets content)
  | .folder => .folder
  | .blocked => .blocked
  | .missing => .free

end Content

end ServoScript.Archive
