/-
# Files and folders

Files are what they hold: a list of entries, each a file or a folder at a
path below the one folder that is always there.  A path is followed from
that folder, one component after the other; what stands in the way says why
a file cannot be read or written.
-/
import CaptureTypes.Text.Slice

namespace CaptureTypes

/-- Why a file cannot be read or written. -/
inductive FileError where
  | notFound
  | isFolder
  | notFolder
  | nameTooLong
  | notText
  | nullInName
deriving DecidableEq, Repr

/-- The words for a file error. -/
def FileError.message : FileError → String
  | notFound => "No such file or directory (os error 2)"
  | isFolder => "Is a directory (os error 21)"
  | notFolder => "Not a directory (os error 20)"
  | nameTooLong => "File name too long (os error 36)"
  | notText => "stream did not contain valid UTF-8"
  | nullInName => "file name contained an unexpected NUL byte"

/-- What a path leads to. -/
inductive Entry where
  | file (content : ByteArray)
  | folder

/-- Components of a path below the one folder that is always there. -/
abbrev Location := List (List Char)

/-- The entries below the one folder that is always there. -/
structure Files where
  entries : List (Location × Entry)

/-! ## Paths -/

/-- The pieces of a text between slashes; `now` holds the piece being read, the latest character
first. -/
def slashPieces (now : List Char) : List Char → List (List Char)
  | [] => [now.reverse]
  | c :: rest =>
    if c = '/' then now.reverse :: slashPieces [] rest else slashPieces (c :: now) rest

/-- The components of a path, the empty ones left out. -/
def components (path : List Char) : List (List Char) :=
  (slashPieces [] path).filter fun piece => !piece.isEmpty

/-- A path to something in a folder. -/
def joinPath (folder name : String) : String :=
  match folder.toList.getLast? with
  | none => name
  | some '/' => folder ++ name
  | some _ => folder ++ "/" ++ name

/-- The longest name of an entry, in bytes. -/
def nameLimit : Nat := 255

/-- The longest path, in bytes. -/
def pathLimit : Nat := 4095

namespace Files

/-- No entries at all. -/
def empty : Files := ⟨[]⟩

/-- The entry at a location. -/
def find? (fs : Files) (l : Location) : Option Entry :=
  if l.isEmpty then some .folder else fs.entries.lookup l

/-- The files with another entry at a location. -/
def set (fs : Files) (l : Location) (e : Entry) : Files :=
  ⟨(l, e) :: fs.entries.filter fun entry => entry.1 != l⟩

/-- The location of a folder, reached from another folder. -/
def walk (fs : Files) (here : Location) : List (List Char) → Except FileError Location
  | [] => .ok here
  | c :: rest =>
    if c = ['.'] then fs.walk here rest
    else if c = ['.', '.'] then fs.walk here.dropLast rest
    else if nameLimit < Text.byteLength c then .error .nameTooLong
    else
      match fs.find? (here ++ [c]) with
      | none => .error .notFound
      | some (.file _) => .error .notFolder
      | some .folder => fs.walk (here ++ [c]) rest

/-- What a path means: a folder, if it ends with one of the two names of folders, or a name in a
folder, with whether a slash follows it. -/
inductive Target where
  | folder (l : Location)
  | named (l : Location) (slash : Bool)

/-- Where a path leads, as far as all but its last component go. -/
def target (fs : Files) (path : String) : Except FileError Target :=
  let cs := path.toList
  if '\x00' ∈ cs then .error .nullInName
  else if cs.isEmpty then .error .notFound
  else if pathLimit < Text.byteLength cs then .error .nameTooLong
  else
    let names := components cs
    match names.getLast? with
    | none => .ok (.folder [])
    | some last => do
      let here ← fs.walk [] names.dropLast
      if last = ['.'] ∨ last = ['.', '.'] then .ok (.folder (← fs.walk here [last]))
      else if nameLimit < Text.byteLength last then .error .nameTooLong
      else .ok (.named (here ++ [last]) (cs.getLast? = some '/'))

/-- The bytes of the file at a path. -/
def readBytes (fs : Files) (path : String) : Except FileError ByteArray := do
  match ← fs.target path with
  | .folder _ => .error .isFolder
  | .named l slash =>
    match fs.find? l with
    | none => .error .notFound
    | some .folder => .error .isFolder
    | some (.file content) => if slash then .error .notFolder else .ok content

/-- The text of the file at a path. -/
def readText (fs : Files) (path : String) : Except FileError String := do
  match String.fromUTF8? (← fs.readBytes path) with
  | some text => .ok text
  | none => .error .notText

/-- Writes the file at a path, whether or not it is there. -/
def writeBytes (fs : Files) (path : String) (content : ByteArray) : Except FileError Files := do
  match ← fs.target path with
  | .folder _ => .error .isFolder
  | .named l slash =>
    if slash then .error .isFolder
    else
      match fs.find? l with
      | some .folder => .error .isFolder
      | _ => .ok (fs.set l (.file content))

/-- Writes a text to the file at a path. -/
def writeText (fs : Files) (path text : String) : Except FileError Files :=
  fs.writeBytes path text.toUTF8

/-- Makes folders below a folder, as far as nothing is there. -/
def makeFolders (fs : Files) (here : Location) : List (List Char) → Files
  | [] => fs
  | c :: rest =>
    if c = ['.'] then fs.makeFolders here rest
    else if c = ['.', '.'] then fs.makeFolders here.dropLast rest
    else
      let l := here ++ [c]
      match fs.find? l with
      | none => (fs.set l .folder).makeFolders l rest
      | some .folder => fs.makeFolders l rest
      | some (.file _) => fs

/-- Makes a folder and those that lead to it. -/
def makeFolder (fs : Files) (path : String) : Files := fs.makeFolders [] (components path.toList)

end Files

end CaptureTypes
