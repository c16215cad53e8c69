import PromptScript.Files.Path
import PromptScript.Text.Utf8

/-!
# File trees

A tree of directories and files.  Every entry has a location, which is the list of names from the
root.  Paths are followed from the working directory or from the root; there are no links.
Every change takes the next instant of the tree's clock, so two changes never bear the same time.
-/

namespace PromptScript

/-- Why a file operation fails. -/
inductive FileError where
  | notFound
  | permissionDenied
  | alreadyExists
  | notDirectory
  | isDirectory
  | nameTooLong
  | directoryNotEmpty
  | badExecutable
  | notText
  | nulInName
  | nulInArgument
  deriving DecidableEq, Repr

/-- The wording of a file error. -/
def FileError.message : FileError → String
  | notFound => "No such file or directory (os error 2)"
  | permissionDenied => "Permission denied (os error 13)"
  | alreadyExists => "File exists (os error 17)"
  | notDirectory => "Not a directory (os error 20)"
  | isDirectory => "Is a directory (os error 21)"
  | nameTooLong => "File name too long (os error 36)"
  | directoryNotEmpty => "Directory not empty (os error 39)"
  | badExecutable => "Exec format error (os error 8)"
  | notText => "stream did not contain valid UTF-8"
  | nulInName => "file name contained an unexpected NUL byte"
  | nulInArgument => "nul byte found in provided data"

/-- The names from the root to an entry. -/
abbrev Location := List String

/-- A file. -/
structure File where
  content : Text.Bytes
  executable : Bool
  /-- The time of the last change, in nanoseconds. -/
  modified : Int
  deriving DecidableEq, Repr

/-- What stands at a location. -/
inductive Entry where
  | directory
  | file (file : File)
  deriving DecidableEq, Repr

/-- A tree of entries with the directory where relative paths begin. -/
structure FileTree where
  /-- Every entry but the root. -/
  entries : List (Location × Entry)
  workingDirectory : Location
  /-- The time of the next change, in nanoseconds. -/
  clock : Int
  deriving Repr

namespace FileTree

/-- The entry at a location. -/
def get? (tree : FileTree) (location : Location) : Option Entry :=
  if location.isEmpty then some .directory
  else (tree.entries.find? fun entry => entry.1 == location).map (·.2)

/-- Whether a directory stands at a location. -/
def isDirectoryAt (tree : FileTree) (location : Location) : Bool :=
  tree.get? location == some .directory

/-- The names of the entries of a directory, in order. -/
def namesAt (tree : FileTree) (location : Location) : List String :=
  let names := tree.entries.filterMap fun entry =>
    if entry.1.dropLast = location then entry.1.getLast? else none
  names.mergeSort fun a b => !(b < a)

/-- Follows names from a location. -/
def follow (tree : FileTree) (location : Location) : List String → Except FileError Location
  | [] => .ok location
  | name :: rest =>
    match tree.get? location with
    | none => .error .notFound
    | some (.file _) => .error .notDirectory
    | some .directory =>
      if name = "" ∨ name = "." then follow tree location rest
      else if name = ".." then follow tree location.dropLast rest
      else if 255 < name.utf8ByteSize then .error .nameTooLong
      else
        match tree.get? (location ++ [name]) with
        | none => .error .notFound
        | some _ => follow tree (location ++ [name]) rest

/-- Where a path begins. -/
def origin (tree : FileTree) (path : String) : Location :=
  if Path.isAbsolute path then [] else tree.workingDirectory

/-- Refuses texts that name nothing. -/
def checkPath (path : String) : Except FileError Unit :=
  if path.toList.contains '\x00' then .error .nulInName
  else if path.isEmpty then .error .notFound
  else .ok ()

/-- The location of the entry that a path names. -/
def resolve (tree : FileTree) (path : String) : Except FileError Location := do
  checkPath path
  tree.follow (tree.origin path) (Path.pieces path)

/-- The entry that a path names. -/
def lookup (tree : FileTree) (path : String) : Except FileError Entry := do
  match tree.get? (← tree.resolve path) with
  | some entry => return entry
  | none => throw .notFound

/-- Whether a path names an entry. -/
def existsAt (tree : FileTree) (path : String) : Bool :=
  (tree.resolve path).isOk

/-- Whether a path names a directory. -/
def isDirectory (tree : FileTree) (path : String) : Bool :=
  match tree.lookup path with
  | .ok .directory => true
  | _ => false

/-- Whether a path names a file. -/
def isFile (tree : FileTree) (path : String) : Bool :=
  match tree.lookup path with
  | .ok (.file _) => true
  | _ => false

/-- The names of the entries of the directory that a path names, in order. -/
def list (tree : FileTree) (path : String) : Except FileError (List String) := do
  let location ← tree.resolve path
  if tree.isDirectoryAt location then return tree.namesAt location else throw .notDirectory

/-- The content of the file that a path names. -/
def read (tree : FileTree) (path : String) : Except FileError Text.Bytes := do
  match ← tree.lookup path with
  | .file file => return file.content
  | .directory => throw .isDirectory

/-- The text of the file that a path names. -/
def readText (tree : FileTree) (path : String) : Except FileError String := do
  match Text.ofBytes? (← tree.read path) with
  | some text => return text
  | none => throw .notText

/-- The location that a path names, whose last name need not stand in the tree. -/
def target (tree : FileTree) (path : String) : Except FileError Location := do
  checkPath path
  let pieces := Path.pieces path
  let name := pieces.getLast?.getD ""
  if name = "" ∨ name = "." ∨ name = ".." then tree.follow (tree.origin path) pieces
  else
    let parent ← tree.follow (tree.origin path) pieces.dropLast
    if !tree.isDirectoryAt parent then throw .notDirectory
    if 255 < name.utf8ByteSize then throw .nameTooLong
    return parent ++ [name]

/-- Puts an entry at a location. -/
def put (tree : FileTree) (location : Location) (entry : Entry) : FileTree :=
  { tree with
    entries := (location, entry) :: tree.entries.filter fun old => old.1 != location
    clock := tree.clock + 1 }

/-- Takes the entry at a location away, with everything below it. -/
def erase (tree : FileTree) (location : Location) : FileTree :=
  { tree with entries := tree.entries.filter fun old => !location.isPrefixOf old.1 }

/-- Writes a file; one that stands there already keeps its permission to be run. -/
def write (tree : FileTree) (path : String) (content : Text.Bytes) :
    Except FileError FileTree := do
  let location ← tree.target path
  match tree.get? location with
  | some .directory => throw .isDirectory
  | some (.file old) => return tree.put location (.file ⟨content, old.executable, tree.clock⟩)
  | none => return tree.put location (.file ⟨content, false, tree.clock⟩)

/-- Creates a file that must not stand there yet. -/
def create (tree : FileTree) (path : String) (content : Text.Bytes) :
    Except FileError FileTree := do
  let location ← tree.target path
  match tree.get? location with
  | some _ => throw .alreadyExists
  | none => return tree.put location (.file ⟨content, false, tree.clock⟩)

/-- Creates the directory at a location and those above it, where they are missing. -/
def createDirectoriesAt (tree : FileTree) (above : Location) :
    List String → Except FileError FileTree
  | [] => .ok tree
  | name :: rest =>
    if name = "" ∨ name = "." then createDirectoriesAt tree above rest
    else if name = ".." then createDirectoriesAt tree above.dropLast rest
    else if 255 < name.utf8ByteSize then .error .nameTooLong
    else
      let location := above ++ [name]
      match tree.get? location with
      | some .directory => createDirectoriesAt tree location rest
      | some (.file _) =>
        if rest.isEmpty then .error .alreadyExists else .error .notDirectory
      | none => createDirectoriesAt (tree.put location .directory) location rest

/-- Creates the directory that a path names and those above it, where they are missing. -/
def createDirectories (tree : FileTree) (path : String) : Except FileError FileTree :=
  if path.isEmpty then .ok tree
  else if path.toList.contains '\x00' then .error .nulInName
  else tree.createDirectoriesAt (tree.origin path) (Path.pieces path)

/-- Removes the file that a path names. -/
def removeFile (tree : FileTree) (path : String) : Except FileError FileTree := do
  let location ← tree.resolve path
  if tree.isDirectoryAt location then throw .isDirectory
  return tree.erase location

/-- Gives a file another name; a file of that name is replaced. -/
def rename (tree : FileTree) (path newPath : String) : Except FileError FileTree := do
  let location ← tree.resolve path
  let newLocation ← tree.target newPath
  match tree.get? location, tree.get? newLocation with
  | some (.file _), some .directory => throw .isDirectory
  | some (.file file), _ =>
    return (tree.erase location).put newLocation (.file file)
  | _, _ => throw .isDirectory

/-- The paths of all files below the working directory, in order. -/
def filePaths (tree : FileTree) : List String :=
  let below := tree.entries.filterMap fun (location, entry) =>
    match entry with
    | .file _ =>
      if tree.workingDirectory.isPrefixOf location then
        some ("/".intercalate (location.drop tree.workingDirectory.length))
      else none
    | .directory => none
  below.mergeSort fun a b => !(b < a)

end FileTree

end PromptScript
