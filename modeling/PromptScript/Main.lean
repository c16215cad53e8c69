import PromptScript.CommandLine.Execute
import PromptScript.Process.Host

/-!
# The command line

Reads the project's files, carries out the command line on them, writes back what changed and
shows the lines.  A file counts as executable where it begins with `#!`.
-/

namespace PromptScript.CommandLine

/-- The location of an absolute path. -/
def locationOf (path : String) : Location :=
  (Path.pieces path).filter (!·.isEmpty)

/-- A file as it stands on the disk. -/
def loadFile (path : String) (modified : IO.FS.SystemTime) : IO Entry := do
  let content := (← IO.FS.readBinFile path).toList
  let nanoseconds : Int := modified.sec * 1000000000 + modified.nsec.toNat
  return .file ⟨content, content.take 2 == [35, 33], nanoseconds⟩

/-- Adds everything below a directory to some entries. -/
partial def loadBelow (path : String) (entries : List (Location × Entry)) :
    IO (List (Location × Entry)) := do
  let mut found := entries
  for item in ← (← IO.FS.realPath path).readDir do
    let child := toString item.path
    let facts ← item.path.metadata
    match facts.type with
    | .dir => found ← loadBelow child ((locationOf child, .directory) :: found)
    | .file =>
      if let .ok entry ← (loadFile child facts.modified).toBaseIO then
        found := (locationOf child, entry) :: found
    | _ => continue
  return found

/-- The nearest directory at or above a path that has a file of settings, or else the path. -/
partial def projectRoot (directory : String) : IO String := do
  let rec search (path : String) : IO (Option String) := do
    let candidate := Path.join path Config.fileName
    if (← (IO.FS.readBinFile candidate).toBaseIO) matches .ok _ then return some path
    match Path.parent? path with
    | some above => if above.isEmpty then return none else search above
    | none => return none
  return (← search directory).getD directory

/-- The entries of the directories above a location. -/
def above (location : Location) : List (Location × Entry) :=
  (List.range location.length).map fun count => (location.take (count + 1), .directory)

/-- The project's files as they stand on the disk. -/
def loadTree (words : List String) : IO FileTree := do
  let here := toString (← IO.FS.realPath ".")
  let mut directories := [← projectRoot here]
  for word in words do
    if let .ok path ← (IO.FS.realPath word).toBaseIO then
      if let some directory := Path.parent? (toString path) then
        directories := directories ++ [← projectRoot directory]
  let mut entries : List (Location × Entry) := []
  for directory in directories do
    if !entries.any (fun entry => entry.1 == locationOf directory) then
      entries ← loadBelow directory (entries ++ above (locationOf directory))
  let clock ← IO.FS.withTempFile fun _ path => do
    let now := (← path.metadata).modified
    return now.sec * 1000000000 + (now.nsec.toNat : Int)
  return ⟨entries, locationOf here, clock⟩

/-- Writes the differences between two trees to the disk. -/
def storeTree (before after : FileTree) : IO Unit := do
  for (location, entry) in after.entries.reverse do
    if before.get? location != some entry then
      let path := Surroundings.absolutePath location
      match entry with
      | .directory => IO.FS.createDirAll path
      | .file file =>
        IO.FS.createDirAll (Surroundings.absolutePath location.dropLast)
        IO.FS.writeBinFile path ⟨file.content.toArray⟩
        if file.executable then
          let all : IO.AccessRight := ⟨true, true, true⟩
          let others : IO.AccessRight := ⟨true, false, true⟩
          IO.setAccessRights path ⟨all, others, others⟩
  for (location, entry) in before.entries do
    if (after.get? location).isNone && entry != .directory then
      IO.FS.removeFile (Surroundings.absolutePath location)

/-- The variables of the environment that hold keys. -/
def loadEnvironment : IO (List (String × String)) := do
  let names := Backend.builtin.map fun backend => (KeyVariables.mk []).nameFor backend.name
  names.filterMapM fun name => return (← IO.getEnv name).map fun value => (name, value)

/-- An identifier for a new session: random digits in five groups. -/
def newSessionId : IO String := do
  let bytes := (← IO.getRandomBytes 16).toList
  let digits := bytes.flatMap fun byte =>
    [Nat.digitChar (byte.toNat / 16), Nat.digitChar (byte.toNat % 16)]
  let group (start count : Nat) : String := String.ofList ((digits.drop start).take count)
  return "-".intercalate
    [group 0 8, group 8 4, "4" ++ group 13 3, "a" ++ group 17 3, group 20 12]

/-- Reads the standard input where a command takes it. -/
def loadInput (words : List String) : IO Text.Bytes := do
  match Reading.ofWords words with
  | .request ⟨.reply _ message, _⟩ =>
    if message.isEmpty || message == ["-"] then
      return (← (← IO.getStdin).readBinToEnd).toList
    else return []
  | _ => return []

end PromptScript.CommandLine

open PromptScript PromptScript.CommandLine in
/-- Carries out the command line. -/
def main (words : List String) : IO UInt32 := do
  let tree ← loadTree words
  let around : Surroundings :=
    { tree
      environment := ← loadEnvironment
      input := ← loadInput words
      sessionId := ← newSessionId
      runProgram := ProgramRunner.host }
  let ending := execute around words
  storeTree tree ending.tree
  for line in ending.output do
    IO.println line
  for line in ending.errors do
    IO.eprintln line
  return UInt32.ofNat ending.code
