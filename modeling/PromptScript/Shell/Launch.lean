import PromptScript.Shell.State

/-!
# Finding programs

Which tool a path starts, and with which arguments.  A file that may be run names its interpreter
in its first line; the standard tools stand in the directories of programs.
-/

namespace PromptScript.Shell

/-- A tool that is started under a name, with its arguments. -/
structure Launch where
  tool : String
  invoked : Octets
  arguments : List Octets

namespace Launch

/-- The names of the shell. -/
def shellNames : List String := ["sh", "dash", "bash"]

/-- The tool whose program stands at a path. -/
def standardTool? (isTool : String → Bool) (path : String) : Option String :=
  match Path.pieces path with
  | ["", "bin", name] | ["", "usr", "bin", name] => if isTool name then some name else none
  | _ => none

/-- The interpreter that the first line of a script names, with its argument. -/
def interpreter? (content : Octets) : Option (Octets × Option Octets) :=
  match content with
  | '#' :: '!' :: rest =>
    let isGap (c : Char) : Bool := c == ' ' || c == '\t'
    let line := (rest.takeWhile (· != '\n')).dropWhile isGap
    let path := line.takeWhile fun c => !isGap c
    let argument := (((line.drop path.length).dropWhile isGap).reverse.dropWhile isGap).reverse
    if path.isEmpty then none
    else some (path, if argument.isEmpty then none else some argument)
  | _ => none

/-- What a path starts.  The fuel bounds the number of interpreters of interpreters. -/
def ofPath (isTool : String → Bool) (tree : FileTree) :
    Nat → Octets → Octets → List Octets → Except FileError Launch
  | 0, _, _, _ => .error .badExecutable
  | fuel + 1, path, invoked, arguments =>
    match standardTool? isTool (display path) with
    | some tool => .ok ⟨tool, invoked, arguments⟩
    | none =>
      match tree.lookup (display path) with
      | .error cause => .error cause
      | .ok .directory => .error .permissionDenied
      | .ok (.file file) =>
        if !file.executable then .error .permissionDenied
        else
          match interpreter? (ofBytes file.content) with
          | none => .error .badExecutable
          | some (interpreter, argument) =>
            ofPath isTool tree fuel interpreter interpreter (argument.toList ++ path :: arguments)

/-- The paths that a command name can stand for. -/
def candidates (searched name : Octets) : List Octets :=
  if name.contains '/' then [name]
  else
    ((String.ofList searched).splitOn ":").map fun place =>
      if place.isEmpty then name else place.toList ++ '/' :: name

/-- The path of the program with a name. -/
def find? (isTool : String → Bool) (tree : FileTree) (searched name : Octets) : Option Octets :=
  (candidates searched name).find? fun path =>
    (standardTool? isTool (display path)).isSome || tree.isFile (display path)

/-- What a command name starts. -/
def ofName (isTool : String → Bool) (tree : FileTree) (searched name : Octets)
    (arguments : List Octets) : Except FileError Launch :=
  if name.contains '/' then ofPath isTool tree 5 name name arguments
  else
    match find? isTool tree searched name with
    | some path => ofPath isTool tree 5 path name arguments
    | none => .error .notFound

end Launch

end PromptScript.Shell
