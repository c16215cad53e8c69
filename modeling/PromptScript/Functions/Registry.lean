import PromptScript.Backend.Basic
import PromptScript.Json.Basic
import PromptScript.Json.Selection
import PromptScript.Process.Basic
import PromptScript.Schema.Validate

/-!
# Functions

What executables say about their functions, and which of the functions are known.
-/

namespace PromptScript

/-!
## Function manifests

What an executable says about its functions when it is asked to list them.
-/

/-- A function that an executable provides. -/
structure FunctionDescriptor where
  name : String
  description : String
  /-- The schema of the arguments. -/
  parameters : Json
  /-- The path of the executable. -/
  executable : String
  deriving DecidableEq, Repr

namespace FunctionDescriptor

/-- The declaration of a function for a model. -/
def declaration (descriptor : FunctionDescriptor) : ToolDeclaration :=
  ⟨descriptor.name, descriptor.description, descriptor.parameters⟩

/-- The schema of a function that declares none: any object. -/
def defaultParameters : Json :=
  .object [("properties", .object []), ("type", .string "object")]

/-- The descriptor with the given values of its fields. -/
def ofFields? (executable : String) (name description parameters : Option Json) :
    Option FunctionDescriptor := do
  let name ← (← name).asString?
  let description ← match description with
    | some value => value.asString?
    | none => some ""
  some ⟨name, description, (parameters.map Json.sorted).getD defaultParameters, executable⟩

/-- The descriptor that a value writes.  The schema has two names, of which one may be given. -/
def ofJson? (executable : String) (value : Json) : Option FunctionDescriptor := do
  match value with
  | .object members =>
    let parameters ← match ← Json.uniqueMember? "parameters" members,
        ← Json.uniqueMember? "jsonSchema" members with
      | some _, some _ => none
      | some schema, none | none, some schema => some (some schema)
      | none, none => some none
    ofFields? executable (← Json.uniqueMember? "name" members)
      (← Json.uniqueMember? "description" members) parameters
  | .array items =>
    match ← Json.fieldsOfItems? ["name", "description", "parameters"] items with
    | [name, description, parameters] => ofFields? executable name description parameters
    | _ => none
  | _ => none

/-- What is looked at in a manifest. -/
def wanted : Json.Selection :=
  .each (.members ["name", "description", "parameters", "jsonSchema"])

/-- The descriptors that a manifest writes. -/
def ofManifest? (executable text : String) : Option (List FunctionDescriptor) := do
  let value ← (Json.readParts wanted (Text.trim text)).toOption
  (← value.asArray?).mapM (ofJson? executable)

end FunctionDescriptor

/-!
## The function registry

Functions are found in directories, in the order of the directories and then of the names in each.
Of several functions with one name the first counts.  What an executable says about itself is kept
until its time of change differs.
-/

/-- What an executable said at some time about its functions. -/
structure CachedManifest where
  path : String
  modified : Int
  descriptors : List FunctionDescriptor
  deriving DecidableEq, Repr

/-- The functions that are known. -/
structure FunctionRegistry where
  directories : List String
  /-- The time that an executable may take, in milliseconds. -/
  limit : Nat
  cache : List CachedManifest
  /-- The functions in the order in which they were found, each name once. -/
  functions : List FunctionDescriptor
  /-- The number of times that an executable was asked. -/
  queries : Nat
  deriving DecidableEq, Repr

namespace FunctionRegistry

/-- The argument that asks an executable for its functions. -/
def listFlag : String := "--list-functions"

/-- A registry that was not filled yet. -/
def empty (directories : List String) (limit : Nat) : FunctionRegistry :=
  ⟨directories, limit, [], [], 0⟩

/-- The function with the given name. -/
def get? (registry : FunctionRegistry) (name : String) : Option FunctionDescriptor :=
  registry.functions.find? fun descriptor => descriptor.name == name

/-- Whether a function has the given name. -/
def contains (registry : FunctionRegistry) (name : String) : Bool :=
  (registry.get? name).isSome

/-- The declarations of all functions for a model. -/
def declarations (registry : FunctionRegistry) : List ToolDeclaration :=
  registry.functions.map FunctionDescriptor.declaration

/-- Whether a file in a directory of functions may provide some. -/
def isCandidate (tree : FileTree) (directory name : String) : Bool :=
  if name.startsWith "." || name.endsWith ".json" || name.endsWith ".backup" then false
  else
    match tree.lookup (Path.join directory name) with
    | .ok (.file file) => file.executable
    | _ => false

/-- The executables of a directory, in the order of their names; none where it is missing. -/
def candidatesIn (tree : FileTree) (directory : String) : Except FileError (List String) :=
  match tree.list directory with
  | .ok names =>
    .ok ((names.filter (isCandidate tree directory)).map (Path.join directory))
  | .error .notFound => .ok []
  | .error cause => .error cause

/-- The executables of all directories. -/
def candidates (tree : FileTree) (directories : List String) : Except FileError (List String) :=
  return (← directories.mapM (candidatesIn tree)).flatten

/-- What comes of asking an executable for its functions; none where it fails. -/
def descriptorsOf (path : String) : Except FileError ProgramOutcome → List FunctionDescriptor
  | .ok (.finished output) =>
    if output.status.isSuccess then
      (FunctionDescriptor.ofManifest? path output.output).getD []
    else []
  | _ => []

/-- Whether two paths are the same. -/
def samePath (a b : String) : Bool :=
  Path.parts a == Path.parts b

/-- What is kept about an executable that did not change. -/
def cached? (cache : List CachedManifest) (path : String) (modified : Int) :
    Option (List FunctionDescriptor) :=
  (cache.find? fun entry => samePath entry.path path && entry.modified == modified).map
    (·.descriptors)

/-- Keeps what an executable said, in place of what it said before. -/
def remember (cache : List CachedManifest) (entry : CachedManifest) : List CachedManifest :=
  entry :: cache.filter fun old => !samePath old.path entry.path

/-- The functions with those of further descriptors whose names are new. -/
def addNew (functions : List FunctionDescriptor) (further : List FunctionDescriptor) :
    List FunctionDescriptor :=
  further.foldl (fun known descriptor =>
    if known.any fun other => other.name == descriptor.name then known
    else known ++ [descriptor]) functions

/-- The registry with what an executable says, which is asked only if it changed; the functions
found so far go along. -/
def consult (run : ProgramRunner) (path : String) (registry : FunctionRegistry)
    (tree : FileTree) :
    Except FileError (List FunctionDescriptor) × FunctionRegistry × FileTree :=
  match tree.lookup path with
  | .error cause => (.error cause, registry, tree)
  | .ok .directory => (.ok [], registry, tree)
  | .ok (.file file) =>
    match cached? registry.cache path file.modified with
    | some descriptors => (.ok descriptors, registry, tree)
    | none =>
      let (outcome, tree) := run tree ⟨path, [listFlag], [], registry.limit⟩
      let descriptors := descriptorsOf path outcome
      (.ok descriptors,
        { registry with
          queries := registry.queries + 1
          cache := remember registry.cache ⟨path, file.modified, descriptors⟩ }, tree)

/-- Consults executables in order and collects their functions. -/
def consultAll (run : ProgramRunner) :
    List String → List FunctionDescriptor → FunctionRegistry → FileTree →
      Except FileError (List FunctionDescriptor) × FunctionRegistry × FileTree
  | [], found, registry, tree => (.ok found, registry, tree)
  | path :: rest, found, registry, tree =>
    match consult run path registry tree with
    | (.error cause, registry, tree) => (.error cause, registry, tree)
    | (.ok descriptors, registry, tree) =>
      consultAll run rest (addNew found descriptors) registry tree

/-- Looks for functions again.  After a failure the functions are those of before. -/
def refresh (run : ProgramRunner) (registry : FunctionRegistry) (tree : FileTree) :
    Except RunError Unit × FunctionRegistry × FileTree :=
  match candidates tree registry.directories with
  | .error cause => (.error (.file "" cause), registry, tree)
  | .ok paths =>
    match consultAll run paths [] registry tree with
    | (.error cause, registry, tree) => (.error (.file "" cause), registry, tree)
    | (.ok functions, registry, tree) =>
      let cache := registry.cache.filter fun entry => paths.any (samePath entry.path)
      (.ok (), { registry with functions, cache }, tree)

/-- Checks the arguments of a call by the function's schema. -/
def checkArguments (descriptor : FunctionDescriptor) (arguments : Json) : Except RunError Unit :=
  match Schema.validate descriptor.parameters arguments with
  | .error fault =>
    .error (.functionExecution descriptor.name ("invalid parameter schema: " ++ fault.message))
  | .ok [] => .ok ()
  | .ok problems =>
    .error (.functionExecution descriptor.name ("invalid arguments: "
      ++ Text.join "; " (problems.map Schema.Problem.message)))

/-- What a call of a function gives, from what came of its executable. -/
def answerOf (descriptor : FunctionDescriptor) (limit : Nat) :
    Except FileError ProgramOutcome → Except RunError String
  | .error cause =>
    .error (.functionExecution descriptor.name
      ("failed to start " ++ descriptor.executable ++ ": " ++ cause.message))
  | .ok .timedOut => .error (.functionTimeout descriptor.name limit)
  | .ok (.finished output) =>
    if output.status.isSuccess then .ok (Text.trim output.output)
    else
      let complaint := Text.trim output.errors
      .error (.functionExecution descriptor.name
        (if complaint.isEmpty then "exited with " ++ output.status.message else complaint))

/-- Calls a function with arguments, which its executable reads as JSON text. -/
def invoke (run : ProgramRunner) (registry : FunctionRegistry) (name : String) (arguments : Json)
    (tree : FileTree) : Except RunError String × FileTree :=
  match registry.get? name with
  | none => (.error (.functionNotFound name), tree)
  | some descriptor =>
    match checkArguments descriptor arguments with
    | .error error => (.error error, tree)
    | .ok () =>
      let (outcome, tree) :=
        run tree ⟨descriptor.executable, [name], Text.toBytes arguments.render, registry.limit⟩
      (answerOf descriptor registry.limit outcome, tree)

end FunctionRegistry

end PromptScript
