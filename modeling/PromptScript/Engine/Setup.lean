import PromptScript.Backend.Registry
import PromptScript.Config
import PromptScript.Functions.Registry

/-!
# What a run works with

The settings of a run, which never change, and the world around it: the files, the known functions,
the replies that are still to come, and everything that was sent or shown.  The settings and the
functions come from a configuration and the environment.
-/

namespace PromptScript

/-- The settings of a run. -/
structure Settings where
  catalog : Catalog
  /-- The key of a provider. -/
  apiKey : String → Option String
  /-- The addresses of providers that have others than their own. -/
  baseUrls : List (String × String)
  /-- The number of times that a model may ask for functions before it has to answer. -/
  maxToolRounds : Nat
  /-- The directory where the paths of texts and images begin. -/
  contentBase : String
  /-- The directory where patterns of files to delete begin. -/
  workingBase : String
  runProgram : ProgramRunner

/-- The world around a run. -/
structure World where
  tree : FileTree
  registry : FunctionRegistry
  /-- The replies to the next requests. -/
  replies : List (Except RunError Json)
  /-- The requests sent, in order. -/
  requests : List WireRequest
  /-- The texts shown, in order. -/
  output : List String
  /-- The diagnostic texts, in order. -/
  diagnostics : List String

namespace World

/-- Sends a request and takes the next reply. -/
def send (world : World) (provider : String) (request : WireRequest) :
    Except RunError Json × World :=
  let sent := { world with requests := world.requests ++ [request] }
  match world.replies with
  | reply :: rest => (reply, { sent with replies := rest })
  | [] => (.error (.providerApi provider "no scripted response left"), sent)

/-- Shows a text. -/
def print (world : World) (text : String) : World :=
  { world with output := world.output ++ [text] }

/-- Gives out a diagnostic text. -/
def diagnose (world : World) (text : String) : World :=
  { world with diagnostics := world.diagnostics ++ [text] }

/-- Looks for functions again. -/
def refreshFunctions (world : World) (settings : Settings) : Except RunError Unit × World :=
  let (result, registry, tree) := world.registry.refresh settings.runProgram world.tree
  (result, { world with registry, tree })

/-- Calls a function. -/
def invoke (world : World) (settings : Settings) (name : String) (arguments : Json) :
    Except RunError String × World :=
  let (result, tree) := world.registry.invoke settings.runProgram name arguments world.tree
  (result, { world with tree })

end World

/-- The settings of a run whose relative paths begin at a directory. -/
def Settings.ofConfig (config : Config) (environment : List (String × String))
    (directory : String) (runProgram : ProgramRunner) : Settings :=
  { catalog := config.catalog
    apiKey := config.keyVariables.key? environment
    baseUrls := config.baseUrls
    maxToolRounds := config.maxToolRounds
    contentBase := directory
    workingBase := directory
    runProgram }

/-- The functions of a configuration, before they were looked for. -/
def FunctionRegistry.ofConfig (config : Config) : FunctionRegistry :=
  .empty config.functionPaths (config.functionTimeoutSeconds * 1000)

end PromptScript
