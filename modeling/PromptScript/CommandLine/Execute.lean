import PromptScript.Catalog
import PromptScript.CommandLine.Arguments
import PromptScript.Decimal.Shortest
import PromptScript.Engine.Basic
import PromptScript.Engine.Setup
import PromptScript.Functions.Registry
import PromptScript.Script.Program
import PromptScript.Session.Record

/-!
# Carrying out a command line

What a command line shows and changes, as a function of the files, the environment and the input.
Functions, models and sessions are shown in columns.
-/

namespace PromptScript.CommandLine

/-- A text with blanks behind it up to a width. -/
def padRight (width : Nat) (text : String) : String :=
  text ++ String.ofList (List.replicate (width - text.length) ' ')

/-- A text with blanks before it up to a width. -/
def padLeft (width : Nat) (text : String) : String :=
  String.ofList (List.replicate (width - text.length) ' ') ++ text

/-- The line of a function. -/
def functionLine (descriptor : FunctionDescriptor) : String :=
  padRight 24 descriptor.name ++ " " ++ descriptor.description ++ "  [" ++ descriptor.executable
    ++ "]"

/-- The price of a million tokens. -/
def priceText (price : Float) : String :=
  let perMillion := price * 1000000.0
  if perMillion.isNaN then "NaN"
  else if perMillion.isInf then if perMillion < 0.0 then "-inf" else "inf"
  else Decimal.renderFixed 2 perMillion

/-- A line of the list of models. -/
def modelColumns (name provider input output : String) : String :=
  padRight 32 name ++ " " ++ padRight 10 provider ++ " " ++ padLeft 12 input ++ " "
    ++ padLeft 12 output

/-- The line above the list of models. -/
def modelHeading : String :=
  modelColumns "model" "provider" "in $/1M" "out $/1M"

/-- The line of a model. -/
def modelLine (model : Model) : String :=
  modelColumns model.name model.provider (priceText model.inputPrice) (priceText model.outputPrice)

/-- The line of a session; a mark stands before one that failed. -/
def sessionLine (summary : SessionSummary) : String :=
  (if summary.status = .failed then "!" else " ") ++ summary.sessionId ++ "  "
    ++ summary.status.name ++ "  " ++ padLeft 3 (toString summary.messages) ++ " msgs  "
    ++ summary.updatedAt.renderMinute ++ "  " ++ summary.filename.getD ""

/-- What a command line meets. -/
structure Surroundings where
  tree : FileTree
  environment : List (String × String)
  /-- The bytes of the standard input. -/
  input : Text.Bytes
  /-- The identifier for a new session. -/
  sessionId : String
  runProgram : ProgramRunner

/-- What a command line leaves. -/
structure Ending where
  code : Nat
  output : List String
  errors : List String
  tree : FileTree

namespace Surroundings

/-- The path of the entry at a location. -/
def absolutePath (location : Location) : String :=
  "/" ++ "/".intercalate location

/-- The path of the working directory. -/
def workingPath (around : Surroundings) : String :=
  absolutePath around.tree.workingDirectory

/-- A command line that cannot be carried out. -/
def refuse (around : Surroundings) (reason : String) : Ending :=
  ⟨1, [], ["error: " ++ reason], around.tree⟩

/-- A command line that shows some lines. -/
def displayLines (around : Surroundings) (lines : List String) : Ending :=
  ⟨0, lines, [], around.tree⟩

/-- The settings in a file, or else those that hold in a directory. -/
def settings (around : Surroundings) (path : Option String) (directory : String) :
    Except ConfigError Config :=
  match path with
  | some path => Config.load around.tree path
  | none => Config.discover around.tree directory

/-- The world at the beginning of a run. -/
def world (around : Surroundings) (config : Config) : World :=
  { tree := around.tree, registry := .ofConfig config, replies := [], requests := []
    output := [], diagnostics := [] }

/-- Reads a script: its text and the directory of its file. -/
def readScript (around : Surroundings) (path : String) : Except String (String × String) :=
  match around.tree.readText path with
  | .error cause => .error ("could not read '" ++ path ++ "': " ++ cause.message)
  | .ok source =>
    let directory :=
      match around.tree.resolve path with
      | .ok location => absolutePath location.dropLast
      | .error _ => (Path.parent? path).getD "."
    .ok (source, directory)

/-- The program of a script. -/
def parseScript (path source : String) : Except String (List Statement) :=
  (Program.parse source).mapError fun _ => path ++ " has errors"

/-- Gives variables the values of assignments. -/
def assignAll (engine : Engine) : List String → Except String Engine
  | [] => .ok engine
  | assignment :: rest =>
    match Text.cutAt? '=' assignment.toList with
    | none => .error ("--set expects NAME=VALUE, got '" ++ assignment ++ "'")
    | some (name, value) =>
      let name := String.ofList name
      match engine.setVariable (Text.trim name) (Variables.valueOfText (String.ofList value)) with
      | .ok next => assignAll next rest
      | .error error => .error ("--set " ++ name ++ ": " ++ error.message)

/-- Runs an engine, stores the run where it is to be stored, and reports on it. -/
def finish (config : Config) (settings : Settings) (saves quiet : Bool) (engine : Engine)
    (world : World) : Ending :=
  let (result, engine, world) := engine.run settings world
  let output := if quiet then [] else world.output
  let failure : List String :=
    match result with
    | .ok _ => []
    | .error failure => ["error: " ++ failure.message]
  let code := if failure.isEmpty then 0 else 1
  if saves then
    let (saved, engine, tree) := engine.persist ⟨config.sessionPath⟩ world.tree
    match saved with
    | .error error =>
      ⟨1, output, world.diagnostics ++ ["error: could not save session: " ++ error.message], tree⟩
    | .ok _ =>
      let note := "session: " ++ engine.state.sessionId ++ " (" ++ engine.status.name ++ ")"
      ⟨code, output, world.diagnostics ++ note :: failure, tree⟩
  else ⟨code, output, world.diagnostics ++ failure, world.tree⟩

/-- Runs a script. -/
def runScript (around : Surroundings) (configPath : Option String) (script : String)
    (assignments : List String) (saves quiet : Bool) : Except String Ending := do
  let (source, directory) ← around.readScript script
  let statements ← parseScript script source
  let config ← (around.settings configPath directory).mapError ConfigError.message
  let settings := Settings.ofConfig config around.environment directory around.runProgram
  let fresh := Engine.new around.sessionId statements (.ofNanoseconds around.tree.clock)
  let named := fresh.withFilename ((Path.fileName? script).getD "")
  let engine ← assignAll named assignments
  return finish config settings saves quiet engine (around.world config)

/-- Reads a script without running it. -/
def checkScript (around : Surroundings) (script : String) : Except String Ending := do
  let (source, _) ← around.readScript script
  let statements ← parseScript script source
  return around.displayLines [script ++ ": " ++ toString statements.length ++ " statements"]

/-- The message of the user: the words, or else the standard input. -/
def messageText (around : Surroundings) (words : List String) : Except String String :=
  if words.isEmpty ∨ words = ["-"] then
    match Text.ofBytes? around.input with
    | some text => .ok text
    | none => .error ("could not read stdin: " ++ FileError.notText.message)
  else .ok (" ".intercalate words)

/-- Goes on with a stored run. -/
def continueSession (around : Surroundings) (configPath : Option String) (sessionId : String)
    (words : List String) : Except String Ending := do
  let text ← around.messageText words
  if Text.isBlankText text.toList then throw "reply message is empty"
  let config ← (around.settings configPath around.workingPath).mapError ConfigError.message
  let store : SessionStore := ⟨config.sessionPath⟩
  let record ← (store.load around.tree sessionId).mapError RunError.message
  let engine ←
    ((Engine.restore record).extend (Program.ofFollowUp text)).mapError RunError.message
  let settings := Settings.ofConfig config around.environment config.root around.runProgram
  return finish config settings true false engine (around.world config)

/-- Lists the functions that are found. -/
def listFunctions (around : Surroundings) (configPath : Option String) : Except String Ending := do
  let config ← (around.settings configPath around.workingPath).mapError ConfigError.message
  let (result, registry, tree) :=
    (FunctionRegistry.ofConfig config).refresh around.runProgram around.tree
  result.mapError RunError.message
  let notes :=
    if registry.functions.isEmpty then
      config.functionPaths.map fun path => "no functions found in " ++ path
    else []
  return ⟨0, registry.functions.map functionLine, notes, tree⟩

/-- Lists the known models. -/
def listModels (around : Surroundings) (configPath : Option String) : Except String Ending := do
  let config ← (around.settings configPath around.workingPath).mapError ConfigError.message
  return around.displayLines (modelHeading :: config.catalog.models.map modelLine)

/-- Lists the stored sessions. -/
def listSessions (around : Surroundings) (configPath : Option String) : Except String Ending := do
  let config ← (around.settings configPath around.workingPath).mapError ConfigError.message
  let summaries ←
    (SessionStore.list ⟨config.sessionPath⟩ around.tree).mapError RunError.message
  return around.displayLines (summaries.map sessionLine)

/-- Carries out a command. -/
def perform (around : Surroundings) (request : Request) : Except String Ending :=
  match request.command with
  | .run script assignments saves quiet =>
    around.runScript request.config script assignments saves quiet
  | .check script => around.checkScript script
  | .reply sessionId message => around.continueSession request.config sessionId message
  | .functions => around.listFunctions request.config
  | .models => around.listModels request.config
  | .sessions => around.listSessions request.config

end Surroundings

/-- How the program is used. -/
def usage : List String :=
  ["Usage: dotprompt [OPTIONS] <COMMAND>", "", "Commands:",
    "  run        Execute a script",
    "  check      Parse a script and report errors without running it",
    "  reply      Continue a saved session with a new user message",
    "  functions  List functions discovered in the configured directories",
    "  models     List known models and prices",
    "  sessions   List saved sessions", "", "Options:",
    "      --config <CONFIG>  Path to dotprompt.toml (default: search upward)",
    "  -v, --verbose...       More log output on stderr",
    "  -h, --help             Print help",
    "  -V, --version          Print version"]

/-- Carries out a command line. -/
def execute (around : Surroundings) (words : List String) : Ending :=
  match Reading.ofWords words with
  | .help => around.displayLines usage
  | .version => around.displayLines ["dotprompt 0.1.0"]
  | .misuse => ⟨2, [], usage, around.tree⟩
  | .request request =>
    match around.perform request with
    | .ok ending => ending
    | .error reason => around.refuse reason

end PromptScript.CommandLine
