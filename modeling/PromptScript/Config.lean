import PromptScript.Toml.Reader
import PromptScript.Catalog
import PromptScript.Credentials
import PromptScript.Files.Tree
import PromptScript.Text.Basic

/-!
# Configuration

The settings of a project: where functions and sessions are kept, limits, and what is known of
providers and models.  Every section may be missing, and no section takes members that it does
not know.  A section may also be written as an array of its values in order.
-/

namespace PromptScript

/-- What is known of a provider. -/
structure ProviderSettings where
  /-- The variable of the environment that holds the key. -/
  apiKeyVariable : Option String
  baseUrl : Option String
  deriving DecidableEq, Repr

/-- What is known of a model; prices are per token. -/
structure ModelSettings where
  provider : String
  wireName : Option String
  inputPrice : Float
  outputPrice : Float
  context : Option Nat
  deriving DecidableEq, Repr

/-- The settings of a project. -/
structure Config where
  functionDirectories : List String
  functionTimeoutSeconds : Nat
  sessionDirectory : String
  maxToolRounds : Nat
  requestTimeoutSeconds : Nat
  /-- The providers in the order of their names. -/
  providers : List (String × ProviderSettings)
  /-- The models in the order of their names. -/
  models : List (String × ModelSettings)
  /-- The directory from which relative paths are seen. -/
  root : String
  deriving DecidableEq, Repr

/-- Why a configuration cannot be used. -/
inductive ConfigError where
  | unreadable (cause : FileError)
  /-- The text is no TOML, or a setting has another type than it should. -/
  | malformed
  | zeroTimeout
  | missingProvider (model : String)
  | negativePrice (model : String)
  deriving DecidableEq, Repr

namespace Config

/-- The name of the file with the settings of a project. -/
def fileName : String := "dotprompt.toml"

end Config

/-- The wording of a configuration error. -/
def ConfigError.message : ConfigError → String
  | unreadable cause => "failed to read " ++ Config.fileName ++ ": " ++ cause.message
  | malformed => "invalid " ++ Config.fileName
  | zeroTimeout =>
    "invalid " ++ Config.fileName ++ ": [functions] timeout_secs must be greater than zero"
  | missingProvider model =>
    "invalid " ++ Config.fileName ++ ": [models.\"" ++ model ++ "\"] has an empty provider"
  | negativePrice model =>
    "invalid " ++ Config.fileName ++ ": [models.\"" ++ model ++ "\"] has a negative price"

namespace Config

/-- The settings that hold without a configuration. -/
def defaults (root : String) : Config :=
  { functionDirectories := ["prompts/functions"]
    functionTimeoutSeconds := 30
    sessionDirectory := "prompts/sessions"
    maxToolRounds := 10
    requestTimeoutSeconds := 120
    providers := []
    models := []
    root }

/-! ## Reading -/

/-- The values of a section's fields: by name, or by position in an array.  A name that is no
field is refused. -/
def fields? (names : List String) : Toml.Value → Option (List (Option Toml.Value))
  | .table members =>
    if members.all fun entry => names.contains entry.1 then
      some (names.map fun name => members.lookup name)
    else none
  | .array items => some ((List.range names.length).map fun i => items[i]?)
  | _ => none

/-- The text of a string. -/
def text? : Toml.Value → Option String
  | .string value => some value
  | _ => none

/-- The texts of an array of strings. -/
def texts? : Toml.Value → Option (List String)
  | .array items => items.mapM text?
  | _ => none

/-- A whole number that is not negative and has at most the given number of bits. -/
def nat? (bits : Nat) : Toml.Value → Option Nat
  | .integer (.ofNat value) => if value < Nat.pow 2 bits then some value else none
  | _ => none

/-- A number. -/
def float? : Toml.Value → Option Float
  | .integer value => some (Float.ofInt value)
  | .float value => some value
  | _ => none

/-- The value of a field, or the default where it is missing. -/
def fieldOr {α : Type} (read : Toml.Value → Option α) (default : α) :
    Option Toml.Value → Option α
  | none => some default
  | some value => read value

/-- The value of a field that may be missing. -/
def optionalField {α : Type} (read : Toml.Value → Option α) :
    Option Toml.Value → Option (Option α)
  | none => some none
  | some value => (read value).map some

/-- Reads the section of functions. -/
def readFunctions? (config : Config) (value : Toml.Value) : Option Config := do
  match ← fields? ["dirs", "timeout_secs"] value with
  | [directories, timeout] =>
    return { config with
      functionDirectories := ← fieldOr texts? config.functionDirectories directories
      functionTimeoutSeconds := ← fieldOr (nat? 64) config.functionTimeoutSeconds timeout }
  | _ => none

/-- Reads the section of sessions. -/
def readSessions? (config : Config) (value : Toml.Value) : Option Config := do
  match ← fields? ["dir"] value with
  | [directory] =>
    return { config with
      sessionDirectory := ← fieldOr text? config.sessionDirectory directory }
  | _ => none

/-- Reads the section of limits. -/
def readLimits? (config : Config) (value : Toml.Value) : Option Config := do
  match ← fields? ["max_tool_rounds", "request_timeout_secs"] value with
  | [rounds, timeout] =>
    return { config with
      maxToolRounds := ← fieldOr (nat? 32) config.maxToolRounds rounds
      requestTimeoutSeconds := ← fieldOr (nat? 64) config.requestTimeoutSeconds timeout }
  | _ => none

/-- Reads what is known of a provider. -/
def readProvider? (value : Toml.Value) : Option ProviderSettings := do
  match ← fields? ["api_key_env", "base_url"] value with
  | [keyName, baseUrl] =>
    return ⟨← optionalField text? keyName, ← optionalField text? baseUrl⟩
  | _ => none

/-- Reads what is known of a model. -/
def readModel? (value : Toml.Value) : Option ModelSettings := do
  match ← fields? ["provider", "wire_name", "input", "output", "context"] value with
  | [some provider, wireName, input, output, context] =>
    return ⟨← text? provider, ← optionalField text? wireName, ← fieldOr float? 0.0 input,
      ← fieldOr float? 0.0 output, ← optionalField (nat? 64) context⟩
  | _ => none

/-- Reads a section with a member for each of several names, in the order of the names. -/
def readNamed? {α : Type} (read : Toml.Value → Option α) :
    Toml.Value → Option (List (String × α))
  | .table members => do
    let sorted := members.mergeSort fun a b => !(b.1 < a.1)
    sorted.mapM fun (name, value) => return (name, ← read value)
  | _ => none

/-- Reads a section, where there is one. -/
def readSection? (members : List (String × Toml.Value)) (name : String)
    (read : Config → Toml.Value → Option Config) (config : Config) : Option Config :=
  match members.lookup name with
  | none => some config
  | some value => read config value

/-- The names of the sections. -/
def sectionNames : List String :=
  ["functions", "sessions", "limits", "providers", "models"]

/-- Reads the sections of a document. -/
def ofMembers? (root : String) (members : List (String × Toml.Value)) : Option Config := do
  if !(members.all fun entry => sectionNames.contains entry.1) then none
  let functions ← readSection? members "functions" readFunctions? (defaults root)
  let sessions ← readSection? members "sessions" readSessions? functions
  let limits ← readSection? members "limits" readLimits? sessions
  let providers ← readSection? members "providers"
    (fun config value => (readNamed? readProvider? value).map fun providers =>
      { config with providers }) limits
  readSection? members "models"
    (fun config value => (readNamed? readModel? value).map fun models =>
      { config with models }) providers

/-- Checks what is known of a model. -/
def checkModel (name : String) (model : ModelSettings) : Except ConfigError Unit :=
  if Text.isBlankText model.provider.toList then .error (.missingProvider name)
  else if model.inputPrice < 0.0 || model.outputPrice < 0.0 then .error (.negativePrice name)
  else .ok ()

/-- The settings that a text writes. -/
def parse (root text : String) : Except ConfigError Config := do
  match (Toml.parse? text).bind (ofMembers? root) with
  | none => throw .malformed
  | some config =>
    if config.functionTimeoutSeconds = 0 then throw .zeroTimeout
    config.models.forM fun (name, model) => checkModel name model
    return config

/-! ## Use -/

/-- The directories of functions as seen from where the root is seen. -/
def functionPaths (config : Config) : List String :=
  config.functionDirectories.map (Path.join config.root)

/-- The directory of sessions as seen from where the root is seen. -/
def sessionPath (config : Config) : String :=
  Path.join config.root config.sessionDirectory

/-- The known models with those of the configuration. -/
def catalog (config : Config) : Catalog :=
  config.models.foldl (fun catalog (name, model) =>
    catalog.insert ⟨name, model.provider, model.wireName.getD name, model.inputPrice,
      model.outputPrice, model.context⟩) Catalog.builtin

/-- The variables of the environment that hold keys. -/
def keyVariables (config : Config) : KeyVariables :=
  ⟨config.providers.filterMap fun (name, provider) =>
    provider.apiKeyVariable.map fun key => (name, key)⟩

/-- The addresses that the configuration gives to providers. -/
def baseUrls (config : Config) : List (String × String) :=
  config.providers.filterMap fun (name, provider) =>
    provider.baseUrl.map fun url => (name, url)

/-! ## Finding -/

/-- The nearest file of settings in a directory and those above it. -/
def findFrom (tree : FileTree) : Nat → String → Option String
  | 0, _ => none
  | fuel + 1, directory =>
    let candidate := Path.join directory fileName
    if tree.isFile candidate then some candidate
    else (Path.parent? directory).bind (findFrom tree fuel)

/-- The nearest file of settings in a directory and those above it. -/
def find? (tree : FileTree) (directory : String) : Option String :=
  findFrom tree ((Path.pieces directory).length + 2) directory

/-- The settings in a file. -/
def load (tree : FileTree) (path : String) : Except ConfigError Config :=
  match tree.readText path with
  | .ok text => parse ((Path.parent? path).getD ".") text
  | .error cause => .error (.unreadable cause)

/-- The settings that hold in a directory. -/
def discover (tree : FileTree) (directory : String) : Except ConfigError Config :=
  match find? tree directory with
  | some path => load tree path
  | none => .ok (defaults directory)

end Config

end PromptScript
