import PromptScript.Json.Basic
import PromptScript.RunError

/-!
# The model catalog

The language models that a script can name, each with the provider that serves it, the name it
has there, its prices per token and the size of its context.
-/

namespace PromptScript

/-- The tokens that a request took and its reply gave. -/
structure TokenUsage where
  tokensIn : UInt64
  tokensOut : UInt64
  deriving DecidableEq, Repr

/-- A language model. -/
structure Model where
  name : String
  provider : String
  /-- The name of the model at its provider. -/
  wireName : String
  /-- The price of one token of a request. -/
  inputPrice : Float
  /-- The price of one token of a reply. -/
  outputPrice : Float
  context : Option Nat
  deriving DecidableEq, Repr

namespace Model

/-- A model that has the same name at its provider. -/
def of (name provider : String) (inputPrice outputPrice : Float) (context : Nat) : Model :=
  ⟨name, provider, name, inputPrice, outputPrice, some context⟩

/-- The prices of a request and of its reply. -/
def cost (model : Model) (usage : TokenUsage) : Float × Float :=
  (usage.tokensIn.toFloat * model.inputPrice, usage.tokensOut.toFloat * model.outputPrice)

end Model

/-- The known models in the order of their names. -/
structure Catalog where
  models : List Model
  deriving DecidableEq, Repr

namespace Catalog

/-- Puts a model into a list in the order of names; one of the same name is replaced. -/
def insertSorted (model : Model) : List Model → List Model
  | [] => [model]
  | other :: rest =>
    if model.name < other.name then model :: other :: rest
    else if model.name = other.name then model :: rest
    else other :: insertSorted model rest

/-- Adds a model; one of the same name is replaced. -/
def insert (catalog : Catalog) (model : Model) : Catalog :=
  ⟨insertSorted model catalog.models⟩

/-- The catalog of the given models. -/
def ofList (models : List Model) : Catalog :=
  models.foldl insert ⟨[]⟩

/-- The models that are known without a configuration. -/
def builtin : Catalog :=
  ofList
    [.of "gpt-4o" "OpenAI" 0.0000025 0.00001 128000,
      .of "gpt-4o-mini" "OpenAI" 0.00000015 0.0000006 128000,
      .of "gpt-4.1" "OpenAI" 0.000002 0.000008 1047576,
      .of "o3-mini" "OpenAI" 0.0000011 0.0000044 200000,
      .of "claude-sonnet-4-20250514" "Anthropic" 0.000003 0.000015 200000,
      .of "claude-3-5-haiku-20241022" "Anthropic" 0.0000008 0.000004 200000,
      .of "gemini-2.0-flash" "Google" 0.0000001 0.0000004 1048576,
      .of "gemini-2.5-pro" "Google" 0.00000125 0.00001 1048576,
      .of "mistral-large-latest" "MistralAI" 0.000002 0.000006 131072,
      .of "mistral-small-latest" "MistralAI" 0.0000002 0.0000006 32768,
      .of "grok-3" "XAI" 0.000003 0.000015 131072,
      .of "deepseek-chat" "DeepSeek" 0.00000027 0.0000011 64000]

/-- The model with the given name. -/
def get? (catalog : Catalog) (name : String) : Option Model :=
  catalog.models.find? fun model => model.name == name

/-- The model with the given name, or the error that there is none. -/
def get (catalog : Catalog) (name : String) : Except RunError Model :=
  match catalog.get? name with
  | some model => .ok model
  | none => .error (.modelNotFound ("unknown model '" ++ name ++ "'"))

end Catalog

end PromptScript
