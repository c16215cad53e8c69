import PromptScript.Backend.OpenAi
import PromptScript.Backend.Mistral
import PromptScript.Backend.Anthropic
import PromptScript.Backend.Google

/-!
# Backends

A backend turns conversations into the requests and replies of one provider.
-/

namespace PromptScript

/-- A provider's format of requests and replies. -/
inductive Backend where
  | openAi (service : Backend.OpenAi.Service)
  | anthropic
  | google
  | mistral
  deriving DecidableEq, Repr

namespace Backend

/-- The name of the provider. -/
def name : Backend → String
  | openAi service => service.name
  | anthropic => Anthropic.provider
  | google => Google.provider
  | mistral => Mistral.provider

/-- The body of a request. -/
def requestBody (backend : Backend) (conversation : Conversation)
    (tools : List ToolDeclaration) (params : ModelParams) : Except RunError Json :=
  match backend with
  | openAi service => OpenAi.requestBody service.name conversation tools params
  | anthropic => Anthropic.requestBody conversation tools params
  | google => Google.requestBody conversation tools params
  | mistral => Mistral.requestBody conversation tools params

/-- The request that asks for the next message of a conversation. -/
def encode (backend : Backend) (conversation : Conversation) (tools : List ToolDeclaration)
    (params : ModelParams) : Except RunError WireRequest :=
  match backend with
  | openAi service => OpenAi.encode service conversation tools params
  | anthropic => Anthropic.encode conversation tools params
  | google => Google.encode conversation tools params
  | mistral => Mistral.encode conversation tools params

/-- The assistant message and the usage of a reply.  A call that came without an identifier has
the empty one. -/
def parseReply (backend : Backend) (body : Json) : Except RunError (Message × TokenUsage) :=
  match backend with
  | openAi service => OpenAi.parseReply service.name body
  | anthropic => Anthropic.parseReply body
  | google => Google.parseReply body
  | mistral => Mistral.parseReply body

/-- What a reply gives at the prices of a model. -/
def decode (backend : Backend) (body : Json) (model : Model) : Except RunError Completion :=
  (backend.parseReply body).map fun (message, usage) => .priced [message] usage model

/-- The backends that are always there, in the order of their names. -/
def builtin : List Backend :=
  [anthropic, openAi ⟨"DeepSeek", "https://api.deepseek.com"⟩, google, mistral,
    openAi OpenAi.openAi, openAi ⟨"XAI", "https://api.x.ai"⟩]

/-- The backend of a provider. -/
def ofProvider (provider : String) : Except RunError Backend :=
  match builtin.find? fun backend => backend.name == provider with
  | some backend => .ok backend
  | none => .error (.modelNotFound ("no adapter for provider '" ++ provider ++ "'"))

end Backend

end PromptScript
