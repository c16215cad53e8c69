import PromptScript.Catalog
import PromptScript.Conversation.Message
import PromptScript.Json.Printer
import PromptScript.Json.Reader
import PromptScript.RunError
import PromptScript.Text.Basic

/-!
# Requests and replies

What all backends share: the functions and parameters that go into a request, the request as it
is sent, and what is read from a reply.
-/

namespace PromptScript

/-- A function that the model may call. -/
structure ToolDeclaration where
  name : String
  description : String
  parameters : Json
  deriving DecidableEq, Repr

/-- The settings of one request. -/
structure ModelParams where
  /-- The name of the model at its provider. -/
  model : String
  apiKey : Option String
  /-- The address to use instead of the backend's own. -/
  baseUrl : Option String
  temperature : Option Float
  maxTokens : Option Nat
  deriving DecidableEq, Repr

/-- A request as it is sent. -/
structure WireRequest where
  url : String
  headers : List (String × String)
  body : Json
  deriving DecidableEq, Repr

/-- What is read from a reply. -/
structure Completion where
  messages : List Message
  usage : TokenUsage
  costIn : Float
  costOut : Float
  deriving DecidableEq, Repr

/-- A reply's messages and usage at the prices of a model. -/
def Completion.priced (messages : List Message) (usage : TokenUsage) (model : Model) :
    Completion :=
  let (costIn, costOut) := model.cost usage
  ⟨messages, usage, costIn, costOut⟩

namespace Backend

/-- An image as a URL that holds its bytes. -/
def dataUrl (image : Image) : String :=
  "data:" ++ image.mediaType ++ ";base64," ++ image.data

/-- The address of a backend without slashes at its end. -/
def endpoint (params : ModelParams) (fallback : String) : String :=
  let chosen := params.baseUrl.getD fallback
  String.ofList (chosen.toList.reverse.dropWhile (· == '/')).reverse

/-- The key of a request. -/
def apiKey (params : ModelParams) (provider : String) : Except RunError String :=
  match params.apiKey with
  | some key => .ok key
  | none => .error (.providerAuth provider "no API key configured")

/-- The member of a request for a setting that may be missing. -/
def optionalMember (name : String) (value : Option Json) : List (String × Json) :=
  match value with
  | some present => [(name, present)]
  | none => []

/-- The error that a block cannot stand in a message of the given role. -/
def notAllowed (provider : String) (block : Block) (role : Role) : RunError :=
  .conversion provider
    (block.kindName ++ " content is not allowed in a " ++ role.name ++ " message")

/-- The text of a function's result where a backend has no mark for failed ones. -/
def resultText (result : CallResult) : String :=
  if result.isError then "Error: " ++ result.content else result.content

/-- A count of tokens; zero where it is missing. -/
def tokenCount (usage : Option Json) (name : String) : UInt64 :=
  UInt64.ofNat ((usage.bind fun value => (value.member? name).bind Json.asNat?).getD 0)

/-- The message of the error that a reply reports. -/
def errorMessage? (body : Json) : Option String :=
  (body.member? "error").map fun error =>
    ((error.member? "message").bind Json.asString?).getD error.render

/-- The first item of an array member. -/
def firstItem? (name : String) (value : Json) : Option Json :=
  ((value.member? name).bind Json.asArray?).bind List.head?

/-- The text of a string member. -/
def textMember? (name : String) (value : Json) : Option String :=
  (value.member? name).bind Json.asString?

/-- The arguments of a call where they are sent as a JSON text; blank text stands for none. -/
def decodeArguments (provider : String) : Option Json → Except RunError Json
  | none | some .null => .ok (.object [])
  | some (.string text) =>
    if Text.isBlankText text.toList then .ok (.object [])
    else
      match Json.parse text with
      | .ok value => .ok value
      | .error error =>
        .error (.conversion provider ("function arguments are not JSON: " ++ error.message))
  | some other => .ok other

/-- The declarations of functions in the form of chat completions. -/
def functionTools (tools : List ToolDeclaration) : Json :=
  .array (tools.map fun tool =>
    .object [("function", .object [("description", .string tool.description),
      ("name", .string tool.name), ("parameters", tool.parameters)]),
      ("type", .string "function")])

/-- The call in the form of chat completions, which send its arguments as text. -/
def functionCall (call : Call) : Json :=
  .object [("function", .object [("arguments", .string call.arguments.render),
    ("name", .string call.name)]), ("id", .string call.id), ("type", .string "function")]

end Backend

end PromptScript
