import PromptScript.Backend.Basic
import PromptScript.Text.Property

/-!
# Chat completions

The backend of OpenAI and of the services that take the same requests at another address.
Content of one text is sent as a string, other content as an array of parts, and no content as
null; function results are messages of their own.
-/

namespace PromptScript.Backend.OpenAi

/-- A service that takes chat completions. -/
structure Service where
  name : String
  /-- The address of the service. -/
  address : String
  deriving DecidableEq, Repr

/-- The service that defined the format. -/
def openAi : Service := ⟨"OpenAI", "https://api.openai.com"⟩

/-- What a block becomes in a message: a part of its content or one of its calls. -/
inductive Piece where
  | text (text : String)
  | image (image : Image)
  | call (call : Call)

/-- The piece of a block in a message that is not a tool message. -/
def pieceOf (provider : String) (role : Role) (block : Block) : Except RunError Piece :=
  match block with
  | .text body => .ok (.text body)
  | .image picture =>
    if role = .user then .ok (.image picture) else .error (notAllowed provider block role)
  | .call request =>
    if role = .assistant then .ok (.call request) else .error (notAllowed provider block role)
  | .result _ => .error (notAllowed provider block role)

/-- The part of a piece that is no call. -/
def Piece.part? : Piece → Option Json
  | .text body => some (.object [("text", .string body), ("type", .string "text")])
  | .image picture =>
    some (.object [("image_url", .object [("url", .string (dataUrl picture))]),
      ("type", .string "image_url")])
  | .call _ => none

/-- The call of a piece that is one. -/
def Piece.call? : Piece → Option Json
  | .call request => some (functionCall request)
  | _ => none

/-- The content of a message: null, the only text, or all parts. -/
def contentOf (pieces : List Piece) : Json :=
  match pieces.filterMap Piece.part? with
  | [] => .null
  | [part] => (textMember? "text" part).elim (.array [part]) .string
  | parts => .array parts

/-- A message that is not a tool message. -/
def chatMessage (provider : String) (message : Message) : Except RunError Json := do
  let pieces ← message.content.mapM (pieceOf provider message.role)
  let calls := pieces.filterMap Piece.call?
  return .object ([("content", contentOf pieces), ("role", .string message.role.name)]
    ++ if calls.isEmpty then [] else [("tool_calls", .array calls)])

/-- The message of one function result. -/
def toolMessage (provider : String) (block : Block) : Except RunError Json :=
  match block with
  | .result answer =>
    .ok (.object [("content", .string (resultText answer)), ("role", .string "tool"),
      ("tool_call_id", .string answer.id)])
  | _ => .error (notAllowed provider block .tool)

/-- The messages that a message becomes. -/
def encodeMessage (provider : String) (message : Message) : Except RunError (List Json) :=
  if message.role = .tool then message.content.mapM (toolMessage provider)
  else (chatMessage provider message).map fun encoded => [encoded]

/-- The body of a request. -/
def requestBody (provider : String) (conversation : Conversation)
    (tools : List ToolDeclaration) (params : ModelParams) : Except RunError Json := do
  let messages ← conversation.mapM (encodeMessage provider)
  return .object
    (optionalMember "max_tokens" (params.maxTokens.map .ofNat)
      ++ [("messages", .array messages.flatten), ("model", .string params.model)]
      ++ optionalMember "temperature" (params.temperature.map .ofFloat)
      ++ if tools.isEmpty then [] else [("tools", functionTools tools)])

/-- A request to a service. -/
def encode (service : Service) (conversation : Conversation) (tools : List ToolDeclaration)
    (params : ModelParams) : Except RunError WireRequest := do
  let body ← requestBody service.name conversation tools params
  let key ← apiKey params service.name
  return ⟨endpoint params service.address ++ "/v1/chat/completions",
    [("Authorization", "Bearer " ++ key), ("Content-Type", "application/json")], body⟩

/-- The type of a content part as it is shown in an error. -/
def shownType (kind : Option String) : String :=
  match kind with
  | some name => "Some(" ++ Text.quote name ++ ")"
  | none => "None"

/-- The error for a content part of a type that is not known. -/
def unsupportedPart (provider : String) (kind : Option String) : RunError :=
  .conversion provider ("unsupported response content part " ++ shownType kind)

/-- The text block of a content part. -/
def decodePart (provider : String) (part : Json) : Except RunError Block :=
  match textMember? "type" part, textMember? "text" part with
  | some "text", some text => .ok (.text text)
  | kind, _ => .error (unsupportedPart provider kind)

/-- The blocks of a reply's content. -/
def decodeContent (provider : String) : Option Json → Except RunError (List Block)
  | none | some .null => .ok []
  | some (.string text) => .ok (if text.isEmpty then [] else [.text text])
  | some (.array parts) => parts.mapM (decodePart provider)
  | some other => .error (.conversion provider ("unexpected content value " ++ other.render))

/-- The call block of an entry of a reply's calls. -/
def decodeCall (provider : String) (call : Json) : Except RunError Block := do
  let kind := (textMember? "type" call).getD "function"
  if kind ≠ "function" then
    throw (.conversion provider ("unsupported tool call type '" ++ kind ++ "'"))
  let function := call.member? "function"
  match function.bind (textMember? "name") with
  | none => throw (.conversion provider "tool call without a name")
  | some name =>
    let arguments ← decodeArguments provider (function.bind (Json.member? "arguments"))
    return .call ⟨(textMember? "id" call).getD "", name, arguments⟩

/-- The message of a reply. -/
def replyMessage (provider : String) (body : Json) : Except RunError Json :=
  match errorMessage? body with
  | some message => .error (.providerApi provider message)
  | none =>
    match (firstItem? "choices" body).bind (Json.member? "message") with
    | some message => .ok message
    | none => .error (.providerApi provider "no choices in response")

/-- The tokens that a reply reports. -/
def usageOf (body : Json) : TokenUsage :=
  let usage := body.member? "usage"
  ⟨tokenCount usage "prompt_tokens", tokenCount usage "completion_tokens"⟩

/-- The assistant message and the usage of a reply. -/
def parseReply (provider : String) (body : Json) : Except RunError (Message × TokenUsage) := do
  let message ← replyMessage provider body
  let content ← decodeContent provider (message.member? "content")
  let spoken :=
    if content.isEmpty then ((textMember? "refusal" message).map Block.text).toList else content
  let calls ← (((message.member? "tool_calls").bind Json.asArray?).getD []).mapM
    (decodeCall provider)
  return (⟨.assistant, spoken ++ calls⟩, usageOf body)

end PromptScript.Backend.OpenAi
