import PromptScript.Backend.OpenAi

/-!
# Chat completions of Mistral

A variant of chat completions: content is always an array of parts, an image is a bare URL, and
a function result names its function.
-/

namespace PromptScript.Backend.Mistral

open OpenAi (Piece pieceOf replyMessage usageOf unsupportedPart)

/-- The name of the provider. -/
def provider : String := "MistralAI"

/-- The address of the provider. -/
def address : String := "https://api.mistral.ai"

/-- The part of a piece that is no call. -/
def partOf? : Piece → Option Json
  | .text body => some (.object [("text", .string body), ("type", .string "text")])
  | .image picture =>
    some (.object [("image_url", .string (dataUrl picture)), ("type", .string "image_url")])
  | .call _ => none

/-- A message that is not a tool message. -/
def chatMessage (message : Message) : Except RunError Json := do
  let pieces ← message.content.mapM (pieceOf provider message.role)
  let calls := pieces.filterMap Piece.call?
  return .object ([("content", .array (pieces.filterMap partOf?)),
      ("role", .string message.role.name)]
    ++ if calls.isEmpty then [] else [("tool_calls", .array calls)])

/-- The message of one function result. -/
def toolMessage (block : Block) : Except RunError Json :=
  match block with
  | .result answer =>
    .ok (.object [("content", .string (resultText answer)), ("name", .string answer.name),
      ("role", .string "tool"), ("tool_call_id", .string answer.id)])
  | _ => .error (notAllowed provider block .tool)

/-- The messages that a message becomes. -/
def encodeMessage (message : Message) : Except RunError (List Json) :=
  if message.role = .tool then message.content.mapM toolMessage
  else (chatMessage message).map fun encoded => [encoded]

/-- The body of a request. -/
def requestBody (conversation : Conversation) (tools : List ToolDeclaration)
    (params : ModelParams) : Except RunError Json := do
  let messages ← conversation.mapM encodeMessage
  return .object
    (optionalMember "max_tokens" (params.maxTokens.map .ofNat)
      ++ [("messages", .array messages.flatten), ("model", .string params.model)]
      ++ optionalMember "temperature" (params.temperature.map .ofFloat)
      ++ if tools.isEmpty then []
        else [("tool_choice", .string "auto"), ("tools", functionTools tools)])

/-- A request. -/
def encode (conversation : Conversation) (tools : List ToolDeclaration)
    (params : ModelParams) : Except RunError WireRequest := do
  let body ← requestBody conversation tools params
  let key ← apiKey params provider
  return ⟨endpoint params address ++ "/v1/chat/completions",
    [("Authorization", "Bearer " ++ key), ("Content-Type", "application/json"),
      ("Accept", "application/json")], body⟩

/-- The text block of a content part; a part without text has the empty text. -/
def decodePart (part : Json) : Except RunError Block :=
  match textMember? "type" part with
  | some "text" => .ok (.text ((textMember? "text" part).getD ""))
  | kind => .error (unsupportedPart provider kind)

/-- The blocks of a reply's content. -/
def decodeContent : Option Json → Except RunError (List Block)
  | none | some .null => .ok []
  | some (.string text) => .ok (if text.isEmpty then [] else [.text text])
  | some (.array parts) => parts.mapM decodePart
  | some other => .error (.conversion provider ("unexpected content value " ++ other.render))

/-- The call block of an entry of a reply's calls. -/
def decodeCall (call : Json) : Except RunError Block := do
  let function := call.member? "function"
  match function.bind (textMember? "name") with
  | none => throw (.conversion provider "tool call without a name")
  | some name =>
    let arguments ← decodeArguments provider (function.bind (Json.member? "arguments"))
    return .call ⟨(textMember? "id" call).getD "", name, arguments⟩

/-- The assistant message and the usage of a reply. -/
def parseReply (body : Json) : Except RunError (Message × TokenUsage) := do
  let message ← replyMessage provider body
  let content ← decodeContent (message.member? "content")
  let calls ← (((message.member? "tool_calls").bind Json.asArray?).getD []).mapM decodeCall
  return (⟨.assistant, content ++ calls⟩, usageOf body)

end PromptScript.Backend.Mistral
