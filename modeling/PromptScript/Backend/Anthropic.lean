import PromptScript.Backend.Basic

/-!
# The messages API of Anthropic

System texts are lifted out of the conversation and joined with line feeds, function results are
blocks of a user turn, and every request limits the length of its reply.
-/

namespace PromptScript.Backend.Anthropic

/-- The name of the provider. -/
def provider : String := "Anthropic"

/-- The address of the provider. -/
def address : String := "https://api.anthropic.com"

/-- The version of the API. -/
def version : String := "2023-06-01"

/-- The limit of a reply where none is set. -/
def defaultMaxTokens : Nat := 4096

/-- The text of a block in a system message. -/
def systemText (block : Block) : Except RunError String :=
  match block with
  | .text body => .ok body
  | _ => .error (notAllowed provider block .system)

/-- Appends a text to the system text, behind a line feed unless it is the first that is not
empty. -/
def appendSystem (collected text : String) : String :=
  if collected.isEmpty then text else collected ++ "\n" ++ text

/-- The form of a block in a message that is no system message. -/
def encodeBlock (role : Role) (block : Block) : Except RunError Json :=
  match role, block with
  | .user, .text body | .assistant, .text body =>
    .ok (.object [("text", .string body), ("type", .string "text")])
  | .user, .image picture =>
    .ok (.object [("source", .object [("data", .string picture.data),
      ("media_type", .string picture.mediaType), ("type", .string "base64")]),
      ("type", .string "image")])
  | .assistant, .call request =>
    .ok (.object [("id", .string request.id), ("input", request.arguments),
      ("name", .string request.name), ("type", .string "tool_use")])
  | .tool, .result answer =>
    .ok (.object ([("content", .string answer.content)]
      ++ (if answer.isError then [("is_error", .bool true)] else [])
      ++ [("tool_use_id", .string answer.id), ("type", .string "tool_result")]))
  | _, _ => .error (notAllowed provider block role)

/-- The role of a message that is no system message. -/
def wireRole : Role → String
  | .assistant => "assistant"
  | _ => "user"

/-- What a message adds to a request: system texts or one turn. -/
inductive Turn where
  | system (texts : List String)
  | turn (message : Json)

/-- The turn of a message. -/
def encodeMessage (message : Message) : Except RunError Turn :=
  if message.role = .system then (message.content.mapM systemText).map .system
  else
    (message.content.mapM (encodeBlock message.role)).map fun content =>
      .turn (.object [("content", .array content), ("role", .string (wireRole message.role))])

/-- The system texts of a turn. -/
def Turn.texts : Turn → List String
  | .system texts => texts
  | .turn _ => []

/-- The message of a turn that is one. -/
def Turn.message? : Turn → Option Json
  | .system _ => none
  | .turn message => some message

/-- The body of a request. -/
def requestBody (conversation : Conversation) (tools : List ToolDeclaration)
    (params : ModelParams) : Except RunError Json := do
  let turns ← conversation.mapM encodeMessage
  let system := (turns.flatMap Turn.texts).foldl appendSystem ""
  return .object
    ([("max_tokens", .ofNat (params.maxTokens.getD defaultMaxTokens)),
      ("messages", .array (turns.filterMap Turn.message?)), ("model", .string params.model)]
      ++ (if system.isEmpty then [] else [("system", .string system)])
      ++ optionalMember "temperature" (params.temperature.map .ofFloat)
      ++ if tools.isEmpty then []
        else [("tools", .array (tools.map fun tool =>
          .object [("description", .string tool.description), ("input_schema", tool.parameters),
            ("name", .string tool.name)]))])

/-- A request. -/
def encode (conversation : Conversation) (tools : List ToolDeclaration)
    (params : ModelParams) : Except RunError WireRequest := do
  let body ← requestBody conversation tools params
  let key ← apiKey params provider
  return ⟨endpoint params address ++ "/v1/messages",
    [("x-api-key", key), ("anthropic-version", version), ("content-type", "application/json")],
    body⟩

/-- The block of an entry of a reply's content. -/
def decodeBlock (block : Json) : Except RunError Block :=
  match (textMember? "type" block).getD "" with
  | "text" => .ok (.text ((textMember? "text" block).getD ""))
  | "tool_use" =>
    match textMember? "name" block with
    | none => .error (.conversion provider "tool_use without a name")
    | some name =>
      .ok (.call ⟨(textMember? "id" block).getD "", name,
        (block.member? "input").getD (.object [])⟩)
  | other =>
    .error (.conversion provider ("unsupported response block type '" ++ other ++ "'"))

/-- The assistant message and the usage of a reply. -/
def parseReply (body : Json) : Except RunError (Message × TokenUsage) := do
  if textMember? "type" body = some "error" then
    throw (.providerApi provider ((errorMessage? body).getD body.render))
  match (body.member? "content").bind Json.asArray? with
  | none => throw (.providerApi provider "no content in response")
  | some blocks =>
    let content ← blocks.mapM decodeBlock
    let usage := body.member? "usage"
    return (⟨.assistant, content⟩,
      ⟨tokenCount usage "input_tokens", tokenCount usage "output_tokens"⟩)

end PromptScript.Backend.Anthropic
