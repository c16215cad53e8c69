import PromptScript.Backend.Basic
import PromptScript.Json.Basic

/-!
# The content API of Google

System texts become parts of an instruction, an assistant is called a model, and the schemas of
functions go without `additionalProperties`, at any depth.  Calls may come without an identifier.
-/

namespace PromptScript.Json

mutual

/-- The value without the members of the given name in any of its objects. -/
def without (name : String) : Json → Json
  | .array items => .array (withoutItems name items)
  | .object members => .object (withoutMembers name members)
  | .null => .null
  | .bool value => .bool value
  | .number value => .number value
  | .string value => .string value

/-- `without` on the items of an array. -/
def withoutItems (name : String) : List Json → List Json
  | [] => []
  | item :: rest => item.without name :: withoutItems name rest

/-- `without` on the members of an object. -/
def withoutMembers (name : String) : List (String × Json) → List (String × Json)
  | [] => []
  | (other, value) :: rest =>
    if other = name then withoutMembers name rest
    else (other, value.without name) :: withoutMembers name rest

end

end PromptScript.Json

namespace PromptScript.Backend.Google

/-- The name of the provider. -/
def provider : String := "Google"

/-- The address of the provider. -/
def address : String := "https://generativelanguage.googleapis.com"

/-- The part of a text. -/
def textPart (text : String) : Json :=
  .object [("text", .string text)]

/-- The part of a block in a system message. -/
def systemPart (block : Block) : Except RunError Json :=
  match block with
  | .text body => .ok (textPart body)
  | _ => .error (notAllowed provider block .system)

/-- The part of a block in a message that is no system message. -/
def encodePart (role : Role) (block : Block) : Except RunError Json :=
  match role, block with
  | .user, .text body | .assistant, .text body => .ok (textPart body)
  | .user, .image picture =>
    .ok (.object [("inlineData", .object [("data", .string picture.data),
      ("mimeType", .string picture.mediaType)])])
  | .assistant, .call request =>
    .ok (.object [("functionCall", .object [("args", request.arguments),
      ("id", .string request.id), ("name", .string request.name)])])
  | .tool, .result answer =>
    let key := if answer.isError then "error" else "content"
    .ok (.object [("functionResponse", .object [("id", .string answer.id),
      ("name", .string answer.name), ("response", .object [(key, .string answer.content)])])])
  | _, _ => .error (notAllowed provider block role)

/-- The role of a message that is no system message. -/
def wireRole : Role → String
  | .assistant => "model"
  | _ => "user"

/-- What a message adds to a request: parts of the instruction or one turn. -/
inductive Turn where
  | system (parts : List Json)
  | turn (content : Json)

/-- The turn of a message. -/
def encodeMessage (message : Message) : Except RunError Turn :=
  if message.role = .system then (message.content.mapM systemPart).map .system
  else
    (message.content.mapM (encodePart message.role)).map fun parts =>
      .turn (.object [("parts", .array parts), ("role", .string (wireRole message.role))])

/-- The parts that a turn adds to the instruction. -/
def Turn.systemParts : Turn → List Json
  | .system parts => parts
  | .turn _ => []

/-- The content of a turn that is one. -/
def Turn.content? : Turn → Option Json
  | .system _ => none
  | .turn content => some content

/-- The body of a request. -/
def requestBody (conversation : Conversation) (tools : List ToolDeclaration)
    (params : ModelParams) : Except RunError Json := do
  let turns ← conversation.mapM encodeMessage
  let system := turns.flatMap Turn.systemParts
  let generation := optionalMember "maxOutputTokens" (params.maxTokens.map .ofNat)
    ++ optionalMember "temperature" (params.temperature.map .ofFloat)
  return .object
    ([("contents", .array (turns.filterMap Turn.content?))]
      ++ (if generation.isEmpty then [] else [("generationConfig", .object generation)])
      ++ (if system.isEmpty then []
        else [("system_instruction", .object [("parts", .array system)])])
      ++ if tools.isEmpty then []
        else [("tools", .array [.object [("functionDeclarations", .array (tools.map fun tool =>
          .object [("description", .string tool.description), ("name", .string tool.name),
            ("parameters", tool.parameters.without "additionalProperties")]))]])])

/-- A request. -/
def encode (conversation : Conversation) (tools : List ToolDeclaration)
    (params : ModelParams) : Except RunError WireRequest := do
  let body ← requestBody conversation tools params
  let key ← apiKey params provider
  return ⟨endpoint params address ++ "/v1beta/models/" ++ params.model ++ ":generateContent",
    [("x-goog-api-key", key), ("Content-Type", "application/json")], body⟩

/-- The block of a reply's part. -/
def decodePart (part : Json) : Except RunError Block :=
  match textMember? "text" part with
  | some text => .ok (.text text)
  | none =>
    match part.member? "functionCall" with
    | some call =>
      match textMember? "name" call with
      | none => .error (.conversion provider "functionCall without a name")
      | some name =>
        .ok (.call ⟨(textMember? "id" call).getD "", name,
          (call.member? "args").getD (.object [])⟩)
    | none => .error (.conversion provider ("unsupported response part " ++ part.render))

/-- The assistant message and the usage of a reply. -/
def parseReply (body : Json) : Except RunError (Message × TokenUsage) := do
  if let some message := errorMessage? body then
    throw (.providerApi provider message)
  match firstItem? "candidates" body with
  | none => throw (.providerApi provider "no candidates in response")
  | some candidate =>
    let parts := (((candidate.member? "content").bind (Json.member? "parts")).bind
      Json.asArray?).getD []
    let content ← parts.mapM decodePart
    let usage := body.member? "usageMetadata"
    return (⟨.assistant, content⟩,
      ⟨tokenCount usage "promptTokenCount", tokenCount usage "candidatesTokenCount"⟩)

end PromptScript.Backend.Google
