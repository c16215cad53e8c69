import PromptScript.Backend.Registry
import PromptScript.Text.Basic

/-!
# What a request says

Readers for the bodies of requests: the turns of a request with their texts, images, calls and
results, the system texts that stand outside the turns, and the names of the functions.  Beside them
stands what should be read from the request for a conversation.
-/

namespace PromptScript

/-- An image as it is sent. -/
inductive WireImage where
  | bytes (mediaType data : String)
  | link (url : String)
  deriving DecidableEq, Repr

/-- The result of a call as it is sent.  Not every format names the function or marks a call that
failed. -/
structure WireResult where
  id : String
  name : Option String
  content : String
  failed : Bool
  deriving DecidableEq, Repr

/-- An element of a turn. -/
inductive WireItem where
  | text (text : String)
  | image (image : WireImage)
  | call (call : Call)
  | result (result : WireResult)
  deriving DecidableEq, Repr

namespace WireItem

/-- The text of an item that is one. -/
def text? : WireItem → Option String
  | .text body => some body
  | _ => none

/-- The image of an item that is one. -/
def image? : WireItem → Option WireImage
  | .image picture => some picture
  | _ => none

/-- The call of an item that is one. -/
def call? : WireItem → Option Call
  | .call request => some request
  | _ => none

/-- The result of an item that is one. -/
def result? : WireItem → Option WireResult
  | .result answer => some answer
  | _ => none

end WireItem

/-- One turn of a request. -/
structure WireTurn where
  role : String
  texts : List String
  images : List WireImage
  calls : List Call
  results : List WireResult
  deriving DecidableEq, Repr

/-- The turn with the given items. -/
def WireTurn.ofItems (role : String) (items : List WireItem) : WireTurn :=
  ⟨role, items.filterMap WireItem.text?, items.filterMap WireItem.image?,
    items.filterMap WireItem.call?, items.filterMap WireItem.result?⟩

namespace Backend

/-- The items of an array member; a missing one has none. -/
def readMember {α : Type} (name : String) (read : Json → Option α) (value : Json) :
    Option (List α) :=
  match value.member? name with
  | none => some []
  | some (.array items) => items.mapM read
  | some _ => none

/-! ## Readers of chat completions -/

/-- The text or the image of a content part.  The URL of an image may stand in an object. -/
def readChatPart (part : Json) : Option WireItem := do
  match ← textMember? "type" part with
  | "text" => return .text (← textMember? "text" part)
  | "image_url" =>
    let image ← part.member? "image_url"
    return .image (.link (← (textMember? "url" image).or image.asString?))
  | _ => none

/-- The texts and images of a message's content. -/
def readChatContent : Json → Option (List WireItem)
  | .null => some []
  | .string text => some [.text text]
  | .array parts => parts.mapM readChatPart
  | _ => none

/-- A call that a message asks for. -/
def readChatCall (call : Json) : Option WireItem := do
  let function ← call.member? "function"
  return .call ⟨← textMember? "id" call, ← textMember? "name" function,
    ← function.member? "arguments"⟩

/-- The turn of a message: one with a result, or one with content and calls. -/
def readChatTurn (message : Json) : Option WireTurn := do
  let role ← textMember? "role" message
  if role = "tool" then
    return .ofItems role [.result ⟨← textMember? "tool_call_id" message,
      textMember? "name" message, ← textMember? "content" message, false⟩]
  else
    let parts ← readChatContent (← message.member? "content")
    let calls ← readMember "tool_calls" readChatCall message
    return .ofItems role (parts ++ calls)

/-! ## Readers of messages -/

/-- The item of a content block. -/
def readMessageBlock (block : Json) : Option WireItem := do
  match ← textMember? "type" block with
  | "text" => return .text (← textMember? "text" block)
  | "image" =>
    let source ← block.member? "source"
    return .image (.bytes (← textMember? "media_type" source) (← textMember? "data" source))
  | "tool_use" =>
    return .call ⟨← textMember? "id" block, ← textMember? "name" block, ← block.member? "input"⟩
  | "tool_result" =>
    return .result ⟨← textMember? "tool_use_id" block, none, ← textMember? "content" block,
      block.member? "is_error" == some (.bool true)⟩
  | _ => none

/-- The turn of a message. -/
def readMessageTurn (message : Json) : Option WireTurn := do
  return .ofItems (← textMember? "role" message)
    (← readMember "content" readMessageBlock message)

/-! ## Readers of contents -/

/-- The content of a function's response and whether it stands for a failure. -/
def readResponse (response : Json) : Option (String × Bool) :=
  match textMember? "error" response with
  | some content => some (content, true)
  | none => (textMember? "content" response).map (·, false)

/-- The item of a part. -/
def readContentPart (part : Json) : Option WireItem :=
  match textMember? "text" part with
  | some text => some (.text text)
  | none =>
    match part.member? "inlineData" with
    | some image => do
      return .image (.bytes (← textMember? "mimeType" image) (← textMember? "data" image))
    | none =>
      match part.member? "functionCall" with
      | some call => do
        return .call ⟨← textMember? "id" call, ← textMember? "name" call, ← call.member? "args"⟩
      | none => do
        let answer ← part.member? "functionResponse"
        let (content, failed) ← readResponse (← answer.member? "response")
        return .result ⟨← textMember? "id" answer, some (← textMember? "name" answer), content,
          failed⟩

/-- The turn of a content. -/
def readContentTurn (content : Json) : Option WireTurn := do
  return .ofItems (← textMember? "role" content) (← readMember "parts" readContentPart content)

/-! ## Readers of requests -/

/-- The turns of a request. -/
def readTurns (backend : Backend) (body : Json) : Option (List WireTurn) :=
  match backend with
  | openAi _ | mistral => readMember "messages" readChatTurn body
  | anthropic => readMember "messages" readMessageTurn body
  | google => readMember "contents" readContentTurn body

/-- The system texts that stand outside the turns of a request. -/
def readSystem (backend : Backend) (body : Json) : Option (List String) :=
  match backend with
  | openAi _ | mistral => some []
  | anthropic => (body.member? "system").elim (some []) fun text => text.asString?.map ([·])
  | google =>
    (body.member? "system_instruction").elim (some []) (readMember "parts" (textMember? "text"))

/-- The names of the functions that a request declares. -/
def readToolNames (backend : Backend) (body : Json) : Option (List String) :=
  match backend with
  | openAi _ | mistral =>
    readMember "tools" (fun tool => (tool.member? "function").bind (textMember? "name")) body
  | anthropic => readMember "tools" (textMember? "name") body
  | google =>
    (readMember "tools" (readMember "functionDeclarations" (textMember? "name")) body).map
      List.flatten

/-- The media type and the data of an image that is sent as a URL.  The data stand behind the last
comma. -/
def readDataUrl? (url : String) : Option (String × String) := do
  let (data, front) ← Text.cutAt? ',' url.toList.reverse
  let header ← Text.dropLead? ";base64".toList.reverse front
  let mediaType ← Text.dropLead? "data:".toList header.reverse
  return (String.ofList mediaType, String.ofList data.reverse)

/-! ## What should be read -/

/-- The role of a message's turn. -/
def wireRole : Backend → Role → String
  | openAi _ | mistral => Role.name
  | anthropic => Anthropic.wireRole
  | google => Google.wireRole

/-- An image as a backend sends it: as a URL that holds its bytes, or the bytes themselves. -/
def wireImage : Backend → Image → WireImage
  | openAi _ | mistral => fun image => .link (dataUrl image)
  | anthropic | google => fun image => .bytes image.mediaType image.data

/-- A call as a backend sends it: chat completions take its arguments as a JSON text. -/
def wireCall : Backend → Call → Call
  | openAi _ | mistral => fun call => { call with arguments := .string call.arguments.render }
  | anthropic | google => id

/-- A result as a backend sends it: where nothing marks a failed one, its text does. -/
def wireResult : Backend → CallResult → WireResult
  | openAi _ => fun result => ⟨result.id, none, resultText result, false⟩
  | mistral => fun result => ⟨result.id, some result.name, resultText result, false⟩
  | anthropic => fun result => ⟨result.id, none, result.content, result.isError⟩
  | google => fun result => ⟨result.id, some result.name, result.content, result.isError⟩

/-- The turn of a message: all that stands in it, in order. -/
def turnOf (backend : Backend) (message : Message) : WireTurn :=
  { role := backend.wireRole message.role
    texts := message.texts
    images := (message.content.filterMap Block.image?).map backend.wireImage
    calls := message.calls.map backend.wireCall
    results := message.results.map backend.wireResult }

/-- The turns that a message becomes.  Chat completions have one for each result of a call; the
other formats have none for system texts. -/
def turnsOf (backend : Backend) (message : Message) : List WireTurn :=
  match backend with
  | openAi _ | mistral =>
    if message.role = .tool then
      message.results.map fun result => backend.turnOf ⟨.tool, [.result result]⟩
    else [backend.turnOf message]
  | anthropic | google => if message.role = .system then [] else [backend.turnOf message]

/-- The texts of a message where it is a system message. -/
def systemTexts (message : Message) : List String :=
  if message.role = .system then message.texts else []

/-- The system texts that stand outside the turns: none where they are turns themselves, all of them
in order, or all from the first that is not empty, joined with line feeds. -/
def systemOf (backend : Backend) (conversation : Conversation) : List String :=
  let texts := conversation.flatMap systemTexts
  match backend with
  | openAi _ | mistral => []
  | google => texts
  | anthropic =>
    let joined := "\n".intercalate (texts.dropWhile String.isEmpty)
    if joined.isEmpty then [] else [joined]

/-- Whether the body of a request says what a conversation and a list of functions do. -/
structure Says (backend : Backend) (conversation : Conversation) (tools : List ToolDeclaration)
    (body : Json) : Prop where
  turns : backend.readTurns body = some (conversation.flatMap backend.turnsOf)
  system : backend.readSystem body = some (backend.systemOf conversation)
  toolNames : backend.readToolNames body = some (tools.map ToolDeclaration.name)

end Backend

end PromptScript
