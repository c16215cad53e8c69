import PromptScript.Json.Basic
import PromptScript.Json.Selection
import PromptScript.Conversation.Message

/-!
# Messages as JSON

The stored form of messages, and the reader of that form.  The reader also takes a message or a
block as an array of its fields in order.
-/

namespace PromptScript

/-- The stored form of a block. -/
def Block.toJson : Block → Json
  | .text body => .object [("type", .string "text"), ("text", .string body)]
  | .image picture =>
    .object [("type", .string "image"), ("path", .string picture.path),
      ("media_type", .string picture.mediaType), ("data", .string picture.data)]
  | .call request =>
    .object [("type", .string "function_call"), ("id", .string request.id),
      ("name", .string request.name), ("arguments", request.arguments)]
  | .result answer =>
    .object ([("type", .string "function_result"), ("id", .string answer.id),
      ("name", .string answer.name), ("content", .string answer.content)]
      ++ if answer.isError then [("is_error", .bool true)] else [])

/-- The stored form of a message. -/
def Message.toJson (message : Message) : Json :=
  .object [("role", .string message.role.name),
    ("content", .array (message.content.map Block.toJson))]

/-- The stored form of a conversation. -/
def Conversation.toJson (conversation : Conversation) : Json :=
  .array (conversation.map Message.toJson)

/-- The block of the given type whose other fields are those of `body`. -/
def Block.ofTagged? (tag : String) (body : Json) : Option Block :=
  if tag = "text" then
    match body.fields? ["text"] with
    | some [some (.string words)] => some (.text words)
    | _ => none
  else if tag = "image" then
    if body.isObject then
      match body.fields? ["path", "media_type", "data"] with
      | some [some (.string path), some (.string mediaType), some (.string data)] =>
        some (.image ⟨path, mediaType, data⟩)
      | _ => none
    else none
  else if tag = "function_call" then
    match body.fields? ["id", "name", "arguments"] with
    | some [some (.string id), some (.string name), some arguments] =>
      some (.call ⟨id, name, arguments.sorted⟩)
    | _ => none
  else if tag = "function_result" then
    match body.fields? ["id", "name", "content", "is_error"] with
    | some [some (.string id), some (.string name), some (.string content), none] =>
      some (.result ⟨id, name, content, false⟩)
    | some [some (.string id), some (.string name), some (.string content),
        some (.bool isError)] => some (.result ⟨id, name, content, isError⟩)
    | _ => none
  else none

/-- The block that a stored form describes. -/
def Block.ofJson? : Json → Option Block
  | .object members =>
    match Json.uniqueMember? "type" members with
    | some (some (.string tag)) =>
      Block.ofTagged? tag (.object (members.filter fun entry => entry.1 != "type"))
    | _ => none
  | .array (.string tag :: rest) => Block.ofTagged? tag (.array rest)
  | _ => none

/-- The message that a stored form describes. -/
def Message.ofJson? (isEmptyValue : Json → Bool) (value : Json) : Option Message := do
  match ← value.fields? ["role", "content"] with
  | [some role, some (.array content)] =>
    let role ← Role.ofName? (← role.variantName? isEmptyValue)
    return ⟨role, ← content.mapM Block.ofJson?⟩
  | _ => none

/-- The conversation that a stored form describes. -/
def Conversation.ofJson? (isEmptyValue : Json → Bool) (value : Json) : Option Conversation := do
  (← value.asArray?).mapM (Message.ofJson? isEmptyValue)

/-- The conversation that a text describes.  Members that belong to no field of a message are passed
over. -/
def Conversation.parse? (isEmptyValue : Json → Bool) (text : String) : Option Conversation :=
  (Json.readParts (.each (.members ["role", "content"])) text).toOption.bind
    (Conversation.ofJson? isEmptyValue)

end PromptScript
