import PromptScript.Json.Basic

/-!
# Messages

A conversation is a list of messages.  A message has an author's role and a list of content
blocks: texts, images, function calls and the results of function calls.
-/

namespace PromptScript

/-- Who authored a message. -/
inductive Role where
  | system
  | user
  | assistant
  | tool
  deriving DecidableEq, Repr, Inhabited

namespace Role

/-- Every role. -/
def all : List Role := [system, user, assistant, tool]

/-- The written name of a role. -/
def name : Role → String
  | system => "system"
  | user => "user"
  | assistant => "assistant"
  | tool => "tool"

/-- The role with the given name. -/
def ofName? (word : String) : Option Role :=
  all.find? fun role => role.name == word

theorem ofName?_name (role : Role) : ofName? role.name = some role := by
  cases role <;> decide

end Role

/-- An attached image.  Its bytes are held in base64, so that a stored conversation does not
depend on the file. -/
structure Image where
  path : String
  mediaType : String
  data : String
  deriving DecidableEq, Repr

/-- A request to run a function. -/
structure Call where
  id : String
  name : String
  arguments : Json
  deriving DecidableEq, Repr

/-- What a function answered to the call with the same identifier. -/
structure CallResult where
  id : String
  name : String
  content : String
  isError : Bool
  deriving DecidableEq, Repr

/-- One element of a message. -/
inductive Block where
  | text (text : String)
  | image (image : Image)
  | call (call : Call)
  | result (result : CallResult)
  deriving DecidableEq, Repr

namespace Block

/-- The name of the block's kind. -/
def kindName : Block → String
  | .text _ => "text"
  | .image _ => "image"
  | .call _ => "function_call"
  | .result _ => "function_result"

/-- The text of a text block. -/
def text? : Block → Option String
  | .text body => some body
  | _ => none

/-- The call of a call block. -/
def call? : Block → Option Call
  | .call content => some content
  | _ => none

/-- The result of a result block. -/
def result? : Block → Option CallResult
  | .result content => some content
  | _ => none

/-- The image of an image block. -/
def image? : Block → Option Image
  | .image content => some content
  | _ => none

end Block

/-- A message. -/
structure Message where
  role : Role
  content : List Block
  deriving DecidableEq, Repr

namespace Message

/-- A message with one text block. -/
def ofText (role : Role) (text : String) : Message :=
  ⟨role, [.text text]⟩

/-- The texts of the message, in order. -/
def texts (message : Message) : List String :=
  message.content.filterMap Block.text?

/-- The texts of the message, joined with line feeds. -/
def textContent (message : Message) : String :=
  "\n".intercalate message.texts

/-- The calls of the message, in order. -/
def calls (message : Message) : List Call :=
  message.content.filterMap Block.call?

/-- The results in the message, in order. -/
def results (message : Message) : List CallResult :=
  message.content.filterMap Block.result?

/-- Whether the message asks for a function to be run. -/
def hasCalls (message : Message) : Bool :=
  !message.calls.isEmpty

end Message

/-- An ordered list of messages.  Only the last message may still grow. -/
abbrev Conversation := List Message

namespace Conversation

/-- Appends a message. -/
def push (conversation : Conversation) (message : Message) : Conversation :=
  conversation ++ [message]

/-- Appends a block to the last message where its role is accepted, and otherwise in a new
message of the given role. -/
def appendBlock (accept : Role → Bool) (role : Role) (block : Block) :
    Conversation → Conversation
  | [] => [⟨role, [block]⟩]
  | [last] =>
    if accept last.role then [{ last with content := last.content ++ [block] }]
    else [last, ⟨role, [block]⟩]
  | first :: next :: rest => first :: appendBlock accept role block (next :: rest)

/-- All blocks of a conversation in order, without regard to the messages they stand in. -/
def blocks (conversation : Conversation) : List Block :=
  conversation.flatMap (·.content)

end Conversation

end PromptScript
