/-!
# Statements

A prompt script is a sequence of statements.  Each statement has a kind, which a keyword in the
first column introduces, and a payload, which is the text behind the keyword.
-/

namespace PromptScript

/-- What a statement does. -/
inductive StatementKind where
  | comment
  | setModel
  | systemMessage
  | userMessage
  | assistantMessage
  | toolCall
  | toolResult
  | exec
  | setVariable
  | callFunction
  | includeFile
  | attachImage
  | emitOutput
  | debugDump
  | deleteFiles
  | halt
  | continuationText
  deriving DecidableEq, Repr, Inhabited

namespace StatementKind

/-- Every kind, in the order of the language's documentation. -/
def all : List StatementKind :=
  [comment, setModel, systemMessage, userMessage, assistantMessage, toolCall, toolResult, exec,
    setVariable, callFunction, includeFile, attachImage, emitOutput, debugDump, deleteFiles, halt,
    continuationText]

/-- The word that introduces a statement of this kind in the first column. -/
def keyword : StatementKind → String
  | comment => ".#"
  | setModel => ".llm"
  | systemMessage => ".system"
  | userMessage => ".user"
  | assistantMessage => ".assistant"
  | toolCall => ".tool_call"
  | toolResult => ".tool_result"
  | exec => ".exec"
  | setVariable => ".set"
  | callFunction => ".cmd"
  | includeFile => ".include"
  | attachImage => ".image"
  | emitOutput => ".print"
  | debugDump => ".debug"
  | deleteFiles => ".clear"
  | halt => ".exit"
  | continuationText => ".text"

/-- The name of the kind in stored sessions. -/
def name : StatementKind → String
  | comment => "comment"
  | setModel => "set_model"
  | systemMessage => "system_msg"
  | userMessage => "user_msg"
  | assistantMessage => "assistant_msg"
  | toolCall => "tool_call"
  | toolResult => "tool_result"
  | exec => "exec"
  | setVariable => "set_var"
  | callFunction => "call_function"
  | includeFile => "include"
  | attachImage => "attach_image"
  | emitOutput => "emit_output"
  | debugDump => "debug_dump"
  | deleteFiles => "delete_files"
  | halt => "halt"
  | continuationText => "continuation_text"

/-- The kind with the given keyword. -/
def ofKeyword? (word : String) : Option StatementKind :=
  all.find? fun kind => kind.keyword == word

/-- The kind with the given stored name. -/
def ofName? (word : String) : Option StatementKind :=
  all.find? fun kind => kind.name == word

/-- The kinds whose payload takes in the unmarked lines that follow. -/
def acceptsContinuation : StatementKind → Bool
  | systemMessage | userMessage | assistantMessage | continuationText => true
  | _ => false

theorem ofKeyword?_keyword (kind : StatementKind) : ofKeyword? kind.keyword = some kind := by
  cases kind <;> decide

theorem ofName?_name (kind : StatementKind) : ofName? kind.name = some kind := by
  cases kind <;> decide

end StatementKind

/-- One executable unit of a script.  The line is the one that introduced the statement, counted
from one; a statement that no line introduced has line zero. -/
structure Statement where
  line : Nat
  kind : StatementKind
  payload : String
  deriving DecidableEq, Repr, Inhabited

namespace Statement

/-- A statement that stands in no source line. -/
def synthesized (kind : StatementKind) (payload : String) : Statement :=
  ⟨0, kind, payload⟩

/-- Whether the statement stands in no source line. -/
def isSynthesized (statement : Statement) : Bool :=
  statement.line == 0

/-- The listing form: the line number right-aligned in four columns, the keyword, and the payload
where there is one. -/
def display (statement : Statement) : String :=
  let number := toString statement.line
  let padded := String.ofList (List.replicate (4 - number.length) ' ') ++ number
  if statement.payload.isEmpty then padded ++ " " ++ statement.kind.keyword
  else padded ++ " " ++ statement.kind.keyword ++ " " ++ statement.payload

end Statement

end PromptScript
