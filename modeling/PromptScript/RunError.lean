import PromptScript.Script.Statement
import PromptScript.Files.Tree
import PromptScript.Conversation.Pairing
import PromptScript.Decimal.Shortest

/-!
# Run errors

Everything that can stop a statement, with the name of its kind and its wording.
-/

namespace PromptScript

/-- Why a statement or an operation of the library fails. -/
inductive RunError where
  /-- A token between delimiters names no value. -/
  | undefinedVariable (token : String)
  /-- A name of the engine's namespace is to be given a value. -/
  | readOnlyVariable (name : String)
  | invalidArgument (reason : String)
  | modelNotFound (reason : String)
  | providerAuth (provider reason : String)
  /-- A provider refuses a request or reports an error. -/
  | providerApi (provider reason : String)
  /-- A conversation has no request in the provider's form, or a reply cannot be read. -/
  | conversion (provider reason : String)
  /-- Calls and results do not pair up. -/
  | invalidConversation (reason : String)
  | functionNotFound (name : String)
  | functionTimeout (name : String) (milliseconds : Nat)
  | functionExecution (name reason : String)
  /-- A session record of another version or with a position outside its program. -/
  | serialization (reason : String)
  /-- A text is no session record. -/
  | unreadableSession
  | sessionNotFound (id : String)
  | sessionConflict (reason : String)
  /-- The engine is in another state than running. -/
  | notRunning (status : String)
  /-- A file operation fails; the context stands before the cause. -/
  | file (context : String) (cause : FileError)
  deriving DecidableEq, Repr

namespace RunError

/-- The name of the error's kind. -/
def kind : RunError → String
  | undefinedVariable _ => "UndefinedVariableError"
  | readOnlyVariable _ => "ReadOnlyVariableError"
  | invalidArgument _ => "InvalidArgumentError"
  | modelNotFound _ => "ModelNotFoundError"
  | providerAuth _ _ => "ProviderAuthError"
  | providerApi _ _ => "ProviderAPIError"
  | conversion _ _ => "TranslationError"
  | invalidConversation _ => "InvalidConversationError"
  | functionNotFound _ => "FunctionNotFoundError"
  | functionTimeout _ _ => "FunctionTimeoutError"
  | functionExecution _ _ => "FunctionExecutionError"
  | serialization _ => "SerializationError"
  | unreadableSession => "SerializationError"
  | sessionNotFound _ => "SessionNotFoundError"
  | sessionConflict _ => "SessionConflictError"
  | notRunning _ => "EngineStateError"
  | file _ _ => "IoError"

/-- Milliseconds as seconds with one decimal. -/
def secondsText (milliseconds : Nat) : String :=
  Decimal.renderFixed 1 (Float.ofNat (milliseconds / 1000)
    + Float.ofNat (milliseconds % 1000 * 1000000) / 1000000000.0)

/-- The wording of the error. -/
def message : RunError → String
  | undefinedVariable token => "undefined variable '" ++ token ++ "'"
  | readOnlyVariable name => "variable '" ++ name ++ "' is read-only"
  | invalidArgument reason => "invalid argument: " ++ reason
  | modelNotFound reason => "model not found: " ++ reason
  | providerAuth provider reason => "provider auth error (" ++ provider ++ "): " ++ reason
  | providerApi provider reason => "provider API error (" ++ provider ++ "): " ++ reason
  | conversion provider reason => "translation error (" ++ provider ++ "): " ++ reason
  | invalidConversation reason => "invalid conversation: " ++ reason
  | functionNotFound name => "function not found: '" ++ name ++ "'"
  | functionTimeout name milliseconds =>
    "function '" ++ name ++ "' timed out after " ++ secondsText milliseconds ++ "s"
  | functionExecution name reason => "function '" ++ name ++ "' failed: " ++ reason
  | serialization reason => "serialization error: " ++ reason
  | unreadableSession => "serialization error: not a session record"
  | sessionNotFound id => "session not found: " ++ id
  | sessionConflict reason => "session conflict: " ++ reason
  | notRunning status => "engine is " ++ status ++ ", not running"
  | file context cause => "io error: " ++ context ++ cause.message

end RunError

/-- The failure of a statement, with the statement's line and kind. -/
structure StatementError where
  line : Nat
  kind : StatementKind
  error : RunError
  deriving DecidableEq, Repr

/-- The full text of a statement's failure. -/
def StatementError.message (failure : StatementError) : String :=
  "line " ++ toString failure.line ++ " (" ++ failure.kind.keyword ++ "): "
    ++ failure.error.kind ++ ": " ++ failure.error.message

end PromptScript
