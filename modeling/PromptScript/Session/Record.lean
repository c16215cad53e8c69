import PromptScript.Engine.State
import PromptScript.Timestamp

/-!
# Session records

The stored form of a run.  A record is written as indented JSON with a fixed order of members.
Reading refuses other versions of the format and positions behind the end of the program; members
that belong to no field are passed over.
-/

namespace PromptScript

/-- A stored run with its bookkeeping. -/
structure SessionRecord where
  /-- The number of times the session has been saved. -/
  revision : UInt64
  status : RunStatus
  state : ExecutionState
  createdAt : Timestamp
  updatedAt : Timestamp
  deriving DecidableEq, Repr

/-- The stored form of a statement. -/
def Statement.toJson (statement : Statement) : Json :=
  .object [("line", .ofNat statement.line), ("kind", .string statement.kind.name),
    ("payload", .string statement.payload)]

/-- The statement that a stored form describes. -/
def Statement.ofJson? (value : Json) : Option Statement := do
  match ← value.fields? ["line", "kind", "payload"] with
  | [some line, some kind, some (.string payload)] =>
    let kind ← StatementKind.ofName? (← kind.variantName? Json.isNullOrEmpty)
    return ⟨← line.asNat?, kind, payload⟩
  | _ => none

/-- The counters that a stored form describes. -/
def Counters.ofJson? (value : Json) : Option Counters := do
  match ← value.fields? ["tokens_in", "tokens_out", "cost_in", "cost_out", "call_count"] with
  | [some tokensIn, some tokensOut, some costIn, some costOut, some callCount] =>
    return ⟨.ofNat (← tokensIn.asNat?), .ofNat (← tokensOut.asNat?), ← costIn.asFloat?,
      ← costOut.asFloat?, .ofNat (← callCount.asNat?)⟩
  | _ => none

/-- A text that may be missing. -/
def optionalText? : Option Json → Option (Option String)
  | none | some .null => some none
  | some (.string text) => some (some text)
  | some _ => none

namespace ExecutionState

/-- The members of the stored form. -/
def members (state : ExecutionState) : List (String × Json) :=
  let text : Option String → Json := fun value => value.elim .null .string
  [("sessionId", .string state.sessionId),
    ("filename", text state.filename),
    ("instructionPointer", .ofNat state.ip),
    ("statements", .array (state.statements.map Statement.toJson)),
    ("conversation", state.conversation.toJson),
    ("variables", .object state.bindings.entries),
    ("activeModel", text state.activeModel),
    ("activeProvider", text state.activeProvider),
    ("cumulativeCounters", state.counters.toJson)]

/-- The state that the members of a stored form describe. -/
def ofMembers? (members : List (String × Json)) : Option ExecutionState := do
  let value : String → Option Json := fun name => Json.lookup? name members
  let statements ← (← value "statements").asArray?
  return {
    sessionId := ← (← value "sessionId").asString?
    filename := ← optionalText? (value "filename")
    ip := ← (← value "instructionPointer").asNat?
    statements := ← statements.mapM Statement.ofJson?
    conversation := ← Conversation.ofJson? Json.isNullOrEmpty (← value "conversation")
    bindings := ⟨← (← value "variables").asObject?⟩
    activeModel := ← optionalText? (value "activeModel")
    activeProvider := ← optionalText? (value "activeProvider")
    counters := ← Counters.ofJson? (← value "cumulativeCounters") }

end ExecutionState

namespace SessionRecord

/-- The version of the format. -/
def formatVersion : Nat := 1

/-- The record of a state that was never saved. -/
def new (state : ExecutionState) (status : RunStatus) (now : Timestamp) : SessionRecord :=
  ⟨0, status, state, now, now⟩

/-- The stored form. -/
def toJson (record : SessionRecord) : Json :=
  .object ([("formatVersion", .ofNat formatVersion),
      ("revision", .ofNat record.revision.toNat),
      ("status", .string record.status.name)]
    ++ record.state.members
    ++ [("createdAt", .string record.createdAt.render),
      ("updatedAt", .string record.updatedAt.render)])

/-- The text of the stored form. -/
def render (record : SessionRecord) : String :=
  record.toJson.renderIndented

/-- The record that the members of a stored form describe. -/
def ofMembers? (members : List (String × Json)) : Option SessionRecord := do
  let value : String → Option Json := fun name => Json.lookup? name members
  return {
    revision := .ofNat (← (← value "revision").asNat?)
    status := ← RunStatus.ofName? (← (← value "status").variantName? Json.isNull)
    state := ← ExecutionState.ofMembers? members
    createdAt := ← Timestamp.parse? (← (← value "createdAt").asString?)
    updatedAt := ← Timestamp.parse? (← (← value "updatedAt").asString?) }

/-- The error for a version that is not read. -/
def unsupportedVersion (version : Option Nat) : RunError :=
  .serialization ("unsupported session format version "
    ++ version.elim "<missing>" toString ++ "; expected " ++ toString formatVersion)

/-- The error for a position behind the end of the program. -/
def pastEnd (state : ExecutionState) : RunError :=
  .serialization ("instruction pointer " ++ toString state.ip ++ " is past the end of "
    ++ toString state.statements.length ++ " statements")

/-- The record that a JSON value describes. -/
def ofJson (value : Json) : Except RunError SessionRecord :=
  let version := (value.member? "formatVersion").bind Json.asNat?
  if version ≠ some formatVersion then .error (unsupportedVersion version)
  else
    match value.asObject?.bind ofMembers? with
    | none => .error .unreadableSession
    | some record =>
      if record.state.statements.length < record.state.ip then .error (pastEnd record.state)
      else .ok record

/-- The record that a text describes. -/
def parse (text : String) : Except RunError SessionRecord :=
  match Json.parse text with
  | .ok value => ofJson value
  | .error _ => .error .unreadableSession

end SessionRecord

/-- What a list of sessions shows of one. -/
structure SessionSummary where
  sessionId : String
  filename : Option String
  status : RunStatus
  messages : Nat
  updatedAt : Timestamp
  deriving DecidableEq, Repr

/-- The summary of a record. -/
def SessionRecord.summary (record : SessionRecord) : SessionSummary :=
  ⟨record.state.sessionId, record.state.filename, record.status,
    record.state.conversation.length, record.updatedAt⟩

end PromptScript
