import PromptScript.Conversation.Codec
import PromptScript.Engine.Counters
import PromptScript.Variables.Store

/-!
# Execution state

Everything that a run of a program holds and that a stored session keeps: where it stands, what its
requests took so far, its variables and its conversation.
-/

namespace PromptScript

/-- Where a run stands. -/
inductive RunStatus where
  | running
  | suspended
  | completed
  | failed
  deriving DecidableEq, Repr, Inhabited

namespace RunStatus

/-- Every status. -/
def all : List RunStatus := [running, suspended, completed, failed]

/-- The written name of a status. -/
def name : RunStatus → String
  | running => "running"
  | suspended => "suspended"
  | completed => "completed"
  | failed => "failed"

/-- The status with the given name. -/
def ofName? (word : String) : Option RunStatus :=
  all.find? fun status => status.name == word

theorem ofName?_name (status : RunStatus) : ofName? status.name = some status := by
  cases status <;> decide

end RunStatus

/-- The state of a run. -/
structure ExecutionState where
  sessionId : String
  filename : Option String
  /-- The position of the next statement. -/
  ip : Nat
  statements : List Statement
  conversation : Conversation
  bindings : Variables
  activeModel : Option String
  activeProvider : Option String
  counters : Counters
  deriving DecidableEq, Repr

namespace ExecutionState

/-- The state before the first statement of a program. -/
def initial (sessionId : String) (statements : List Statement) : ExecutionState :=
  { sessionId, filename := none, ip := 0, statements, conversation := []
    bindings := .initial, activeModel := none, activeProvider := none, counters := .zero }

/-- The next statement. -/
def current? (state : ExecutionState) : Option Statement :=
  state.statements[state.ip]?

/-- The values of the engine's namespace, in the order of their names. -/
def namespaceValues (state : ExecutionState) : List (String × Json) :=
  [("call_count", .ofNat state.counters.callCount.toNat),
    ("cost_in", .ofFloat state.counters.costIn),
    ("cost_out", .ofFloat state.counters.costOut),
    ("filename", .string (state.filename.getD "")),
    ("ip", .ofNat state.ip),
    ("model_name", .string (state.activeModel.getD "")),
    ("provider", .string (state.activeProvider.getD "")),
    ("session_id", .string state.sessionId),
    ("tokens_in", .ofNat state.counters.tokensIn.toNat),
    ("tokens_out", .ofNat state.counters.tokensOut.toNat),
    ("total_cost", .ofFloat state.counters.totalCost)]

end ExecutionState

end PromptScript
