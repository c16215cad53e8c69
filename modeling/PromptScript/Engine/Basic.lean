import PromptScript.Engine.Perform
import PromptScript.Session.Store
import PromptScript.Text.Property

/-!
# The engine

An engine runs the statements of a program one at a time.  The position moves past a statement
only where the statement succeeds, so a failed engine still points at the statement that failed.
An engine can be stored as a session at any point and restored from it.
-/

namespace PromptScript

/-- A run of a program. -/
structure Engine where
  state : ExecutionState
  status : RunStatus
  /-- The revision at which the run was stored last. -/
  revision : UInt64
  createdAt : Timestamp
  deriving DecidableEq, Repr

/-- Whether no statement is left. -/
def ExecutionState.isFinished (state : ExecutionState) : Bool :=
  state.statements.length ≤ state.ip

namespace Engine

/-- The engine before the first statement of a program. -/
def new (sessionId : String) (statements : List Statement) (now : Timestamp) : Engine :=
  ⟨.initial sessionId statements, .running, 0, now⟩

/-- The same engine with the name of the script. -/
def withFilename (engine : Engine) (filename : String) : Engine :=
  { engine with state := { engine.state with filename := some filename } }

/-- The engine of a stored run.  It runs again, also where the stored one failed. -/
def restore (record : SessionRecord) : Engine :=
  ⟨record.state, .running, record.revision, record.createdAt⟩

/-- The status behind a statement that succeeded. -/
def statusAfter (kind : StatementKind) (state : ExecutionState) : RunStatus :=
  if kind = .halt ∨ state.isFinished then .completed else .running

/-- Runs the next statement.  An engine that is not running stays as it is. -/
def step (settings : Settings) (engine : Engine) (world : World) :
    Except StatementError RunStatus × Engine × World :=
  if engine.status ≠ .running then (.ok engine.status, engine, world)
  else
    match engine.state.current? with
    | none => (.ok .completed, { engine with status := .completed }, world)
    | some statement =>
      match statement.perform settings engine.state world with
      | (.ok (), state, world) =>
        let next : ExecutionState := { state with ip := state.ip + 1 }
        let status := statusAfter statement.kind next
        (.ok status, { engine with state := next, status }, world)
      | (.error error, state, world) =>
        (.error ⟨statement.line, statement.kind, error⟩,
          { engine with state, status := .failed }, world)

/-- Runs at most the given number of statements. -/
def runFor (settings : Settings) : Nat → Engine → World →
    Except StatementError RunStatus × Engine × World
  | 0, engine, world => (.ok engine.status, engine, world)
  | count + 1, engine, world =>
    if engine.status = .running then
      match step settings engine world with
      | (.ok _, engine, world) => runFor settings count engine world
      | failed => failed
    else (.ok engine.status, engine, world)

/-- Runs the program until it completes, fails or is suspended. -/
def run (settings : Settings) (engine : Engine) (world : World) :
    Except StatementError RunStatus × Engine × World :=
  runFor settings (engine.state.statements.length - engine.state.ip + 1) engine world

/-- The record of the run as it stands. -/
def snapshot (engine : Engine) (now : Timestamp) : SessionRecord :=
  { SessionRecord.new engine.state engine.status now with
    revision := engine.revision
    createdAt := engine.createdAt }

/-- Suspends a running engine. -/
def suspend (engine : Engine) : Engine :=
  if engine.status = .running then { engine with status := .suspended } else engine

/-- Stores the run: the record as it was written or the error, the engine at its new revision and
the tree. -/
def persist (store : SessionStore) (engine : Engine) (tree : FileTree) :
    Except RunError SessionRecord × Engine × FileTree :=
  match store.save tree (engine.snapshot (.ofNanoseconds tree.clock)) with
  | (tree, .ok record) => (.ok record, { engine with revision := record.revision }, tree)
  | (tree, .error error) => (.error error, engine, tree)

/-- Appends statements to the program of an engine that did not fail. -/
def extend (engine : Engine) (statements : List Statement) : Except RunError Engine :=
  if engine.status = .failed then .error (.notRunning engine.status.name)
  else
    let state : ExecutionState :=
      { engine.state with statements := engine.state.statements ++ statements }
    .ok { engine with state, status := if state.isFinished then engine.status else .running }

/-- Gives a variable a value between statements. -/
def setVariable (engine : Engine) (name : String) (value : Json) : Except RunError Engine := do
  return { engine with state := ← engine.state.assign name value }

/-- The name of a status in a diagnostic text. -/
def statusWord : RunStatus → String
  | .running => "Running"
  | .suspended => "Suspended"
  | .completed => "Completed"
  | .failed => "Failed"

/-- The engine in a diagnostic text. -/
def describe (engine : Engine) : String :=
  "Engine \x7b session_id: " ++ Text.quote engine.state.sessionId
    ++ ", status: " ++ statusWord engine.status
    ++ ", ip: " ++ toString engine.state.ip
    ++ ", messages: " ++ toString engine.state.conversation.length ++ " \x7d"

end Engine

end PromptScript
