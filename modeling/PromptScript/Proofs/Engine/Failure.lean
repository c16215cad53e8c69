import PromptScript.Proofs.Engine.Growth

/-!
# Statements that fail

A statement that fails leaves the state as it was and shows nothing, whichever of its steps it is
that fails, with two exceptions: the choice of a model stops among its variables, and an exchange
keeps what it heard.  An exchange that heard nothing leaves at most another model active.
-/

namespace PromptScript

/-- Whether an outcome that is an error leaves everything as it was. -/
def Outcome.KeepsOnError (state : ExecutionState) (world : World) (outcome : Outcome) : Prop :=
  ∀ error, outcome.1 = .error error → outcome.2 = (state, world)

theorem Outcome.keepsOnError_ok (state next : ExecutionState) (world later : World) :
    KeepsOnError state world (.ok (), next, later) := by
  simp [KeepsOnError]

theorem Outcome.keepsOnError_error (error : RunError) (state : ExecutionState) (world : World) :
    KeepsOnError state world (.error error, state, world) := by
  simp [KeepsOnError]

theorem Outcome.keepsOnError_ofChange (state : ExecutionState) (world : World)
    (change : Except RunError ExecutionState) :
    KeepsOnError state world (ofChange state world change) := by
  cases change with
  | ok next => exact keepsOnError_ok state next world world
  | error cause => exact keepsOnError_error cause state world

namespace Statement

open Outcome (KeepsOnError keepsOnError_ok keepsOnError_error keepsOnError_ofChange)

variable {settings : Settings} {statement : Statement} {state next : ExecutionState}
  {world later : World} {error : RunError}

theorem keepsOnError_emit (state : ExecutionState) (world : World) (payload : String) :
    KeepsOnError state world (emit state world payload) := by
  rw [emit]
  split
  · exact keepsOnError_ok _ _ _ _
  · exact keepsOnError_error _ _ _

theorem keepsOnError_debug (state : ExecutionState) (world : World) (payload : String) :
    KeepsOnError state world (debug state world payload) := by
  rw [debug]
  split
  · exact keepsOnError_ok _ _ _ _
  · exact keepsOnError_error _ _ _

theorem keepsOnError_delete (settings : Settings) (state : ExecutionState) (world : World)
    (payload : String) : KeepsOnError state world (delete settings state world payload) := by
  rw [delete]
  split
  · exact keepsOnError_error _ _ _
  · exact keepsOnError_ok _ _ _ _

/-- Whatever fails of a call, the functions were looked for and one of them may have been run, but
its answer went nowhere. -/
theorem callFunction_of_error {payload : String}
    (hcall : callFunction settings state world payload = (.error error, next, later)) :
    next = state ∧ ∃ registry tree, later = { world with registry, tree } := by
  rw [callFunction] at hcall
  split at hcall
  next cause hread =>
    cases hcall
    exact ⟨rfl, world.registry, world.tree, rfl⟩
  next invocation hread =>
    have hlooked : ∃ registry tree,
        (world.refreshFunctions settings).2 = { world with registry, tree } := ⟨_, _, rfl⟩
    rcases hrefresh : world.refreshFunctions settings with ⟨cause | _, refreshed⟩
    all_goals
      rw [hrefresh] at hcall hlooked
      obtain ⟨registry, tree, rfl⟩ := hlooked
    · cases hcall
      exact ⟨rfl, registry, tree, rfl⟩
    · simp only at hcall
      split at hcall
      next =>
        have hkeeps := keepsOnError_ofChange state _ _ error (congrArg Prod.fst hcall)
        rw [hcall] at hkeeps
        cases hkeeps
        exact ⟨rfl, registry, _, rfl⟩
      next =>
        cases hcall
        exact ⟨rfl, registry, tree, rfl⟩

/-- A statement of any kind but two keeps the state where it fails, and all of the world but the
functions and the files that they change. -/
theorem perform_of_error (hexec : statement.kind ≠ .exec) (hmodel : statement.kind ≠ .setModel)
    (hperform : statement.perform settings state world = (.error error, next, later)) :
    next = state ∧ (∃ registry tree, later = { world with registry, tree }) ∧
      (statement.kind ≠ .callFunction → later = world) := by
  by_cases hcall : statement.kind = .callFunction
  · have hcalled : callFunction settings state world statement.payload =
        (.error error, next, later) := by
      rw [← hperform]
      simp only [perform, hcall]
    obtain ⟨hstate, hworld⟩ := callFunction_of_error hcalled
    exact ⟨hstate, hworld, absurd hcall⟩
  have hkeeps : KeepsOnError state world (statement.perform settings state world) := by
    rw [perform]
    cases hkind : statement.kind with
    | comment => exact keepsOnError_ok _ _ _ _
    | halt => exact keepsOnError_ok _ _ _ _
    | emitOutput => exact keepsOnError_emit state world _
    | debugDump => exact keepsOnError_debug state world _
    | deleteFiles => exact keepsOnError_delete settings state world _
    | exec => exact absurd hkind hexec
    | setModel => exact absurd hkind hmodel
    | callFunction => exact absurd hkind hcall
    | _ => exact keepsOnError_ofChange state world _
  have hsame := hkeeps error (by rw [hperform])
  rw [hperform] at hsame
  cases hsame
  exact ⟨rfl, ⟨world.registry, world.tree, rfl⟩, fun _ => rfl⟩

end Statement

/-! ## Exchanges that heard nothing -/

namespace Exchange

/-- Where nothing was read of the replies, nothing was said. -/
theorem Transcript.after_of_unheard {transcript : Transcript}
    (hunheard : transcript.completions = []) (state : ExecutionState) :
    transcript.after state = state := by
  obtain ⟨hrounds, hreply⟩ := List.append_eq_nil_iff.mp hunheard
  rw [List.map_eq_nil_iff] at hrounds hreply
  have hmessages : transcript.messages = [] := by
    rw [Transcript.messages, hrounds, hreply]
    rfl
  rw [Transcript.after, hmessages, hunheard, List.append_nil]
  rfl

/-- An exchange that fails, and has read nothing of the replies that it took, changes at most the
active model. -/
theorem run_of_unheard {settings : Settings} {statement : Statement} {state next : ExecutionState}
    {world later : World} {error : RunError} (hkind : statement.kind = .exec)
    (hrun : run settings state world = (.error error, next, later))
    (hunheard : statement.Takes settings state world later []) :
    (∃ activeModel activeProvider, next = { state with activeModel, activeProvider }) ∧
      later.output = world.output ∧ later.diagnostics = world.diagnostics := by
  rcases run_follows settings state world with ⟨cause, registry, tree, hrefused⟩ |
    ⟨plan, refreshed, transcript, reached, hmodel, hbackend, hrefresh, hfollows, hnext⟩
  · rw [hrun] at hrefused
    cases hrefused
    exact ⟨⟨_, _, rfl⟩, rfl, rfl⟩
  · rw [hrun] at hfollows hnext
    have hheard := hfollows.takes hkind hmodel hbackend hrefresh
    obtain ⟨-, hresult, hreached, hsends⟩ := hfollows
    obtain rfl : (world.refreshFunctions settings).2 = refreshed := by rw [hrefresh]
    have houtput := congrArg World.output hsends.frame
    have hdiagnostics := congrArg World.diagnostics hsends.frame
    rw [Transcript.after_of_unheard (hheard.unique hunheard)] at hreached
    rw [Ending.bindings_of_error hresult.symm] at hnext
    refine ⟨⟨some plan.model.name, some plan.model.provider, ?_⟩, houtput, hdiagnostics⟩
    change next = _ at hnext
    rw [hnext, hreached]

end Exchange

namespace Engine

/-- A step fails exactly where the statement that it performs does. -/
theorem step_eq_error {settings : Settings} {engine next : Engine} {world later : World}
    {error : StatementError} (hstep : engine.step settings world = (.error error, next, later)) :
    ∃ statement cause state, engine.next? = some statement ∧
      statement.perform settings engine.state world = (.error cause, state, later) ∧
      error = ⟨statement.line, statement.kind, cause⟩ ∧
      next = { engine with state, status := .failed } := by
  refine step_cases settings engine world
    (motive := fun outcome => outcome = (.error error, next, later) →
      ∃ statement cause state, engine.next? = some statement ∧
        statement.perform settings engine.state world = (.error cause, state, later) ∧
        error = ⟨statement.line, statement.kind, cause⟩ ∧
        next = { engine with state, status := .failed }) ?_ ?_ ?_ ?_ hstep
  · intro hstatus hsame
    exact nomatch hsame
  · intro hstatus hnone hsame
    exact nomatch hsame
  · intro statement state after hstatus hcurrent hperform hsame
    exact nomatch hsame
  · intro statement cause state after hstatus hcurrent hperform hsame
    cases hsame
    exact ⟨statement, cause, state, next?_eq_some_iff.mpr ⟨hstatus, hcurrent⟩, hperform, rfl, rfl⟩

/-- A step that fails leaves the engine at the statement that failed and with the status of a
failure, and nothing is shown.  Where the statement is neither an exchange nor the choice of a
model, nothing else of the engine changes, and nothing of the world but what a function call does
to the functions and the files.  An exchange that fails before it could read any reply changes at
most the active model. -/
theorem failed_statement_changes_nothing {settings : Settings} {engine next : Engine}
    {world later : World} {error : StatementError}
    (hstep : engine.step settings world = (.error error, next, later)) :
    ∃ statement, engine.next? = some statement ∧
      error.line = statement.line ∧ error.kind = statement.kind ∧
      (statement.kind ≠ .exec → statement.kind ≠ .setModel →
        next = { engine with status := .failed } ∧
        (∃ registry tree, later = { world with registry, tree }) ∧
        (statement.kind ≠ .callFunction → later = world)) ∧
      (statement.kind = .exec → statement.Takes settings engine.state world later [] →
        (∃ activeModel activeProvider, next = { engine with
          state := { engine.state with activeModel, activeProvider }
          status := .failed }) ∧
        later.output = world.output ∧ later.diagnostics = world.diagnostics) := by
  obtain ⟨statement, cause, state, hnext, hperform, rfl, rfl⟩ := step_eq_error hstep
  refine ⟨statement, hnext, rfl, rfl, ?_, ?_⟩
  · intro hexec hmodel
    obtain ⟨rfl, hworld⟩ := Statement.perform_of_error hexec hmodel hperform
    exact ⟨rfl, hworld⟩
  · intro hkind hunheard
    have hrun : Exchange.run settings engine.state world = (.error cause, state, later) := by
      rw [← hperform]
      simp only [Statement.perform, hkind]
    obtain ⟨⟨activeModel, activeProvider, rfl⟩, hshown⟩ :=
      Exchange.run_of_unheard hkind hrun hunheard
    exact ⟨⟨activeModel, activeProvider, rfl⟩, hshown⟩

/-- An engine about to delete files whose names it cannot read. -/
def clearing : Engine :=
  new "s" [.synthesized .deleteFiles "<<x>>"] ⟨0, 0⟩

/-- The reply that is no text cannot be read. -/
theorem asking_takes_garbled :
    (Statement.synthesized .exec "").Takes .bare asking.state garbled
      (asking.step .bare garbled).2.2 [] := by
  have hprovider : (Exchange.resolveModel .bare asking.state).map Model.provider =
      .ok "OpenAI" := by decide +kernel
  cases hmodel : Exchange.resolveModel .bare asking.state with
  | error error =>
      rw [hmodel] at hprovider
      exact nomatch hprovider
  | ok model =>
      rw [hmodel] at hprovider
      have hbackend : Backend.ofProvider model.provider = .ok (.openAi Backend.OpenAi.openAi) := by
        rw [Except.ok.inj hprovider]
        decide +kernel
      have hreplies : garbled.replies =
          garbled.replies ++ (asking.step .bare garbled).2.2.replies := by decide +kernel
      have hread : ((Backend.openAi Backend.OpenAi.openAi).parseReply
          (.object [("choices", .array [.object [("message",
            .object [("content", .bool true)])]])])).toOption = none := by decide +kernel
      have hunread : Exchange.completions (.openAi Backend.OpenAi.openAi) model
          garbled.replies = [] := by
        rcases hparsed : (Backend.openAi Backend.OpenAi.openAi).parseReply
            (.object [("choices", .array [.object [("message",
              .object [("content", .bool true)])]])]) with error | parsed
        · simp [Exchange.completions, garbled, Backend.decode, Except.bind, Except.map, hparsed,
            Except.toOption]
        · simp [hparsed, Except.toOption] at hread
      rw [← hunread]
      exact .replies rfl hmodel hbackend hreplies

theorem failed_statement_changes_nothing_clearing :
    (∃ error next later, clearing.step .bare .bare = (.error error, next, later) ∧
      error = ⟨0, .deleteFiles, .undefinedVariable "x"⟩ ∧
      next = { clearing with status := .failed } ∧ later = .bare) ∧
    ∃ error next later, asking.step .bare garbled = (.error error, next, later) ∧
      later.replies = [] ∧ next.state.conversation = asking.state.conversation ∧
      next.state.bindings = asking.state.bindings ∧
      next.state.counters = asking.state.counters := by
  constructor
  · rcases hstep : clearing.step .bare .bare with ⟨result, next, later⟩
    have hresult : (clearing.step .bare .bare).1 =
        .error ⟨0, .deleteFiles, .undefinedVariable "x"⟩ := by decide +kernel
    rw [hstep] at hresult
    obtain rfl : result = _ := hresult
    obtain ⟨statement, -, -, hkind, hkept, -⟩ := failed_statement_changes_nothing hstep
    have hdelete : statement.kind = .deleteFiles := hkind.symm
    obtain ⟨hnext, -, hlater⟩ := hkept (by simp [hdelete]) (by simp [hdelete])
    exact ⟨_, next, later, rfl, rfl, hnext, hlater (by simp [hdelete])⟩
  · rcases hstep : asking.step .bare garbled with ⟨result, next, later⟩
    have htakes := asking_takes_garbled
    rw [hstep] at htakes
    have hnone : (asking.step .bare garbled).2.2.replies = [] := by decide +kernel
    have hresult : (asking.step .bare garbled).1 =
        .error ⟨0, .exec, .conversion "OpenAI" "unexpected content value true"⟩ := by
      decide +kernel
    rw [hstep] at hresult hnone
    obtain rfl : result = _ := hresult
    obtain ⟨statement, hnext, -, hkind, -, hunheard⟩ := failed_statement_changes_nothing hstep
    have hstatement : asking.next? = some (.synthesized .exec "") := by decide +kernel
    obtain rfl := Option.some.inj (hstatement.symm.trans hnext)
    obtain ⟨⟨activeModel, activeProvider, hkept⟩, -⟩ := hunheard rfl htakes
    refine ⟨_, next, later, rfl, hnone, ?_, ?_, ?_⟩
    all_goals rw [hkept]

end Engine

end PromptScript
