import PromptScript.Engine.Basic
import PromptScript.Proofs.Engine.Perform

/-!
# Reachable engines

The engines that come about from new ones by everything that a caller can do: steps in any settings
and any world, variables that are set between steps, further statements, suspension, storing and
restoring.  What is known of the statements, values and instants that enter from outside is known of
everything that an engine holds.
-/

namespace PromptScript

open Json (Inherited Ordered)

/-- What enters a run from outside: statements of programs, values of variables and replies, and
instants. -/
structure Intake where
  statement : Statement → Prop
  value : Json → Prop
  moment : Timestamp → Prop

namespace Engine

/-- The engines that come about from new ones while all that enters satisfies an intake. -/
inductive Reachable (intake : Intake) : Engine → Prop
  | new (sessionId : String) {statements : List Statement} {now : Timestamp}
      (hstatements : ∀ statement ∈ statements, intake.statement statement)
      (hnow : intake.moment now) : Reachable intake (.new sessionId statements now)
  | withFilename {engine : Engine} (filename : String) (hengine : Reachable intake engine) :
      Reachable intake (engine.withFilename filename)
  | setVariable {engine next : Engine} {name : String} {value : Json}
      (hengine : Reachable intake engine) (hvalue : intake.value value)
      (hset : engine.setVariable name value = .ok next) : Reachable intake next
  | step {engine : Engine} {world : World} (settings : Settings)
      (hengine : Reachable intake engine) (hworld : world.Brings intake.value) :
      Reachable intake (engine.step settings world).2.1
  | suspend {engine : Engine} (hengine : Reachable intake engine) :
      Reachable intake engine.suspend
  | extend {engine next : Engine} {statements : List Statement}
      (hengine : Reachable intake engine)
      (hstatements : ∀ statement ∈ statements, intake.statement statement)
      (hextend : engine.extend statements = .ok next) : Reachable intake next
  | persist {engine : Engine} (store : SessionStore) (tree : FileTree)
      (hengine : Reachable intake engine) : Reachable intake (engine.persist store tree).2.1
  | restore {engine : Engine} (now : Timestamp) (hengine : Reachable intake engine) :
      Reachable intake (.restore (engine.snapshot now))

/-! ## Steps -/

section Steps

variable (settings : Settings) {engine : Engine} {world later : World} {next : ExecutionState}
  {statement : Statement}

theorem step_of_stopped (world : World) (hstatus : engine.status ≠ .running) :
    engine.step settings world = (.ok engine.status, engine, world) := by
  rw [step, if_pos hstatus]

theorem step_of_end (world : World) (hstatus : engine.status = .running)
    (hcurrent : engine.state.current? = none) :
    engine.step settings world = (.ok .completed, { engine with status := .completed }, world) := by
  rw [step, if_neg (not_not.mpr hstatus), hcurrent]

theorem step_of_ok (hstatus : engine.status = .running)
    (hcurrent : engine.state.current? = some statement)
    (hperform : statement.perform settings engine.state world = (.ok (), next, later)) :
    engine.step settings world =
      (.ok (statusAfter statement.kind { next with ip := next.ip + 1 }),
        { engine with
          state := { next with ip := next.ip + 1 }
          status := statusAfter statement.kind { next with ip := next.ip + 1 } }, later) := by
  rw [step, if_neg (not_not.mpr hstatus), hcurrent]
  simp only [hperform]

theorem step_of_error {error : RunError} (hstatus : engine.status = .running)
    (hcurrent : engine.state.current? = some statement)
    (hperform : statement.perform settings engine.state world = (.error error, next, later)) :
    engine.step settings world =
      (.error ⟨statement.line, statement.kind, error⟩,
        { engine with state := next, status := .failed }, later) := by
  rw [step, if_neg (not_not.mpr hstatus), hcurrent]
  simp only [hperform]

end Steps

/-- What holds of a step follows from what holds of an engine that does not run, of one at the end
of its program, and behind a statement that succeeds or fails. -/
theorem step_cases (settings : Settings) (engine : Engine) (world : World)
    {motive : Except StatementError RunStatus × Engine × World → Prop}
    (hstopped : engine.status ≠ .running → motive (.ok engine.status, engine, world))
    (hend : engine.status = .running → engine.state.current? = none →
      motive (.ok .completed, { engine with status := .completed }, world))
    (hdone : ∀ {statement next later}, engine.status = .running →
      engine.state.current? = some statement →
      statement.perform settings engine.state world = (.ok (), next, later) →
        motive (.ok (statusAfter statement.kind { next with ip := next.ip + 1 }),
          { engine with
            state := { next with ip := next.ip + 1 }
            status := statusAfter statement.kind { next with ip := next.ip + 1 } }, later))
    (hfailed : ∀ {statement error next later}, engine.status = .running →
      engine.state.current? = some statement →
      statement.perform settings engine.state world = (.error error, next, later) →
        motive (.error ⟨statement.line, statement.kind, error⟩,
          { engine with state := next, status := .failed }, later)) :
    motive (engine.step settings world) := by
  by_cases hstatus : engine.status = .running
  · cases hcurrent : engine.state.current? with
    | none =>
        rw [step_of_end settings world hstatus hcurrent]
        exact hend hstatus hcurrent
    | some statement =>
        rcases hperform : statement.perform settings engine.state world with
          ⟨error | _, next, later⟩
        · rw [step_of_error settings hstatus hcurrent hperform]
          exact hfailed hstatus hcurrent hperform
        · rw [step_of_ok settings hstatus hcurrent hperform]
          exact hdone hstatus hcurrent hperform
  · rw [step_of_stopped settings world hstatus]
    exact hstopped hstatus

theorem runFor_of_stopped (settings : Settings) (count : Nat) {engine : Engine} (world : World)
    (hstatus : engine.status ≠ .running) :
    engine.runFor settings count world = (.ok engine.status, engine, world) := by
  cases count with
  | zero => rfl
  | succ count => rw [runFor, if_neg hstatus]

theorem runFor_of_step_ok {settings : Settings} {engine next : Engine} {world later : World}
    {status : RunStatus} (count : Nat) (hstatus : engine.status = .running)
    (hstep : engine.step settings world = (.ok status, next, later)) :
    engine.runFor settings (count + 1) world = next.runFor settings count later := by
  rw [runFor, if_pos hstatus, hstep]

theorem runFor_of_step_error {settings : Settings} {engine next : Engine} {world later : World}
    {error : StatementError} (count : Nat) (hstatus : engine.status = .running)
    (hstep : engine.step settings world = (.error error, next, later)) :
    engine.runFor settings (count + 1) world = (.error error, next, later) := by
  rw [runFor, if_pos hstatus, hstep]

theorem step_replies (settings : Settings) (engine : Engine) (world : World) :
    (engine.step settings world).2.2.replies ⊆ world.replies := by
  have hlater : ∀ {statement : Statement} {result next later},
      statement.perform settings engine.state world = (result, next, later) →
        later.replies ⊆ world.replies := by
    intro statement result next later hrun
    have hreplies := statement.perform_replies settings engine.state world
    rw [hrun] at hreplies
    exact hreplies
  refine step_cases settings engine world
    (motive := fun outcome => outcome.2.2.replies ⊆ world.replies) ?_ ?_ ?_ ?_
  · intro hstatus
    exact List.Subset.refl _
  · intro hstatus hcurrent
    exact List.Subset.refl _
  · intro statement next later hstatus hcurrent hrun
    exact hlater hrun
  · intro statement error next later hstatus hcurrent hrun
    exact hlater hrun

/-- Storing a run changes nothing but its revision. -/
theorem persist_eq (store : SessionStore) (engine : Engine) (tree : FileTree) :
    ∃ revision, (engine.persist store tree).2.1 = { engine with revision } := by
  unfold persist
  split
  next record hsave => exact ⟨_, rfl⟩
  next error hsave => exact ⟨_, rfl⟩

/-- Setting a variable changes nothing but the bindings. -/
theorem setVariable_eq {engine next : Engine} {name : String} {value : Json}
    (hset : engine.setVariable name value = .ok next) :
    ∃ bindings, engine.state.bindings.set name value = .ok bindings ∧
      next = { engine with state := { engine.state with bindings } } := by
  simp only [setVariable, ExecutionState.assign, Attempt.bind_eq_ok_iff,
    Attempt.pure_eq_ok_iff] at hset
  obtain ⟨state, ⟨bindings, hbindings, rfl⟩, rfl⟩ := hset
  exact ⟨bindings, hbindings, rfl⟩

/-- Extending an engine that did not fail appends to its program. -/
theorem extend_eq {engine next : Engine} {statements : List Statement}
    (hextend : engine.extend statements = .ok next) :
    engine.status ≠ .failed ∧ ∃ status, next = { engine with
      state := { engine.state with statements := engine.state.statements ++ statements }
      status } := by
  unfold extend at hextend
  split at hextend
  next => exact nomatch hextend
  next hstatus =>
    cases hextend
    exact ⟨hstatus, _, rfl⟩

theorem suspend_eq (engine : Engine) : ∃ status, engine.suspend = { engine with status } := by
  unfold suspend
  split
  · exact ⟨_, rfl⟩
  · exact ⟨_, rfl⟩

namespace Reachable

variable {intake : Intake} {engine : Engine}

/-- Running a reachable engine leaves a reachable one, in whatever way the run ends. -/
theorem run (hengine : Reachable intake engine) (settings : Settings) {world : World}
    (hworld : world.Brings intake.value) :
    Reachable intake (engine.run settings world).2.1 := by
  have hfor : ∀ count engine world, Reachable intake engine → world.Brings intake.value →
      Reachable intake (engine.runFor settings count world).2.1 := by
    intro count
    induction count with
    | zero =>
        intro engine world hengine hworld
        exact hengine
    | succ count ih =>
        intro engine world hengine hworld
        rw [runFor]
        split
        next hstatus =>
          have hstep := hengine.step settings hworld
          have hreplies := step_replies settings engine world
          split
          next next later hnext =>
            rw [hnext] at hstep hreplies
            exact ih next later hstep (hworld.mono hreplies)
          next => exact hstep
        next => exact hengine
  exact hfor _ engine world hengine hworld

/-- What holds of new states, and what statements, assignments, moving on and further statements
keep, holds of every reachable state, along with what is known of the statements. -/
theorem state_induction {motive : ExecutionState → Prop}
    (hnew : ∀ {sessionId statements}, (∀ statement ∈ statements, intake.statement statement) →
      motive (.initial sessionId statements))
    (hfilename : ∀ {state filename}, motive state → motive { state with filename })
    (hassign : ∀ {state name value bindings}, motive state → intake.value value →
      state.bindings.set name value = .ok bindings → motive { state with bindings })
    (hperform : ∀ (settings : Settings) {state statement world}, motive state →
      intake.statement statement → world.Brings intake.value →
        motive (statement.perform settings state world).2.1)
    (hmove : ∀ {state}, motive state → state.ip < state.statements.length →
      motive { state with ip := state.ip + 1 })
    (hextend : ∀ {state statements}, motive state →
      (∀ statement ∈ statements, intake.statement statement) →
        motive { state with statements := state.statements ++ statements })
    (hengine : Reachable intake engine) :
    motive engine.state ∧ ∀ statement ∈ engine.state.statements, intake.statement statement := by
  induction hengine with
  | new sessionId hstatements hnow => exact ⟨hnew hstatements, hstatements⟩
  | withFilename filename hengine ih => exact ⟨hfilename ih.1, ih.2⟩
  | setVariable hengine hvalue hset ih =>
      obtain ⟨bindings, hbindings, rfl⟩ := setVariable_eq hset
      exact ⟨hassign ih.1 hvalue hbindings, ih.2⟩
  | @step engine world settings hengine hworld ih =>
      obtain ⟨hstate, hstatements⟩ := ih
      have hafter : ∀ {statement result next later}, engine.state.current? = some statement →
          statement.perform settings engine.state world = (result, next, later) →
            motive next ∧ next.statements = engine.state.statements ∧ next.ip = engine.state.ip := by
        intro statement result next later hcurrent hrun
        have hnext := hperform settings hstate
          (hstatements statement (List.mem_of_getElem? hcurrent)) hworld
        have hframe := statement.perform_frame settings engine.state world
        rw [hrun] at hnext hframe
        exact ⟨hnext, hframe⟩
      refine step_cases settings engine world
        (motive := fun outcome => motive outcome.2.1.state ∧
          ∀ statement ∈ outcome.2.1.state.statements, intake.statement statement) ?_ ?_ ?_ ?_
      · intro hstatus
        exact ⟨hstate, hstatements⟩
      · intro hstatus hcurrent
        exact ⟨hstate, hstatements⟩
      · intro statement next later hstatus hcurrent hrun
        obtain ⟨hnext, hsame, hip⟩ := hafter hcurrent hrun
        refine ⟨hmove hnext ?_, ?_⟩
        · rw [hsame, hip]
          exact (List.getElem?_eq_some_iff.mp hcurrent).1
        · simp only [hsame]
          exact hstatements
      · intro statement error next later hstatus hcurrent hrun
        obtain ⟨hnext, hsame, hip⟩ := hafter hcurrent hrun
        refine ⟨hnext, ?_⟩
        simp only [hsame]
        exact hstatements
  | suspend hengine ih =>
      obtain ⟨status, hsuspend⟩ := suspend_eq _
      rw [hsuspend]
      exact ih
  | extend hengine hstatements hnext ih =>
      obtain ⟨-, status, rfl⟩ := extend_eq hnext
      refine ⟨hextend ih.1 hstatements, ?_⟩
      intro statement hmem
      rcases List.mem_append.mp hmem with hold | hnew
      · exact ih.2 statement hold
      · exact hstatements statement hnew
  | persist store tree hengine ih =>
      obtain ⟨revision, hpersist⟩ := persist_eq store _ tree
      rw [hpersist]
      exact ih
  | restore now hengine ih => exact ih

/-- The position of a reachable engine lies in its program or at its end. -/
theorem ip_le (hengine : Reachable intake engine) :
    engine.state.ip ≤ engine.state.statements.length := by
  refine (state_induction (motive := fun state => state.ip ≤ state.statements.length)
    ?_ ?_ ?_ ?_ ?_ ?_ hengine).1
  · intro sessionId statements hstatements
    exact Nat.zero_le _
  · intro state filename hstate
    exact hstate
  · intro state name value bindings hstate hvalue hset
    exact hstate
  · intro settings state statement world hstate hstatement hworld
    obtain ⟨hstatements, hip⟩ := statement.perform_frame settings state world
    rw [hstatements, hip]
    exact hstate
  · intro state hstate hip
    exact hip
  · intro state statements hstate hstatements
    simp only [List.length_append]
    omega

/-- A reachable engine was created at an instant that came in from outside. -/
theorem createdAt (hengine : Reachable intake engine) : intake.moment engine.createdAt := by
  induction hengine with
  | new sessionId hstatements hnow => exact hnow
  | withFilename filename hengine ih => exact ih
  | setVariable hengine hvalue hset ih =>
      obtain ⟨bindings, -, rfl⟩ := setVariable_eq hset
      exact ih
  | @step engine world settings hengine hworld ih =>
      refine step_cases settings engine world
        (motive := fun outcome => intake.moment outcome.2.1.createdAt) ?_ ?_ ?_ ?_
      all_goals
        intros
        exact ih
  | suspend hengine ih =>
      obtain ⟨status, hsuspend⟩ := suspend_eq _
      rw [hsuspend]
      exact ih
  | extend hengine hstatements hnext ih =>
      obtain ⟨-, status, rfl⟩ := extend_eq hnext
      exact ih
  | persist store tree hengine ih =>
      obtain ⟨revision, hpersist⟩ := persist_eq store _ tree
      rw [hpersist]
      exact ih
  | restore now hengine ih => exact ih

end Reachable

end Engine

end PromptScript
