import PromptScript.Proofs.Engine.Pairing
import PromptScript.Proofs.Session.ReadBack

/-!
# The life of an engine

A step of a running engine performs the statement at its position and moves past it, or fails there.
A run takes such steps as long as the engine runs.  Every one of them shortens what is left of the
program or stops the engine, so a run comes to an end: behind the last statement, behind the first
one that halts, or at the first one that fails.
-/

namespace PromptScript

namespace Program

/-- The statements that a run executes where none of them fails: all up to the first that halts. -/
def untilHalt : List Statement → List Statement
  | [] => []
  | statement :: rest =>
    if statement.kind = .halt then [statement] else statement :: untilHalt rest

/-- The first statement is executed in any case. -/
theorem prefix_untilHalt (statement : Statement) (rest : List Statement) :
    [statement] <+: untilHalt (statement :: rest) := by
  rw [untilHalt]
  split
  · exact List.prefix_rfl
  · exact List.prefix_append [statement] (untilHalt rest)

end Program

namespace Engine

/-! ## Single steps -/

/-- How a step of a running engine goes: nothing is left of the program, or the statement at the
position of the engine succeeds or fails. -/
inductive Stepped (settings : Settings) (engine : Engine) (world : World) :
    Except StatementError RunStatus → Engine → World → Prop
  | ended (hleft : engine.state.statements.length ≤ engine.state.ip) :
      Stepped settings engine world (.ok .completed) { engine with status := .completed } world
  | moved {statement : Statement} {next : ExecutionState} {later : World}
      (hcurrent : engine.state.current? = some statement)
      (hperform : statement.perform settings engine.state world = (.ok (), next, later))
      (hframe : next.statements = engine.state.statements ∧ next.ip = engine.state.ip) :
      Stepped settings engine world
        (.ok (statusAfter statement.kind { next with ip := engine.state.ip + 1 }))
        { engine with
          state := { next with ip := engine.state.ip + 1 }
          status := statusAfter statement.kind { next with ip := engine.state.ip + 1 } } later
  | failed {statement : Statement} {error : RunError} {next : ExecutionState} {later : World}
      (hcurrent : engine.state.current? = some statement)
      (hperform : statement.perform settings engine.state world = (.error error, next, later))
      (hframe : next.statements = engine.state.statements ∧ next.ip = engine.state.ip) :
      Stepped settings engine world (.error ⟨statement.line, statement.kind, error⟩)
        { engine with state := next, status := .failed } later

variable {settings : Settings} {engine next final : Engine} {world later last : World}
  {statement : Statement} {status : RunStatus}

theorem step_stepped (settings : Settings) (world : World) (hstatus : engine.status = .running) :
    Stepped settings engine world (engine.step settings world).1 (engine.step settings world).2.1
      (engine.step settings world).2.2 := by
  cases hcurrent : engine.state.current? with
  | none =>
      rw [step_of_end settings world hstatus hcurrent]
      exact .ended (List.getElem?_eq_none_iff.mp hcurrent)
  | some statement =>
      have hframe := statement.perform_frame settings engine.state world
      rcases hperform : statement.perform settings engine.state world with ⟨error | _, next, later⟩
      all_goals rw [hperform] at hframe
      · rw [step_of_error settings hstatus hcurrent hperform]
        exact .failed hcurrent hperform hframe
      · have hip : next.ip = engine.state.ip := hframe.2
        rw [step_of_ok settings hstatus hcurrent hperform, hip]
        exact .moved hcurrent hperform hframe

/-! ## Statements in order -/

/-- The states and worlds that successful statements lead to, one after another. -/
inductive Performs (settings : Settings) :
    List Statement → ExecutionState → World → ExecutionState → World → Prop
  | nil (state : ExecutionState) (world : World) : Performs settings [] state world state world
  | cons {statement : Statement} {rest : List Statement} {state next final : ExecutionState}
      {world between later : World}
      (hperform : statement.perform settings state world = (.ok (), next, between))
      (hrest : Performs settings rest { next with ip := next.ip + 1 } between final later) :
      Performs settings (statement :: rest) state world final later

namespace Performs

variable {statements : List Statement} {state final : ExecutionState}

/-- Successful statements move the position past them and leave the program as it was. -/
theorem frame (hperforms : Performs settings statements state world final later) :
    final.statements = state.statements ∧ final.ip = state.ip + statements.length := by
  induction hperforms with
  | nil state world => exact ⟨rfl, rfl⟩
  | @cons statement rest state next final world between later hperform hrest ih =>
      have hframe := statement.perform_frame settings state world
      rw [hperform] at hframe
      obtain ⟨hstatements, hip⟩ := hframe
      refine ⟨ih.1.trans hstatements, ?_⟩
      rw [ih.2, List.length_cons]
      change next.ip + 1 + rest.length = _
      rw [hip]
      omega

theorem of_append {first second : List Statement}
    (hperforms : Performs settings (first ++ second) state world final later) :
    ∃ middle between, Performs settings first state world middle between ∧
      Performs settings second middle between final later := by
  induction first generalizing state world with
  | nil => exact ⟨state, world, .nil state world, hperforms⟩
  | cons statement rest ih =>
      cases hperforms with
      | cons hperform hrest =>
          obtain ⟨middle, between, hfirst, hsecond⟩ := ih hrest
          exact ⟨middle, between, .cons hperform hfirst, hsecond⟩

end Performs

/-! ## Runs -/

/-- The statements that are left of the program. -/
def remaining (engine : Engine) : List Statement :=
  engine.state.statements.drop engine.state.ip

/-- How a run goes: the statements that are left succeed one after another up to the first that
halts or to the end, or up to one that fails. -/
inductive Ran (settings : Settings) (engine : Engine) (world : World) :
    Except StatementError RunStatus → Engine → World → Prop
  | completed {reached : ExecutionState} {later : World}
      (hperforms : Performs settings (Program.untilHalt engine.remaining) engine.state world
        reached later) :
      Ran settings engine world (.ok .completed)
        { engine with state := reached, status := .completed } later
  | failed {done : List Statement} {statement : Statement} {error : RunError}
      {reached next : ExecutionState} {between later : World}
      (hdone : done ++ [statement] <+: Program.untilHalt engine.remaining)
      (hperforms : Performs settings done engine.state world reached between)
      (hperform : statement.perform settings reached between = (.error error, next, later))
      (hframe : next.statements = engine.state.statements ∧
        next.ip = engine.state.ip + done.length) :
      Ran settings engine world (.error ⟨statement.line, statement.kind, error⟩)
        { engine with state := next, status := .failed } later

/-- The loop that takes a step as long as the engine runs, with the number of its steps.  It has no
bound of its own. -/
inductive Loops (settings : Settings) :
    Nat → Engine → World → Except StatementError RunStatus → Engine → World → Prop
  | stopped {engine : Engine} (world : World) (hstatus : engine.status ≠ .running) :
      Loops settings 0 engine world (.ok engine.status) engine world
  | failed {engine next : Engine} {world later : World} {error : StatementError}
      (hstatus : engine.status = .running)
      (hstep : engine.step settings world = (.error error, next, later)) :
      Loops settings 1 engine world (.error error) next later
  | step {engine next final : Engine} {world later last : World} {status : RunStatus}
      {result : Except StatementError RunStatus} {steps : Nat}
      (hstatus : engine.status = .running)
      (hstep : engine.step settings world = (.ok status, next, later))
      (hlater : Loops settings steps next later result final last) :
      Loops settings (steps + 1) engine world result final last

theorem remaining_of_current (hcurrent : engine.state.current? = some statement) :
    engine.remaining = statement :: engine.state.statements.drop (engine.state.ip + 1) := by
  obtain ⟨hip, hstatement⟩ := List.getElem?_eq_some_iff.mp hcurrent
  rw [remaining, List.drop_eq_getElem_cons hip, hstatement]

/-- A step that succeeds stops the engine or shortens what is left. -/
theorem length_remaining_of_step (hstatus : engine.status = .running)
    (hstep : engine.step settings world = (.ok status, next, later))
    (hrunning : next.status = .running) :
    next.remaining.length < engine.remaining.length := by
  have hstepped := step_stepped settings world hstatus
  rw [hstep] at hstepped
  cases hstepped with
  | ended hleft => exact nomatch hrunning
  | @moved statement state _ hcurrent hperform hframe =>
      have hstatements : state.statements = engine.state.statements := hframe.1
      rw [remaining_of_current hcurrent, List.length_cons]
      change (state.statements.drop (engine.state.ip + 1)).length < _
      rw [hstatements]
      exact Nat.lt_succ_self _

/-- Where the engine does not run, the loop takes no step. -/
theorem Loops.of_stopped {steps : Nat} {result : Except StatementError RunStatus}
    (hloops : Loops settings steps engine world result final later)
    (hstatus : engine.status ≠ .running) :
    steps = 0 ∧ result = .ok engine.status ∧ final = engine ∧ later = world := by
  cases hloops with
  | stopped world hstopped => exact ⟨rfl, rfl, rfl, rfl⟩
  | failed hrunning hstep => exact absurd hrunning hstatus
  | step hrunning hstep hlater => exact absurd hrunning hstatus

/-- The loop ends behind as many steps as statements are left, and one more. -/
theorem Loops.steps_le {steps : Nat} {result : Except StatementError RunStatus}
    (hloops : Loops settings steps engine world result final later) :
    steps ≤ engine.remaining.length + 1 := by
  induction hloops with
  | stopped world hstatus => exact Nat.zero_le _
  | failed hstatus hstep => exact Nat.le_add_left _ _
  | @step engine next final world later last status result steps hstatus hstep hlater ih =>
      by_cases hrunning : next.status = .running
      · have hshorter := length_remaining_of_step hstatus hstep hrunning
        omega
      · rw [(hlater.of_stopped hrunning).1]
        exact Nat.le_add_left _ _

theorem Loops.status_ne_running {steps : Nat} {result : Except StatementError RunStatus}
    (hloops : Loops settings steps engine world result final later) :
    final.status ≠ .running := by
  induction hloops with
  | stopped world hstatus => exact hstatus
  | @failed engine next world later error hstatus hstep =>
      have hstepped := step_stepped settings world hstatus
      rw [hstep] at hstepped
      cases hstepped with
      | failed hcurrent hperform hframe => simp
  | step hstatus hstep hlater ih => exact ih

/-- A statement in front of a run. -/
theorem Ran.cons {state : ExecutionState} {result : Except StatementError RunStatus}
    (hcurrent : engine.state.current? = some statement)
    (hperform : statement.perform settings engine.state world = (.ok (), state, later))
    (hframe : state.statements = engine.state.statements ∧ state.ip = engine.state.ip)
    (hkind : statement.kind ≠ .halt) {status : RunStatus}
    (hran : Ran settings { engine with state := { state with ip := engine.state.ip + 1 }, status }
      later result final last) : Ran settings engine world result final last := by
  obtain ⟨hstatements, hip⟩ := hframe
  have hleft : Program.untilHalt engine.remaining =
      statement :: Program.untilHalt (state.statements.drop (engine.state.ip + 1)) := by
    rw [remaining_of_current hcurrent, Program.untilHalt, if_neg hkind, hstatements]
  have hcons : ∀ {statements reached between},
      Performs settings statements { state with ip := engine.state.ip + 1 } later reached between →
        Performs settings (statement :: statements) engine.state world reached between := by
    intro statements reached between hperforms
    refine .cons hperform ?_
    rw [hip]
    exact hperforms
  cases hran with
  | completed hperforms =>
      refine .completed ?_
      rw [hleft]
      exact hcons hperforms
  | @failed done failing error reached next between _ hdone hperforms hfails hframe =>
      refine .failed ?_ (hcons hperforms) hfails ⟨hframe.1.trans hstatements, ?_⟩
      · rw [hleft, List.cons_append]
        exact List.cons_prefix_cons.mpr ⟨rfl, hdone⟩
      · rw [hframe.2, List.length_cons]
        change engine.state.ip + 1 + done.length = _
        omega

/-- Behind a statement that halts, and behind the last one, a run is completed. -/
theorem Ran.ending {state : ExecutionState} (hcurrent : engine.state.current? = some statement)
    (hperform : statement.perform settings engine.state world = (.ok (), state, later))
    (hframe : state.statements = engine.state.statements ∧ state.ip = engine.state.ip)
    (hends : statement.kind = .halt ∨
      ({ state with ip := engine.state.ip + 1 } : ExecutionState).isFinished) :
    Ran settings engine world (.ok .completed)
      { engine with state := { state with ip := engine.state.ip + 1 }, status := .completed }
      later := by
  obtain ⟨hstatements, hip⟩ := hframe
  refine .completed ?_
  have honly : Program.untilHalt engine.remaining = [statement] := by
    rw [remaining_of_current hcurrent, Program.untilHalt]
    by_cases hkind : statement.kind = .halt
    · rw [if_pos hkind]
    · have hfinished : state.statements.length ≤ engine.state.ip + 1 := by
        simpa [ExecutionState.isFinished] using hends.resolve_left hkind
      rw [if_neg hkind, List.drop_eq_nil_iff.mpr (hstatements ▸ hfinished)]
      rfl
  rw [honly]
  refine .cons hperform ?_
  rw [hip]
  exact .nil _ _

/-- The loop executes what is left, statement after statement.  The induction is on its steps. -/
theorem Loops.ran {steps : Nat} {result : Except StatementError RunStatus}
    (hloops : Loops settings steps engine world result final later)
    (hstatus : engine.status = .running) : Ran settings engine world result final later := by
  induction hloops with
  | stopped world hstopped => exact absurd hstatus hstopped
  | @failed engine next world later error hrunning hstep =>
      have hstepped := step_stepped settings world hstatus
      rw [hstep] at hstepped
      cases hstepped with
      | @failed statement cause state _ hcurrent hperform hframe =>
          refine .failed ?_ (.nil _ _) hperform hframe
          rw [remaining_of_current hcurrent]
          exact Program.prefix_untilHalt _ _
  | @step engine next final world later last status result steps hrunning hstep hlater ih =>
      have hstepped := step_stepped settings world hstatus
      rw [hstep] at hstepped
      cases hstepped with
      | ended hleft =>
          obtain ⟨-, rfl, rfl, rfl⟩ := hlater.of_stopped (by simp)
          refine .completed ?_
          rw [remaining, List.drop_eq_nil_iff.mpr hleft]
          exact .nil _ _
      | @moved statement state _ hcurrent hperform hframe =>
          by_cases hgoes : statement.kind = .halt ∨
              ({ state with ip := engine.state.ip + 1 } : ExecutionState).isFinished
          · rw [statusAfter, if_pos hgoes] at hlater
            obtain ⟨-, rfl, rfl, rfl⟩ := hlater.of_stopped (by simp)
            exact Ran.ending hcurrent hperform hframe hgoes
          · rw [statusAfter, if_neg hgoes] at ih
            exact Ran.cons hcurrent hperform hframe (fun hkind => hgoes (.inl hkind)) (ih rfl)

/-- With a count for every statement that is left and one more, the loop comes to its end. -/
theorem loops_runFor (settings : Settings) {count : Nat} {engine : Engine} (world : World)
    (hcount : engine.remaining.length < count) :
    ∃ steps, Loops settings steps engine world (engine.runFor settings count world).1
      (engine.runFor settings count world).2.1 (engine.runFor settings count world).2.2 := by
  induction count generalizing engine world with
  | zero => exact absurd hcount (Nat.not_lt_zero _)
  | succ count ih =>
      by_cases hstatus : engine.status = .running
      · rcases hstep : engine.step settings world with ⟨error | status, next, later⟩
        · rw [runFor_of_step_error count hstatus hstep]
          exact ⟨1, .failed hstatus hstep⟩
        · rw [runFor_of_step_ok count hstatus hstep]
          obtain ⟨steps, hlater⟩ : ∃ steps, Loops settings steps next later
              (next.runFor settings count later).1 (next.runFor settings count later).2.1
              (next.runFor settings count later).2.2 := by
            by_cases hrunning : next.status = .running
            · have hshorter := length_remaining_of_step hstatus hstep hrunning
              exact ih later (by omega)
            · rw [runFor_of_stopped settings count later hrunning]
              exact ⟨0, .stopped later hrunning⟩
          exact ⟨steps + 1, .step hstatus hstep hlater⟩
      · rw [runFor_of_stopped settings (count + 1) world hstatus]
        exact ⟨0, .stopped world hstatus⟩

theorem run_loops (settings : Settings) (engine : Engine) (world : World) :
    ∃ steps, steps ≤ engine.state.statements.length - engine.state.ip + 1 ∧
      Loops settings steps engine world (engine.run settings world).1
        (engine.run settings world).2.1 (engine.run settings world).2.2 := by
  have hlength : engine.remaining.length =
      engine.state.statements.length - engine.state.ip := List.length_drop
  obtain ⟨steps, hloops⟩ := loops_runFor settings world
    (show engine.remaining.length < engine.state.statements.length - engine.state.ip + 1 by omega)
  exact ⟨steps, hlength ▸ hloops.steps_le, hloops⟩

/-- A run that succeeds executes what is left of the program, up to the first statement that
halts. -/
theorem run_performs (hstatus : engine.status = .running)
    (hrun : engine.run settings world = (.ok status, final, later)) :
    Performs settings
      (Program.untilHalt (engine.state.statements.drop engine.state.ip)) engine.state world
      final.state later := by
  obtain ⟨steps, -, hloops⟩ := run_loops settings engine world
  rw [hrun] at hloops
  cases hloops.ran hstatus with
  | completed hperforms => exact hperforms

/-- A record that was read has its position in its program or at its end. -/
theorem ip_le_of_parse {text : String} {record : SessionRecord}
    (hparse : SessionRecord.parse text = .ok record) :
    record.state.ip ≤ record.state.statements.length := by
  obtain ⟨-, -, -, hposition⟩ := SessionRecord.parse_eq_ok hparse
  exact hposition

/-- The position of an engine stays in its program or at its end, also in what its records restore.
A step of an engine that does not run changes nothing, and a step of one that runs performs the
statement at the position.  A run is the loop of such steps: it ends behind a bounded number of
them, having performed the statements that were left one after another, up to the first that halts
or fails.  An engine that failed takes no further statements. -/
theorem engine_keeps_its_place {intake : Intake} {engine : Engine}
    (hengine : Reachable intake engine) :
    engine.state.ip ≤ engine.state.statements.length ∧
    (∀ now record, SessionRecord.parse (engine.snapshot now).render = .ok record →
      (restore record).state.ip ≤ (restore record).state.statements.length) ∧
    (engine.status ≠ .running → ∀ settings world,
      engine.step settings world = (.ok engine.status, engine, world)) ∧
    (engine.status = .running → ∀ settings world,
      Stepped settings engine world (engine.step settings world).1
        (engine.step settings world).2.1 (engine.step settings world).2.2) ∧
    (engine.status = .running → ∀ settings world,
      (∃ steps, steps ≤ engine.state.statements.length - engine.state.ip + 1 ∧
        Loops settings steps engine world (engine.run settings world).1
          (engine.run settings world).2.1 (engine.run settings world).2.2) ∧
      Ran settings engine world (engine.run settings world).1
        (engine.run settings world).2.1 (engine.run settings world).2.2 ∧
      (engine.run settings world).2.1.status ≠ .running) ∧
    (engine.status = .failed → ∀ statements,
      engine.extend statements = .error (.notRunning "failed")) := by
  refine ⟨hengine.ip_le, ?_, ?_, ?_, ?_, ?_⟩
  · intro now record hparse
    exact ip_le_of_parse hparse
  · intro hstatus settings world
    exact step_of_stopped settings world hstatus
  · intro hstatus settings world
    exact step_stepped settings world hstatus
  · intro hstatus settings world
    obtain ⟨steps, hsteps, hloops⟩ := run_loops settings engine world
    exact ⟨⟨steps, hsteps, hloops⟩, hloops.ran hstatus, hloops.status_ne_running⟩
  · intro hstatus statements
    rw [extend, if_pos hstatus, hstatus]
    rfl

/-- A program whose second statement names a variable that has no value. -/
def stumbling : Engine :=
  new "s" [.synthesized .userMessage "hi", .synthesized .userMessage "<<x>>",
    .synthesized .halt ""] ⟨0, 0⟩

theorem engine_keeps_its_place_stumbling :
    stumbling.state.ip ≤ 3 ∧
      ∃ steps result failed later, steps ≤ 4 ∧
        Loops .bare steps stumbling .bare result failed later ∧
        result = .error ⟨0, .userMessage, .undefinedVariable "x"⟩ ∧ failed.state.ip = 1 ∧
        (failed.step .bare .bare).2.1 = failed ∧
        failed.extend [.synthesized .userMessage "again"] = .error (.notRunning "failed") := by
  have hengine : Reachable .unwritten stumbling := by
    refine .new "s" ?_ trivial
    simp [Intake.unwritten, Statement.synthesized]
  obtain ⟨hip, -, -, -, hrun, -⟩ := engine_keeps_its_place hengine
  obtain ⟨⟨steps, hsteps, hloops⟩, -, -⟩ := hrun rfl .bare .bare
  obtain ⟨hresult, hposition, hstatus⟩ :
      (stumbling.run .bare .bare).1 = .error ⟨0, .userMessage, .undefinedVariable "x"⟩ ∧
      (stumbling.run .bare .bare).2.1.state.ip = 1 ∧
      (stumbling.run .bare .bare).2.1.status = .failed := by decide +kernel
  have hfailed : Reachable .unwritten (stumbling.run .bare .bare).2.1 :=
    hengine.run .bare fun _ _ => trivial
  obtain ⟨-, -, hstays, -, -, hrefuses⟩ := engine_keeps_its_place hfailed
  refine ⟨hip, steps, _, _, _, hsteps, hloops, hresult, hposition, ?_, hrefuses hstatus _⟩
  rw [hstays (by simp [hstatus])]

end Engine

end PromptScript
