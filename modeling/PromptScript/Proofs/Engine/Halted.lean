import PromptScript.Proofs.Session.Resumption

/-!
# Going on behind a statement that halts

A run that halted stands just behind the statement that halted.  Further statements are appended at
the end of its program, so a run that goes on executes what was left of the old program before it
comes to them, be it the live run or one that was restored.
-/

namespace PromptScript.Engine

open Json (FloatReadsBack)

/-- The statement that the next step executes. -/
def next? (engine : Engine) : Option Statement :=
  if engine.status = .running then engine.state.current? else none

/-- What any number of further steps executes: the positions of the statements, one after another.
Every step has settings and a world of its own. -/
inductive Executes : Engine → List Nat → Engine → Prop
  | done (engine : Engine) : Executes engine [] engine
  | idle {engine final : Engine} {positions : List Nat} (settings : Settings) (world : World)
      (hnext : engine.next? = none)
      (hlater : Executes (engine.step settings world).2.1 positions final) :
      Executes engine positions final
  | perform {engine final : Engine} {positions : List Nat} {statement : Statement}
      (settings : Settings) (world : World) (hnext : engine.next? = some statement)
      (hlater : Executes (engine.step settings world).2.1 positions final) :
      Executes engine (engine.state.ip :: positions) final

/-- The engines that go on with a run: the engine itself, what a record of it restores, and what is
restored from the text of such a record. -/
inductive ResumedAs (engine : Engine) : Engine → Prop
  | live : ResumedAs engine engine
  | restored (now : Timestamp) : ResumedAs engine (restore (engine.snapshot now))
  | stored {now : Timestamp} {record : SessionRecord} (hengine : Reachable .wellFormed engine)
      (hlength : engine.state.statements.length < 0x10000000000000000) (hnow : now.Writable)
      (hfloats : (engine.snapshot now).toJson.EachNumber FloatReadsBack)
      (hrecord : SessionRecord.parse (engine.snapshot now).render = .ok record) :
      ResumedAs engine (restore record)

variable {engine final resumed : Engine} {statement : Statement} {positions : List Nat}

/-! ## What steps execute -/

theorem next?_eq_some_iff : engine.next? = some statement ↔
    engine.status = .running ∧ engine.state.current? = some statement := by
  by_cases hstatus : engine.status = .running <;> simp [next?, hstatus]

/-- A step that executes nothing leaves the state as it was. -/
theorem step_of_idle (settings : Settings) (world : World) (hnext : engine.next? = none) :
    (engine.step settings world).2.1.state = engine.state ∧
      (engine.step settings world).2.1.next? = none := by
  by_cases hstatus : engine.status = .running
  · have hcurrent : engine.state.current? = none := by simpa [next?, hstatus] using hnext
    rw [step_of_end settings world hstatus hcurrent]
    exact ⟨rfl, by simp [next?]⟩
  · rw [step_of_stopped settings world hstatus]
    exact ⟨rfl, hnext⟩

/-- Behind a step that executes a statement either the run failed at it, or the position moved past
it.  The program stays the same. -/
theorem step_of_next (settings : Settings) (world : World) (hnext : engine.next? = some statement) :
    (engine.step settings world).2.1.state.statements = engine.state.statements ∧
      ((engine.step settings world).2.1.next? = none ∨
        (engine.step settings world).2.1.state.ip = engine.state.ip + 1) := by
  obtain ⟨hstatus, hcurrent⟩ := next?_eq_some_iff.mp hnext
  have hframe := statement.perform_frame settings engine.state world
  rcases hperform : statement.perform settings engine.state world with ⟨error | _, next, later⟩
  all_goals
    rw [hperform] at hframe
    obtain ⟨hstatements, hip⟩ := hframe
  · rw [step_of_error settings hstatus hcurrent hperform]
    exact ⟨hstatements, .inl (by simp [next?])⟩
  · rw [step_of_ok settings hstatus hcurrent hperform]
    exact ⟨hstatements, .inr (by simpa using hip)⟩

theorem Executes.of_idle (hexecutes : Executes engine positions final)
    (hnext : engine.next? = none) : positions = [] := by
  induction hexecutes with
  | done engine => rfl
  | idle settings world hidle hlater ih => exact ih (step_of_idle settings world hidle).2
  | perform settings world hsome hlater ih =>
      rw [hnext] at hsome
      exact nomatch hsome

/-- Steps execute the statements of the program in order, from the position of the engine on and
without leaving one out. -/
theorem Executes.in_order (hexecutes : Executes engine positions final) :
    positions = List.range' engine.state.ip positions.length := by
  induction hexecutes with
  | done engine => rfl
  | idle settings world hidle hlater ih =>
      rw [(step_of_idle settings world hidle).1] at ih
      exact ih
  | @perform engine final positions statement settings world hnext hlater ih =>
      rw [List.length_cons, List.range'_succ]
      rcases (step_of_next settings world hnext).2 with hfailed | hmoved
      · rw [hlater.of_idle hfailed]
        rfl
      · rw [hmoved] at ih
        rw [← ih]

/-! ## Going on -/

/-- Whatever goes on with a run is that run, up to its status: it may run again. -/
theorem ResumedAs.eq (hresumed : ResumedAs engine resumed) :
    resumed = engine ∨ resumed = { engine with status := .running } := by
  cases hresumed with
  | live => exact .inl rfl
  | restored now => exact .inr rfl
  | stored hengine hlength hnow hfloats hrecord =>
      exact .inr (restore_of_parse hengine hlength hnow hfloats hrecord)

/-- A run that goes on with further statements executes first what was left of its program. -/
theorem ResumedAs.extend (hresumed : ResumedAs engine resumed)
    (hstatus : engine.status = .completed)
    (hip : engine.state.ip ≤ engine.state.statements.length) (statements : List Statement) :
    ∃ going, resumed.extend statements = .ok going ∧ going.state = engine.extended statements ∧
      going.next? = (engine.state.statements.drop engine.state.ip ++ statements).head? := by
  have hcurrent : (engine.extended statements).current? =
      (engine.state.statements.drop engine.state.ip ++ statements).head? := by
    rw [← List.drop_append_of_le_length hip, List.head?_drop]
    rfl
  have hfailed : resumed.status ≠ .failed := by
    rcases hresumed.eq with rfl | rfl <;> simp [hstatus]
  have hsame : resumed.extended statements = engine.extended statements := by
    rcases hresumed.eq with rfl | rfl <;> rfl
  refine ⟨_, extend_of_ok hfailed statements, hsame, ?_⟩
  rw [← hcurrent, hsame]
  cases hfinished : (engine.extended statements).isFinished with
  | false => simp [next?]
  | true =>
      -- Nothing is left, so it does not matter whether the engine runs.
      have hnone : (engine.extended statements).current? = none := by
        rw [ExecutionState.current?, List.getElem?_eq_none_iff]
        simpa [ExecutionState.isFinished] using hfinished
      simp [next?, hnone]

/-- A statement that halts completes the run behind itself and changes nothing else. -/
theorem step_of_halt (settings : Settings) (world : World) (hstatus : engine.status = .running)
    (hcurrent : engine.state.current? = some statement) (hkind : statement.kind = .halt) :
    (engine.step settings world).2.1 =
      { engine with
        state := { engine.state with ip := engine.state.ip + 1 }
        status := .completed } := by
  have hperform : statement.perform settings engine.state world =
      (.ok (), engine.state, world) := by
    simp only [Statement.perform, hkind]
  rw [step_of_ok settings hstatus hcurrent hperform]
  simp [statusAfter, hkind]

/-- A run that halted and goes on with further statements, live or restored, executes the statements
behind the one that halted, in order: what was left of the old program and then the further
statements.  So no statement of the old program is executed any more, whatever steps are taken,
exactly if the statement that halted was its last. -/
theorem halted_run_goes_on_behind_halt {engine : Engine} {statement : Statement}
    (hstatus : engine.status = .running) (hcurrent : engine.state.current? = some statement)
    (hkind : statement.kind = .halt) (settings : Settings) (world : World) {resumed : Engine}
    (hresumed : ResumedAs (engine.step settings world).2.1 resumed)
    (statements : List Statement) :
    ∃ going, resumed.extend statements = .ok going ∧
      going.state.statements = engine.state.statements ++ statements ∧
      going.next? =
        (engine.state.statements.drop (engine.state.ip + 1) ++ statements).head? ∧
      (∀ positions final, Executes going positions final →
        positions = List.range' (engine.state.ip + 1) positions.length) ∧
      ((∀ positions final, Executes going positions final →
          ∀ position ∈ positions, engine.state.statements.length ≤ position) ↔
        engine.state.ip + 1 = engine.state.statements.length) := by
  rw [step_of_halt settings world hstatus hcurrent hkind] at hresumed
  have hip : engine.state.ip + 1 ≤ engine.state.statements.length :=
    (List.getElem?_eq_some_iff.mp hcurrent).1
  obtain ⟨going, hextend, hstate, hnext⟩ := hresumed.extend rfl hip statements
  have horder : ∀ positions final, Executes going positions final →
      positions = List.range' (engine.state.ip + 1) positions.length := by
    intro positions final hexecutes
    have hpositions := hexecutes.in_order
    rw [hstate] at hpositions
    exact hpositions
  refine ⟨going, hextend, by rw [hstate]; rfl, hnext, horder, ?_, ?_⟩
  · intro hnever
    by_contra hleft
    -- Something was left of the old program, and one step executes it.
    have hmore : engine.state.ip + 1 < engine.state.statements.length := by omega
    rw [List.drop_eq_getElem_cons hmore] at hnext
    have honce : Executes going [going.state.ip] (going.step settings world).2.1 :=
      .perform settings world hnext (.done _)
    have hposition := hnever _ _ honce going.state.ip List.mem_cons_self
    rw [hstate] at hposition
    exact absurd hmore (Nat.not_lt.mpr hposition)
  · intro hlast positions final hexecutes position hposition
    rw [horder positions final hexecutes, List.mem_range'_1] at hposition
    omega

/-- A program with a statement behind the one that halts. -/
def halfway : Engine :=
  new "s" [.synthesized .halt "", .synthesized .userMessage "never"] ⟨0, 0⟩

theorem halted_run_goes_on_behind_halt_halfway :
    ∃ going,
      (halfway.step .bare .bare).2.1.extend [.synthesized .userMessage "again"] = .ok going ∧
      going.next? = some (.synthesized .userMessage "never") ∧
      ∃ positions final, Executes going positions final ∧ ∃ position ∈ positions, position < 2 := by
  have hstatus : halfway.status = .running := rfl
  obtain ⟨going, hextend, -, hnext, -, hnever⟩ :=
    halted_run_goes_on_behind_halt hstatus rfl rfl .bare .bare .live
      [.synthesized .userMessage "again"]
  refine ⟨going, hextend, hnext, ?_⟩
  by_contra hnone
  push Not at hnone
  exact absurd (hnever.mp hnone) (by decide)

end PromptScript.Engine
