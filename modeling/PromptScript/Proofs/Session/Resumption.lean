import PromptScript.Proofs.Engine.Pairing
import PromptScript.Proofs.Session.ReadBack

/-!
# Resumption of stored runs

A run that goes on from its stored form does what it does without having been stored.  What is read
back from the text is the engine itself, up to its status: a restored engine runs.  That difference
is seen only where nothing is left to run, so that a suspended engine stays suspended and a restored
one completes.
-/

namespace PromptScript.Engine

open Json (FloatReadsBack)

variable {engine : Engine} {settings : Settings} {world : World}

/-- A run at the end of its program does nothing but complete. -/
theorem run_of_finished (settings : Settings) (world : World)
    (hfinished : engine.state.isFinished = true) :
    engine.run settings world =
      (.ok (if engine.status = .running then .completed else engine.status),
        { engine with status := if engine.status = .running then .completed else engine.status },
        world) := by
  have hend : engine.state.statements.length ≤ engine.state.ip := by
    simpa [ExecutionState.isFinished] using hfinished
  have hcount : engine.state.statements.length - engine.state.ip + 1 = 1 := by omega
  rw [run, hcount]
  by_cases hstatus : engine.status = .running
  · have hcurrent : engine.state.current? = none := by
      rw [ExecutionState.current?, List.getElem?_eq_none_iff]
      exact hend
    rw [runFor_of_step_ok 0 hstatus (step_of_end settings world hstatus hcurrent), if_pos hstatus]
    rfl
  · rw [runFor_of_stopped settings 1 world hstatus, if_neg hstatus]

/-- A restored engine is the stored one, running. -/
theorem restore_of_parse (hengine : Reachable .wellFormed engine)
    (hlength : engine.state.statements.length < 0x10000000000000000) {now : Timestamp}
    (hnow : now.Writable) (hfloats : (engine.snapshot now).toJson.EachNumber FloatReadsBack)
    {record : SessionRecord}
    (hrecord : SessionRecord.parse (engine.snapshot now).render = .ok record) :
    restore record = { engine with status := .running } := by
  have hwellFormed := hengine.record_wellFormed hlength (engine.snapshot now) rfl hengine.createdAt
    hnow
  obtain ⟨hloads, hrefused⟩ := SessionRecord.parse_render hwellFormed hfloats
  by_cases hloadable : (engine.snapshot now).Loadable
  · rw [hloads hloadable] at hrecord
    cases hrecord
    rfl
  · rw [hrefused hloadable] at hrecord
    exact nomatch hrecord

/-- The state of an engine with further statements. -/
def extended (engine : Engine) (statements : List Statement) : ExecutionState :=
  { engine.state with statements := engine.state.statements ++ statements }

/-- Further statements make an engine run, unless none is left even so. -/
theorem extend_of_ok (hstatus : engine.status ≠ .failed) (statements : List Statement) :
    engine.extend statements = .ok { engine with
      state := engine.extended statements
      status := if (engine.extended statements).isFinished then engine.status else .running } := by
  rw [extend, if_neg hstatus]
  rfl

/-- Nothing is left behind further statements exactly if there are none and the program is over. -/
theorem extended_isFinished_iff (hip : engine.state.ip ≤ engine.state.statements.length)
    (statements : List Statement) : (engine.extended statements).isFinished = true ↔
      statements = [] ∧ engine.state.ip = engine.state.statements.length := by
  rw [← List.length_eq_zero_iff]
  simp only [ExecutionState.isFinished, extended, decide_eq_true_eq, List.length_append]
  omega

/-- Going on with a run and going on with what was restored from its stored form send the same
requests, write the same texts and end in the same state.  They give the same result unless the run
was suspended at the end of its program and gets no further statements: it then stays suspended,
and the restored one completes. -/
theorem resumed_run_matches (hengine : Reachable .wellFormed engine)
    (hlength : engine.state.statements.length < 0x10000000000000000)
    (hstatus : engine.status ≠ .failed) {now : Timestamp} (hnow : now.Writable)
    (hfloats : (engine.snapshot now).toJson.EachNumber FloatReadsBack) {record : SessionRecord}
    (hrecord : SessionRecord.parse (engine.snapshot now).render = .ok record)
    (statements : List Statement) (settings : Settings) (world : World) :
    ∃ live restored, engine.extend statements = .ok live ∧
      (restore record).extend statements = .ok restored ∧
      (live.run settings world).2.2 = (restored.run settings world).2.2 ∧
      (live.run settings world).2.1.state = (restored.run settings world).2.1.state ∧
      ((live.run settings world).1 = (restored.run settings world).1 ↔
        ¬(engine.status = .suspended ∧ statements = [] ∧
          engine.state.ip = engine.state.statements.length)) ∧
      (engine.status = .suspended → statements = [] →
        engine.state.ip = engine.state.statements.length →
          (live.run settings world).1 = .ok .suspended ∧
            (restored.run settings world).1 = .ok .completed) := by
  have hlive := extend_of_ok hstatus statements
  have hrestored : (restore record).extend statements =
      .ok { engine with state := engine.extended statements, status := .running } := by
    rw [restore_of_parse hengine hlength hnow hfloats hrecord, extend_of_ok (by simp)]
    simp only [ite_self]
    rfl
  have hleft := extended_isFinished_iff hengine.ip_le statements
  refine ⟨_, _, hlive, hrestored, ?_⟩
  cases hfinished : (engine.extended statements).isFinished with
  | false =>
      have hmore : ¬(statements = [] ∧ engine.state.ip = engine.state.statements.length) := by
        rw [← hleft, hfinished]
        decide
      rw [if_neg (by decide)]
      refine ⟨rfl, rfl, ⟨fun _ hend => hmore hend.2, fun _ => rfl⟩, ?_⟩
      intro hsuspended hnone hend
      exact absurd ⟨hnone, hend⟩ hmore
  | true =>
      have hend := hleft.mp hfinished
      rw [if_pos rfl, run_of_finished settings world hfinished,
        run_of_finished settings world hfinished, if_pos rfl]
      refine ⟨rfl, rfl, ?_, ?_⟩
      · simp only [hend, and_self, and_true]
        cases hkind : engine.status with
        | running => simp
        | suspended => simp
        | completed => simp
        | failed => exact absurd hkind hstatus
      · intro hsuspended hnone hposition
        rw [hsuspended]
        exact ⟨rfl, rfl⟩

theorem resumed_run_matches_halting :
    ∃ live restored, (new "s" [.synthesized .halt ""] ⟨0, 0⟩).extend [] = .ok live ∧
      (restore ((new "s" [.synthesized .halt ""] ⟨0, 0⟩).snapshot ⟨0, 0⟩)).extend [] =
        .ok restored ∧
      (live.run .bare .bare).1 = (restored.run .bare .bare).1 := by
  have hnow : (⟨0, 0⟩ : Timestamp).Writable := ⟨by decide, .inl (by decide)⟩
  have hlines : ∀ statement ∈ [Statement.synthesized .halt ""],
      statement.line < 0x10000000000000000 := by decide
  have hnew : Reachable .wellFormed (new "s" [.synthesized .halt ""] ⟨0, 0⟩) :=
    .new "s" hlines hnow
  have hrecord := hnew.record_wellFormed (by decide)
    ((new "s" [.synthesized .halt ""] ⟨0, 0⟩).snapshot ⟨0, 0⟩) rfl hnow hnow
  have hfloats := floatsReadBack_of_idle hrecord rfl (values_initial _ .string) rfl
  obtain ⟨live, restored, hlive, hrestored, -, -, hresult, -⟩ :=
    resumed_run_matches hnew (by decide) (by decide) hnow hfloats
      (parse_render_initial rfl hlines (by decide) hnow hnow) [] .bare .bare
  exact ⟨live, restored, hlive, hrestored, hresult.mpr fun hsuspended => nomatch hsuspended.1⟩

/-- A suspended engine without a program. -/
def idle : Engine :=
  (new "s" [] ⟨0, 0⟩).suspend

/-- The results of going on do differ where a suspended run is over. -/
theorem resumed_run_differs :
    Reachable .wellFormed idle ∧ idle.status = .suspended ∧
      SessionRecord.parse (idle.snapshot ⟨0, 0⟩).render = .ok (idle.snapshot ⟨0, 0⟩) ∧
      ∃ live restored, idle.extend [] = .ok live ∧
        (restore (idle.snapshot ⟨0, 0⟩)).extend [] = .ok restored ∧
        (live.run .bare .bare).1 = .ok .suspended ∧
        (restored.run .bare .bare).1 = .ok .completed := by
  have hnow : (⟨0, 0⟩ : Timestamp).Writable := ⟨by decide, .inl (by decide)⟩
  have hlines : ∀ statement ∈ ([] : List Statement), statement.line < 0x10000000000000000 :=
    fun statement hstatement => nomatch hstatement
  have hnew : Reachable .wellFormed (new "s" [] ⟨0, 0⟩) := .new "s" hlines hnow
  exact ⟨hnew.suspend, rfl, parse_render_initial rfl hlines (by decide) hnow hnow, _, _, rfl, rfl, rfl,
    rfl⟩

end PromptScript.Engine
