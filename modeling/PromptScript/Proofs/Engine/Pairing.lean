import PromptScript.Proofs.Engine.Reachable

/-!
# Calls and results over whole runs

Unless its program writes calls or results itself, an engine never holds a call without its result,
whatever providers reply and functions answer, and wherever a statement stops.  Where a program does
write them, exchanges and function calls keep paired what was paired, and a conversation that is not
paired is refused before anything is sent.
-/

namespace PromptScript

open Json (Inherited)

/-- What enters a run whose programs write neither calls nor results. -/
def Intake.unwritten : Intake where
  statement statement := statement.kind ≠ .toolCall ∧ statement.kind ≠ .toolResult
  value _ := True
  moment _ := True

/-- Settings without models and programs. -/
def Settings.bare : Settings :=
  ⟨⟨[]⟩, fun _ => some "key", [], 1, "/", "/", fun tree _ => (.error .notFound, tree)⟩

/-- A world without files, functions and replies. -/
def World.bare : World :=
  ⟨⟨[], [], 0⟩, .empty [] 0, [], [], [], []⟩

namespace Engine

theorem Reachable.paired {engine : Engine} (hengine : Reachable .unwritten engine) :
    engine.state.conversation.Paired := by
  refine (state_induction (motive := fun state => state.conversation.Paired)
    ?_ ?_ ?_ ?_ ?_ ?_ hengine).1
  · intro sessionId statements hstatements
    exact rfl
  · intro state filename hstate
    exact hstate
  · intro state name value bindings hstate hvalue hset
    exact hstate
  · intro settings state statement world hstate hstatement hworld
    exact (statement.perform_changes Json.inherited_true settings hstatement.1 hstatement.2 state
      hworld).paired hstate
  · intro state hstate hip
    exact hstate
  · intro state statements hstate hstatements
    exact hstate

/-- An exchange or a function call keeps paired what was paired, also where it fails. -/
theorem step_paired (settings : Settings) {engine : Engine} (world : World)
    {statement : Statement} (hcurrent : engine.state.current? = some statement)
    (hkind : statement.kind = .exec ∨ statement.kind = .callFunction)
    (hpaired : engine.state.conversation.Paired) :
    (engine.step settings world).2.1.state.conversation.Paired := by
  have hcall : statement.kind ≠ .toolCall := by
    rcases hkind with hkind | hkind <;> simp [hkind]
  have hresult : statement.kind ≠ .toolResult := by
    rcases hkind with hkind | hkind <;> simp [hkind]
  have hworld : world.Brings fun _ => True := fun _ _ => trivial
  have hnext := (statement.perform_changes Json.inherited_true settings hcall hresult engine.state
    hworld).paired hpaired
  refine step_cases settings engine world
    (motive := fun outcome => outcome.2.1.state.conversation.Paired) ?_ ?_ ?_ ?_
  · intro hstatus
    exact hpaired
  · intro hstatus hnone
    exact hpaired
  · intro other next later hstatus hother hrun
    cases hcurrent.symm.trans hother
    rw [hrun] at hnext
    exact hnext
  · intro other error next later hstatus hother hrun
    cases hcurrent.symm.trans hother
    rw [hrun] at hnext
    exact hnext

/-- An exchange that complains about the pairing of calls and results has sent nothing. -/
theorem step_requests_of_pairing (settings : Settings) (engine : Engine) {world : World}
    (hplain : world.Plain) {line : Nat} {reason : String}
    (hresult : (engine.step settings world).1 =
      .error ⟨line, .exec, .invalidConversation reason⟩) :
    (engine.step settings world).2.2.requests = world.requests := by
  refine step_cases settings engine world
    (motive := fun outcome => outcome.1 = .error ⟨line, .exec, .invalidConversation reason⟩ →
      outcome.2.2.requests = world.requests) ?_ ?_ ?_ ?_ hresult
  · intro hstatus hsame
    exact nomatch hsame
  · intro hstatus hnone hsame
    exact nomatch hsame
  · intro statement next later hstatus hcurrent hrun hsame
    exact nomatch hsame
  · intro statement error next later hstatus hcurrent hrun hsame
    simp only [Except.error.injEq, StatementError.mk.injEq] at hsame
    obtain ⟨-, hkind, rfl⟩ := hsame
    have hexec : statement.perform settings engine.state world =
        Exchange.run settings engine.state world := by
      simp only [Statement.perform, hkind]
    rw [hexec] at hrun
    have hfailed : (Exchange.run settings engine.state world).1 =
        .error (.invalidConversation reason) := by rw [hrun]
    have hrequests := Exchange.run_requests_of_pairing settings engine.state hplain hfailed trivial
    rw [hrun] at hrequests
    exact hrequests

/-- Calls and results pair at every point of every run whose programs write neither; exchanges and
function calls keep them paired in all programs; and no exchange complains about them once it has
sent a request. -/
theorem calls_stay_answered :
    (∀ engine, Reachable .unwritten engine →
      engine.state.conversation.checkPairing = .ok ()) ∧
    (∀ settings (engine : Engine) world statement, engine.state.current? = some statement →
      statement.kind = .exec ∨ statement.kind = .callFunction →
      engine.state.conversation.checkPairing = .ok () →
        (engine.step settings world).2.1.state.conversation.checkPairing = .ok ()) ∧
    ∀ settings (engine : Engine) (world : World) line reason, world.Plain →
      (engine.step settings world).1 = .error ⟨line, .exec, .invalidConversation reason⟩ →
        (engine.step settings world).2.2.requests = world.requests := by
  refine ⟨?_, ?_, ?_⟩
  · intro engine hengine
    exact hengine.paired
  · intro settings engine world statement hcurrent hkind hpaired
    exact step_paired settings world hcurrent hkind hpaired
  · intro settings engine world line reason hplain hresult
    exact step_requests_of_pairing settings engine hplain hresult

/-- An engine about to send a conversation with a call that has no result. -/
def unanswered : Engine :=
  ⟨{ ExecutionState.initial "s" [.synthesized .exec ""] with
      conversation := [⟨.assistant, [.call ⟨"a", "f", .object []⟩]⟩]
      bindings := ⟨[("model", .string "m"), ("provider", .string "OpenAI")]⟩ },
    .running, 0, ⟨0, 0⟩⟩

theorem calls_stay_answered_bare :
    ((new "s" [.synthesized .exec ""] ⟨0, 0⟩).step .bare .bare).2.1.state.conversation.checkPairing
        = .ok () ∧
      ((new "s" [.synthesized .callFunction "f()"] ⟨0, 0⟩).step .bare
        .bare).2.1.state.conversation.checkPairing = .ok () ∧
      (unanswered.step .bare .bare).1 =
        .error ⟨0, .exec, .invalidConversation "function call 'a' has no result"⟩ ∧
      (unanswered.step .bare .bare).2.2.requests = [] := by
  have hfailed : (unanswered.step .bare .bare).1 =
      .error ⟨0, .exec, .invalidConversation "function call 'a' has no result"⟩ := by decide
  have hplain : World.bare.Plain := by
    intro reply hreply
    exact absurd hreply List.not_mem_nil
  refine ⟨?_, ?_, hfailed, ?_⟩
  · refine calls_stay_answered.1 _ (.step .bare (.new "s" ?_ trivial) fun _ _ => trivial)
    intro statement hstatement
    rw [List.mem_singleton.mp hstatement]
    exact ⟨by decide, by decide⟩
  · exact calls_stay_answered.2.1 .bare _ .bare _ rfl (.inr rfl) rfl
  · exact calls_stay_answered.2.2 .bare unanswered .bare 0 _ hplain hfailed

end Engine

end PromptScript
