import Mathlib.Tactic.Push
import PromptScript.Proofs.Engine.Lifecycle
import PromptScript.Proofs.Session.Resumption
import PromptScript.Proofs.Variables.Substitute
import PromptScript.Script.Program

/-!
# Follow-up messages

A message to a stored session is appended behind everything that is left of its program.  A run that
ends without an error executes the statements from its position up to the first that halts, so the
message is taken in exactly where none of the statements that are left halts.

The lines of the message are never read as keywords, but the statement that takes it in substitutes
like any other.  So a message stands in the conversation as it was written only where substitution
leaves it alone: a span in it is replaced by a value, and stops the run where it names none.
-/

namespace PromptScript

/-- Trimming the end of a text leaves its beginning. -/
theorem Text.trimEnd_isPrefix (text : String) : (trimEnd text).toList <+: text.toList := by
  rw [trimEnd, String.toList_ofList, dropTrailing]
  apply List.reverse_suffix.mp
  rw [List.reverse_reverse]
  exact List.dropWhile_suffix _

namespace Program

theorem untilHalt_append_of_runs {first : List Statement} (second : List Statement)
    (hruns : ∀ statement ∈ first, statement.kind ≠ .halt) :
    untilHalt (first ++ second) = first ++ untilHalt second := by
  induction first with
  | nil => rfl
  | cons statement rest ih =>
      have hfirst := hruns statement List.mem_cons_self
      rw [List.cons_append, untilHalt, if_neg hfirst,
        ih fun later hlater => hruns later (List.mem_cons_of_mem _ hlater)]
      rfl

/-- Behind a statement that halts nothing is executed. -/
theorem length_untilHalt_append_le {first : List Statement} (second : List Statement)
    (hhalts : ∃ statement ∈ first, statement.kind = .halt) :
    (untilHalt (first ++ second)).length ≤ first.length := by
  induction first with
  | nil =>
      obtain ⟨statement, hmem, -⟩ := hhalts
      exact absurd hmem List.not_mem_nil
  | cons statement rest ih =>
      rw [List.cons_append, untilHalt]
      by_cases hfirst : statement.kind = .halt
      · rw [if_pos hfirst]
        simp
      · rw [if_neg hfirst]
        obtain ⟨later, hmem, hkind⟩ := hhalts
        rcases List.mem_cons.mp hmem with rfl | hrest
        · exact absurd hkind hfirst
        · have hlength := ih ⟨later, hrest, hkind⟩
          simp only [List.length_cons]
          omega

/-- The statements of a follow-up message. -/
theorem ofFollowUp_eq (message : String) :
    ofFollowUp message =
      [.synthesized .userMessage (Text.trimEnd message), .synthesized .exec "",
        .synthesized .emitOutput lastResponsePayload, .synthesized .halt ""] := rfl

end Program

namespace Engine

/-! ## Whether the message is taken in -/

theorem state_of_emit {settings : Settings} {payload : String}
    {state next : ExecutionState} {world later : World} {result : Except RunError Unit}
    (hperform : (Statement.synthesized .emitOutput payload).perform settings state world =
      (result, next, later)) : next = state := by
  change Statement.emit state world payload = _ at hperform
  unfold Statement.emit at hperform
  split at hperform
  all_goals
    cases hperform
    rfl

theorem Performs.uncons {settings : Settings} {statement : Statement}
    {state final : ExecutionState} {world later : World} {rest : List Statement}
    (hperforms : Performs settings (statement :: rest) state world final later) :
    ∃ next between, statement.perform settings state world = (.ok (), next, between) ∧
      Performs settings rest { next with ip := next.ip + 1 } between final later := by
  cases hperforms with
  | cons hperform hrest => exact ⟨_, _, hperform, hrest⟩

/-- The statements of a follow-up message append the message and behind it what the model
answers. -/
theorem Performs.followUp {settings : Settings} {message : String} {state final : ExecutionState}
    {world later : World}
    (hperforms : Performs settings (Program.ofFollowUp message) state world final later) :
    ∃ text reply more, state.substitute (Text.trimEnd message) = .ok text ∧
      reply.role = .assistant ∧
      final.conversation = state.conversation ++ Message.ofText .user text :: reply :: more := by
  rw [Program.ofFollowUp_eq] at hperforms
  obtain ⟨asked, afterAsk, hask, hperforms⟩ := hperforms.uncons
  obtain ⟨answered, afterAnswer, hanswer, hperforms⟩ := hperforms.uncons
  obtain ⟨shown, afterShow, hshow, hperforms⟩ := hperforms.uncons
  obtain ⟨halted, afterHalt, hhalt, hperforms⟩ := hperforms.uncons
  have hend : final.conversation = answered.conversation := by
    cases hperforms
    cases hhalt
    rw [state_of_emit hshow]
  obtain ⟨text, htext, hasked⟩ : ∃ text, state.substitute (Text.trimEnd message) = .ok text ∧
      asked = state.push (.ofText .user text) := by
    change Outcome.ofChange state world (state.say .user (Text.trimEnd message)) = _ at hask
    cases hsay : state.say .user (Text.trimEnd message) with
    | error error =>
        rw [hsay] at hask
        exact nomatch hask
    | ok next =>
        rw [hsay] at hask
        cases hask
        simp only [ExecutionState.say, Attempt.bind_eq_ok_iff, Attempt.pure_eq_ok_iff] at hsay
        obtain ⟨text, htext, hnext⟩ := hsay
        exact ⟨text, htext, hnext.symm⟩
  have hrun : Exchange.run settings { asked with ip := asked.ip + 1 } afterAsk =
      (.ok (), answered, afterAnswer) := hanswer
  obtain ⟨reply, more, hrole, hconversation⟩ :=
    Exchange.run_appends settings { asked with ip := asked.ip + 1 } afterAsk (by rw [hrun])
  refine ⟨text, reply, more, htext, hrole, ?_⟩
  rw [hrun] at hconversation
  rw [hend, hconversation, hasked]
  simp [ExecutionState.push, Conversation.push]

/-- A restored engine takes in the statements of a message and runs. -/
theorem extend_restore_followUp (record : SessionRecord) (message : String) : ∃ engine,
    (restore record).extend (Program.ofFollowUp message) = .ok engine ∧
      engine.status = .running ∧
      engine.state = { record.state with
        statements := record.state.statements ++ Program.ofFollowUp message } := by
  refine ⟨_, rfl, ?_, rfl⟩
  split <;> rfl

/-- A follow-up message to a restored session can always be appended.  A run that then ends without
an error has executed all statements of the message exactly if no statement that was left of the
program halts.  In that case the statements that were left lead to a state whose conversation takes
in the message and behind it an answer of the model; the message is taken in as it was written
unless the opening delimiter in force then occurs in it. -/
theorem follow_up_runs_iff {stored : String} {record : SessionRecord}
    (hrecord : SessionRecord.parse stored = .ok record) (message : String) (settings : Settings)
    (world : World) :
    ∃ engine, (restore record).extend (Program.ofFollowUp message) = .ok engine ∧
      ∀ status final later, engine.run settings world = (.ok status, final, later) →
        (final.state.ip = final.state.statements.length ↔
          ∀ statement ∈ record.state.statements.drop record.state.ip, statement.kind ≠ .halt) ∧
        (final.state.ip = final.state.statements.length →
          ∃ reached between text reply more,
            Performs settings (record.state.statements.drop record.state.ip) engine.state world
              reached between ∧
            final.state.conversation =
              reached.conversation ++ Message.ofText .user text :: reply :: more ∧
            reply.role = .assistant ∧
            (¬reached.bindings.opener <:+: message.toList → text = Text.trimEnd message)) := by
  have hip := ip_le_of_parse hrecord
  obtain ⟨engine, hextend, hstatus, hstate⟩ := extend_restore_followUp record message
  refine ⟨engine, hextend, ?_⟩
  intro status final later hrun
  have hleft : engine.state.statements.drop engine.state.ip =
      record.state.statements.drop record.state.ip ++ Program.ofFollowUp message := by
    rw [hstate]
    exact List.drop_append_of_le_length hip
  have hperforms := run_performs hstatus hrun
  rw [hleft] at hperforms
  obtain ⟨hstatements, hposition⟩ := hperforms.frame
  have hlength : final.state.statements.length =
      record.state.statements.length + (Program.ofFollowUp message).length := by
    rw [hstatements, hstate, List.length_append]
  have hstart : engine.state.ip = record.state.ip := by rw [hstate]
  by_cases hruns : ∀ statement ∈ record.state.statements.drop record.state.ip,
      statement.kind ≠ .halt
  · have hall : Program.untilHalt (record.state.statements.drop record.state.ip
        ++ Program.ofFollowUp message) =
          record.state.statements.drop record.state.ip ++ Program.ofFollowUp message := by
      rw [Program.untilHalt_append_of_runs _ hruns]
      rfl
    rw [hall] at hperforms hposition
    constructor
    · refine ⟨fun _ => hruns, fun _ => ?_⟩
      rw [hposition, hlength, hstart, List.length_append, List.length_drop]
      omega
    · intro hend
      obtain ⟨reached, between, hbefore, hmessage⟩ := hperforms.of_append
      obtain ⟨text, reply, more, htext, hrole, hconversation⟩ := hmessage.followUp
      refine ⟨reached, between, text, reply, more, hbefore, hconversation, hrole, ?_⟩
      intro habsent
      have hsame : reached.substitute (Text.trimEnd message) = .ok (Text.trimEnd message) := by
        apply Variables.substitute_of_absent
        intro hoccurs
        exact habsent (hoccurs.trans (Text.trimEnd_isPrefix message).isInfix)
      rw [hsame] at htext
      exact (Except.ok.inj htext).symm
  · push Not at hruns
    have hshort := Program.length_untilHalt_append_le (Program.ofFollowUp message) hruns
    have hnever : final.state.ip ≠ final.state.statements.length := by
      rw [hposition, hlength, hstart]
      rw [List.length_drop] at hshort
      have hfour : (Program.ofFollowUp message).length = 4 := rfl
      omega
    obtain ⟨statement, hmem, hkind⟩ := hruns
    constructor
    · exact ⟨fun hend => absurd hend hnever, fun hall => absurd hkind (hall statement hmem)⟩
    · exact fun hend => absurd hend hnever

/-- A session whose program is about to halt. -/
def halting : SessionRecord :=
  (new "s" [.synthesized .halt ""] ⟨0, 0⟩).snapshot ⟨0, 0⟩

theorem follow_up_runs_iff_halting :
    ∃ engine, (restore halting).extend (Program.ofFollowUp "again") = .ok engine ∧
      (engine.run .bare .bare).1 = .ok .completed ∧
      (engine.run .bare .bare).2.1.state.ip ≠
        (engine.run .bare .bare).2.1.state.statements.length := by
  have hnow : (⟨0, 0⟩ : Timestamp).Writable := ⟨by decide, .inl (by decide)⟩
  have hlines : ∀ statement ∈ [Statement.synthesized .halt ""],
      statement.line < 0x10000000000000000 := by decide
  have hparse : SessionRecord.parse halting.render = .ok halting :=
    parse_render_initial rfl hlines (by decide) hnow hnow
  obtain ⟨engine, hextend, hends⟩ := follow_up_runs_iff hparse "again" .bare .bare
  have hrun : (engine.run .bare .bare).1 = .ok .completed := by
    cases hextend
    rfl
  refine ⟨engine, hextend, hrun, ?_⟩
  intro hend
  have hleft := ((hends .completed _ _ (Prod.ext hrun rfl)).1).mp hend
  exact hleft (.synthesized .halt "") (by decide) rfl

/-! ## How the message is taken in -/

section TakenIn

variable {engine : Engine} {message : String}

/-- Whether the next step succeeds and appends one message of the user, whose only block is the
text. -/
def TakesIn (settings : Settings) (world : World) (engine : Engine) (text : String) : Prop :=
  (engine.step settings world).1 = .ok .running ∧
    (engine.step settings world).2.1.state.conversation =
      engine.state.conversation ++ [.ofText .user text]

theorem TakesIn.unique {settings : Settings} {world : World} {first second : String}
    (hfirst : TakesIn settings world engine first)
    (hsecond : TakesIn settings world engine second) : first = second := by
  have hsame := hfirst.2.symm.trans hsecond.2
  simpa [Message.ofText] using hsame

/-- A follow-up message makes an engine at the end of its program run its statements. -/
theorem extend_followUp (hstatus : engine.status ≠ .failed)
    (hend : engine.state.ip = engine.state.statements.length) (message : String) :
    ∃ going, engine.extend (Program.ofFollowUp message) = .ok going ∧
      going.status = .running ∧ going.state = engine.extended (Program.ofFollowUp message) := by
  have hleft := extended_isFinished_iff (Nat.le_of_eq hend) (Program.ofFollowUp message)
  have hfinished : (engine.extended (Program.ofFollowUp message)).isFinished = false := by
    rw [Bool.eq_false_iff, ne_eq, hleft]
    exact fun hnone => nomatch hnone.1
  refine ⟨_, extend_of_ok hstatus _, ?_, rfl⟩
  rw [hfinished]
  rfl

theorem current?_of_followUp
    (hleft : engine.state.statements.drop engine.state.ip = Program.ofFollowUp message) :
    engine.state.current? = some (.synthesized .userMessage (Text.trimEnd message)) := by
  rw [ExecutionState.current?, ← List.head?_drop, hleft]
  rfl

theorem perform_userMessage (settings : Settings) (state : ExecutionState) (world : World)
    (text : String) : (Statement.synthesized .userMessage text).perform settings state world =
      Outcome.ofChange state world (state.say .user text) := rfl

/-- The first step of a follow-up message takes in what substitution makes of it. -/
theorem takesIn_of_followUp (hrunning : engine.status = .running)
    (hleft : engine.state.statements.drop engine.state.ip = Program.ofFollowUp message)
    (settings : Settings) (world : World) {text : String}
    (htext : engine.state.substitute (Text.trimEnd message) = .ok text) :
    TakesIn settings world engine text := by
  have hperform := perform_userMessage settings engine.state world (Text.trimEnd message)
  rw [ExecutionState.say, htext] at hperform
  have hlength : engine.state.statements.length - engine.state.ip = 4 := by
    rw [← List.length_drop, hleft]
    rfl
  have hmore : ¬engine.state.statements.length ≤ engine.state.ip + 1 := by omega
  constructor
  · rw [step_of_ok settings hrunning (current?_of_followUp hleft) hperform]
    simp [statusAfter, Statement.synthesized, ExecutionState.isFinished, ExecutionState.push,
      hmore]
  · rw [step_of_ok settings hrunning (current?_of_followUp hleft) hperform]
    rfl

/-- Where substitution fails, the first step of a follow-up message fails with it. -/
theorem step_of_followUp_of_error (hrunning : engine.status = .running)
    (hleft : engine.state.statements.drop engine.state.ip = Program.ofFollowUp message)
    (settings : Settings) (world : World) {error : RunError}
    (htext : engine.state.substitute (Text.trimEnd message) = .error error) :
    engine.step settings world =
      (.error ⟨0, .userMessage, error⟩, { engine with status := .failed }, world) := by
  have hperform := perform_userMessage settings engine.state world (Text.trimEnd message)
  rw [ExecutionState.say, htext] at hperform
  exact step_of_error settings hrunning (current?_of_followUp hleft) hperform

/-- A follow-up message to an engine at the end of its program can always be appended.  The step
that comes next takes it in as it was written exactly if substitution leaves it as it is, which it
does where the message has no span.  Where every span names a value, the message is taken in with
the values in their place; otherwise the run fails at the first span that names none. -/
theorem follow_up_taken_in_iff (hstatus : engine.status ≠ .failed)
    (hend : engine.state.ip = engine.state.statements.length) (message : String)
    (settings : Settings) (world : World) :
    ∃ going names, engine.extend (Program.ofFollowUp message) = .ok going ∧
      Variables.Names engine.state.bindings.opener engine.state.bindings.closer
        (Text.trimEnd message).toList names ∧
      going.state.conversation = engine.state.conversation ∧
      (TakesIn settings world going (Text.trimEnd message) ↔
        engine.state.substitute (Text.trimEnd message) = .ok (Text.trimEnd message)) ∧
      (names = [] → TakesIn settings world going (Text.trimEnd message)) ∧
      match engine.state.bindings.firstUndefined? engine.state.namespaceValues names with
      | none => ∃ text, engine.state.substitute (Text.trimEnd message) = .ok text ∧
          TakesIn settings world going text
      | some name => going.step settings world =
          (.error ⟨0, .userMessage, .undefinedVariable name⟩, { going with status := .failed },
            world) := by
  obtain ⟨going, hextend, hrunning, hstate⟩ := extend_followUp hstatus hend message
  obtain ⟨names, hnames⟩ := Variables.exists_names
    (Variables.opener_ne_nil engine.state.bindings) engine.state.bindings.closer
    (Text.trimEnd message).toList
  have hleft : going.state.statements.drop going.state.ip = Program.ofFollowUp message := by
    simp [hstate, extended, hend]
  -- The values of the engine's namespace do not depend on the statements.
  have hsame : going.state.substitute (Text.trimEnd message) =
      engine.state.substitute (Text.trimEnd message) := by
    simp only [hstate, extended, ExecutionState.substitute, ExecutionState.namespaceValues]
  have htaken : ∀ text, engine.state.substitute (Text.trimEnd message) = .ok text →
      TakesIn settings world going text := by
    intro text htext
    exact takesIn_of_followUp hrunning hleft settings world (hsame.trans htext)
  have hfails : ∀ error, engine.state.substitute (Text.trimEnd message) = .error error →
      going.step settings world =
        (.error ⟨0, .userMessage, error⟩, { going with status := .failed }, world) := by
    intro error herror
    exact step_of_followUp_of_error hrunning hleft settings world (hsame.trans herror)
  have hconversation : going.state.conversation = engine.state.conversation := by
    rw [hstate, extended]
  refine ⟨going, names, hextend, hnames, hconversation, ⟨?_, htaken (Text.trimEnd message)⟩,
    ?_, ?_⟩
  · intro hverbatim
    cases htext : engine.state.substitute (Text.trimEnd message) with
    | error error =>
        have hok := hverbatim.1
        rw [hfails error htext] at hok
        cases hok
    | ok text => rw [(htaken text htext).unique hverbatim]
  · rintro rfl
    exact htaken _ (Variables.substitute_of_plain _ hnames)
  · have hnamed := Variables.substitute_of_names engine.state.namespaceValues hnames
    cases hfirst : engine.state.bindings.firstUndefined? engine.state.namespaceValues names with
    | none =>
        simp only [hfirst] at hnamed
        obtain ⟨text, htext⟩ := hnamed
        exact ⟨text, htext, htaken text htext⟩
    | some name =>
        simp only [hfirst] at hnamed
        exact hfails (.undefinedVariable name) hnamed

/-- A completed engine that goes on with a question about a placeholder. -/
def awaiting : Engine :=
  { new "s" [] ⟨0, 0⟩ with status := .completed }

theorem follow_up_taken_in_iff_awaiting :
    ∃ going, awaiting.extend (Program.ofFollowUp "what is <<x>>?") = .ok going ∧
      ¬TakesIn .bare .bare going "what is <<x>>?" ∧
      (going.step .bare .bare).1 = .error ⟨0, .userMessage, .undefinedVariable "x"⟩ := by
  obtain ⟨going, names, hextend, hnames, -, -, -, hfirst⟩ :=
    @follow_up_taken_in_iff awaiting (by decide) rfl "what is <<x>>?" .bare .bare
  have hspans : names = ["x"] := by
    cases hnames with
    | plain hspan => exact absurd hspan (by decide)
    | @span text before raw rest names hspan hrest =>
        have hfound : Variables.nextSpan? awaiting.state.bindings.opener
            awaiting.state.bindings.closer (Text.trimEnd "what is <<x>>?").toList =
              some ("what is ".toList, ['x'], ['?']) := by decide
        rw [hfound] at hspan
        cases hspan
        have hrest' : Variables.nextSpan? awaiting.state.bindings.opener
            awaiting.state.bindings.closer ['?'] = none := by decide
        cases hrest with
        | plain hnone => rfl
        | span hsome hlater =>
            rw [hrest'] at hsome
            exact nomatch hsome
  rw [hspans] at hfirst
  have hundefined : awaiting.state.bindings.firstUndefined? awaiting.state.namespaceValues ["x"] =
      some "x" := by decide
  rw [hundefined] at hfirst
  simp only at hfirst
  refine ⟨going, hextend, ?_, by rw [hfirst]⟩
  rintro ⟨hok, -⟩
  rw [hfirst] at hok
  exact nomatch hok

end TakenIn

end Engine

end PromptScript
