import PromptScript.Proofs.Engine.FollowUp
import PromptScript.Proofs.Json.Members
import PromptScript.Proofs.Script.Grammar

/-!
# What a completed script shows

A script that does not halt is completed so that it shows the model's last reply.  The text that it
shows last is written with the default delimiters, however, and read with those in force, so it is
the reply where the script kept the delimiters and some other text where it did not.
-/

namespace PromptScript

namespace Variables

/-- With the default delimiters, the payload that prints the reply reads as the reply. -/
theorem substitute_lastResponsePayload {bindings : Variables} {reply : String}
    (hreply : bindings.get? lastResponseName = some (.string reply))
    (hopener : bindings.opener = defaultOpener.toList)
    (hcloser : bindings.closer = defaultCloser.toList) (engine : List (String × Json)) :
    bindings.substitute engine Program.lastResponsePayload = .ok reply := by
  have hspan : nextSpan? defaultOpener.toList defaultCloser.toList
      Program.lastResponsePayload.toList = some ([], lastResponseName.toList, []) := by decide
  have hrest : nextSpan? defaultOpener.toList defaultCloser.toList [] = none := by decide
  have hname : String.ofList (Text.dropAround lastResponseName.toList) = lastResponseName := by
    decide
  have hresolve : bindings.resolve? engine lastResponseName = some (.string reply) := by
    rw [resolve?_of_dotless bindings engine (by decide), hreply]
  have hlength : Program.lastResponsePayload.toList.length = 16 + 1 := by decide
  rw [substitute, hopener, hcloser]
  simp only [hlength]
  rw [substituteChars, hspan]
  simp only [hname, hresolve]
  rw [substituteChars, hrest]
  simp [Except.map, display]

end Variables

/-- An exchange that succeeds leaves the reply in its variable. -/
theorem Exchange.run_reply {settings : Settings} {state : ExecutionState} {world : World}
    (hok : (run settings state world).1 = .ok ()) :
    (run settings state world).2.1.bindings.get? Variables.lastResponseName =
      some (.string (lastReply (run settings state world).2.1.conversation)) := by
  refine run_cases settings state world
    (motive := fun outcome => outcome.1 = .ok () →
      outcome.2.1.bindings.get? Variables.lastResponseName =
        some (.string (lastReply outcome.2.1.conversation))) ?_ ?_ ?_ ?_ hok
  · intro error later hreplies hrequests herror hsame
    exact nomatch hsame
  · intro plan activeModel activeProvider later error next last hreplies hrequests hrun hsame
    exact nomatch hsame
  · intro plan activeModel activeProvider later error next last hreplies hrequests hrun herror hsame
    exact nomatch hsame
  · intro plan activeModel activeProvider later next last bindings hreplies hrequests hrun hset
      hsame
    exact Variables.get?_of_set hset

/-- A text that is shown is the payload, read with the variables. -/
theorem Statement.emit_ok {state next : ExecutionState} {world later : World} {payload : String}
    (hemit : emit state world payload = (.ok (), next, later)) :
    next = state ∧ ∃ text, state.substitute payload = .ok text ∧ later = world.print text := by
  rw [emit] at hemit
  split at hemit
  next text htext =>
    cases hemit
    exact ⟨rfl, text, htext, rfl⟩
  next => cases hemit

namespace Engine

variable {settings : Settings} {state final : ExecutionState} {world later : World}

/-- An exchange and the ending behind it show the payload of the ending, read with the variables
that the exchange left. -/
theorem Performs.ending {exchange : Statement} (hkind : exchange.kind = .exec)
    (hperforms : Performs settings (exchange :: Program.ending) state world final later) :
    final.bindings.get? Variables.lastResponseName =
        some (.string (Exchange.lastReply final.conversation)) ∧
      ∃ shown, later.output.getLast? = some shown ∧ ∀ values,
        final.bindings.substitute values Program.lastResponsePayload = .ok shown := by
  obtain ⟨answered, afterAnswer, hanswer, hperforms⟩ := hperforms.uncons
  obtain ⟨shown, afterShow, hshow, hperforms⟩ := hperforms.uncons
  obtain ⟨halted, afterHalt, hhalt, hperforms⟩ := hperforms.uncons
  cases hperforms
  cases hhalt
  have hexchange : Exchange.run settings state world = (.ok (), answered, afterAnswer) := by
    rw [← hanswer]
    simp only [Statement.perform, hkind]
  have hreply := Exchange.run_reply (by rw [hexchange])
  rw [hexchange] at hreply
  obtain ⟨rfl, text, htext, rfl⟩ := Statement.emit_ok hshow
  refine ⟨hreply, text, List.getLast?_concat, fun values => ?_⟩
  rw [← htext]
  exact Variables.substitute_of_dotless _ _ _ (by decide)

/-- A run of a script without a line that halts, from the beginning and with whatever values its
variables were given, leaves the model's last reply in its variable and shows last what the payload
of the ending reads as under the delimiters then in force.  That is the reply if these are the
default ones, and it is the payload itself if they mark nothing in it. -/
theorem completed_script_shows {source : String} {engine final : Engine} {status : RunStatus}
    (hparse : Program.parse source = .ok engine.state.statements)
    (hruns : ∀ line ∈ Line.ofSource source, line.kind ≠ some .halt)
    (hip : engine.state.ip = 0) (hstatus : engine.status = .running)
    (hrun : engine.run settings world = (.ok status, final, later)) :
    ∃ reply shown, reply = Exchange.lastReply final.state.conversation ∧
      final.state.bindings.get? Variables.lastResponseName = some (.string reply) ∧
      later.output.getLast? = some shown ∧
      (∀ values, final.state.bindings.substitute values Program.lastResponsePayload = .ok shown) ∧
      (final.state.bindings.opener = Variables.defaultOpener.toList →
        final.state.bindings.closer = Variables.defaultCloser.toList → shown = reply) ∧
      (Variables.nextSpan? final.state.bindings.opener final.state.bindings.closer
        Program.lastResponsePayload.toList = none → shown = Program.lastResponsePayload) := by
  obtain ⟨front, exchange, hstatements, hkind, hfront⟩ := Program.parse_of_runs hparse hruns
  have hperforms := run_performs hstatus hrun
  have hexchange : exchange.kind ≠ .halt := by simp [hkind]
  have hall : Program.untilHalt (front ++ exchange :: Program.ending) =
      front ++ exchange :: Program.ending := by
    rw [Program.untilHalt_append_of_runs _ hfront, Program.untilHalt, if_neg hexchange]
    rfl
  rw [hip, List.drop_zero, hstatements, hall] at hperforms
  obtain ⟨reached, between, -, hending⟩ := hperforms.of_append
  obtain ⟨hreply, shown, hshown, hreads⟩ := hending.ending hkind
  refine ⟨_, shown, rfl, hreply, hshown, hreads, ?_, ?_⟩
  · intro hopener hcloser
    have hreads := hreads []
    rw [Variables.substitute_lastResponsePayload hreply hopener hcloser] at hreads
    exact (Except.ok.inj hreads).symm
  · intro hspan
    have hreads := hreads []
    rw [Variables.substitute_of_nextSpan?_eq_none _ _ hspan] at hreads
    exact (Except.ok.inj hreads).symm

/-- A script that changes the opening delimiter. -/
def remarking : String :=
  ".set Prefix [[\n.set model m\n.set provider OpenAI\n.user hi"

def remarked : Engine :=
  new "s" ((Program.parse remarking).toOption.getD []) ⟨0, 0⟩

/-- A world in which the model answers once. -/
def answering : World :=
  { World.bare with
    replies := [.ok (.object [("choices", .array [.object [("message",
      .object [("content", .string "fine")])]])])] }

theorem completed_script_shows_remarked :
    (remarked.run .bare answering).1 = .ok .completed ∧
      (remarked.run .bare answering).2.1.state.bindings.get? Variables.lastResponseName =
        some (.string "fine") ∧
      (remarked.run .bare answering).2.2.output.getLast? = some Program.lastResponsePayload := by
  obtain ⟨hrun, hreply, hspan⟩ : (remarked.run .bare answering).1 = .ok .completed ∧
      (remarked.run .bare answering).2.1.state.bindings.get? Variables.lastResponseName =
        some (.string "fine") ∧
      Variables.nextSpan? (remarked.run .bare answering).2.1.state.bindings.opener
        (remarked.run .bare answering).2.1.state.bindings.closer
        Program.lastResponsePayload.toList = none := by decide +kernel
  have hends : remarked.run .bare answering = (.ok .completed,
      (remarked.run .bare answering).2.1, (remarked.run .bare answering).2.2) := by
    rw [← hrun]
  have hparse : Program.parse remarking = .ok remarked.state.statements := by decide +kernel
  have hruns : ∀ line ∈ Line.ofSource remarking, line.kind ≠ some .halt := by decide +kernel
  obtain ⟨reply, shown, -, -, hshown, -, -, hpayload⟩ :=
    completed_script_shows hparse hruns rfl rfl hends
  rw [hpayload hspan] at hshown
  exact ⟨hrun, hreply, hshown⟩

end Engine

end PromptScript
