import PromptScript.Proofs.Backend.Acceptance
import PromptScript.Proofs.Engine.Pairing

/-!
# The place of blocks over whole runs

Whatever a script writes, a provider replies and a function answers, every block of an engine's
conversation stands in a message that may hold it.  So every request of an exchange can be written,
and where an exchange fails over the form of a conversation, it is the reply that has no such form.
-/

namespace PromptScript

open Attempt (Avoids)

namespace Exchange

variable {settings : Settings} {plan : Plan} {state next reached : ExecutionState}
  {world later between : World}

theorem placed_resultMessage (results : List CallResult) : (resultMessage results).Placed := by
  intro block hblock
  obtain ⟨result, -, rfl⟩ := List.mem_map.mp hblock
  exact rfl

/-- Whatever comes of a turn, the reply that it takes in is a message of texts and calls. -/
theorem turn_placed {result : Except RunError (List Call)}
    (hturn : turn plan state world = (result, next, later))
    (hplaced : state.conversation.Placed) : next.conversation.Placed := by
  cases result with
  | error error =>
      rw [turn_error hturn]
      exact hplaced
  | ok calls =>
      cases turn_ok Json.inherited_true (fun _ _ => trivial) hturn with
      | @intro message counters hrole hsaid hnodup hfresh =>
          apply hplaced.push
          intro block hblock
          have hkind := hsaid block hblock
          rw [hrole]
          cases block with
          | text body => exact Role.noConfusion
          | call call => exact rfl
          | image picture => exact hkind.elim
          | result answer => exact hkind.elim

theorem afterRound_placed (hplaced : next.conversation.Placed) (results : List CallResult) :
    (afterRound next results).conversation.Placed :=
  hplaced.push (placed_resultMessage results)

theorem converse_placed (settings : Settings) (plan : Plan) (rounds : Nat)
    (state : ExecutionState) (hplaced : state.conversation.Placed) (world : World) :
    (converse settings plan rounds state world).2.1.conversation.Placed := by
  refine converse_induction settings plan
    (motive := fun state world outcome =>
      state.conversation.Placed → outcome.2.1.conversation.Placed)
    ?_ ?_ ?_ ?_ rounds state world hplaced
  · intro state world error later hturn hplaced
    exact hplaced
  · intro state world next later hturn hplaced
    exact turn_placed hturn hplaced
  · intro state world next later call rest reason hturn hplaced
    exact afterRound_placed (turn_placed hturn hplaced) _
  · intro state world next later call rest outcome hturn hlater hplaced
    exact hlater (afterRound_placed (turn_placed hturn hplaced) _)

theorem run_placed (settings : Settings) (hplaced : state.conversation.Placed) (world : World) :
    (run settings state world).2.1.conversation.Placed := by
  have hconverse : ∀ {plan activeModel activeProvider later result next last},
      converse settings plan settings.maxToolRounds { state with activeModel, activeProvider }
        later = (result, next, last) → next.conversation.Placed := by
    intro plan activeModel activeProvider later result next last hrun
    have hafter := converse_placed settings plan settings.maxToolRounds
      { state with activeModel, activeProvider } hplaced later
    rw [hrun] at hafter
    exact hafter
  refine run_cases settings state world
    (motive := fun outcome => outcome.2.1.conversation.Placed) ?_ ?_ ?_ ?_
  · intro error later hreplies hrequests herror
    exact hplaced
  · intro plan activeModel activeProvider later error next last hreplies hrequests hrun
    exact hconverse hrun
  · intro plan activeModel activeProvider later error next last hreplies hrequests hrun herror
    exact hconverse hrun
  · intro plan activeModel activeProvider later next last bindings hreplies hrequests hrun hset
    change next.conversation.Placed
    exact hconverse hrun

/-! ## The requests of an exchange -/

/-- The states and worlds that rounds of functions lead to, one after another. -/
inductive Rounds (settings : Settings) (plan : Plan) :
    ExecutionState → World → ExecutionState → World → Prop
  | refl (state : ExecutionState) (world : World) : Rounds settings plan state world state world
  | round {state next reached : ExecutionState} {world later between : World} {call : Call}
      {rest : List Call} (hturn : turn plan state world = (.ok (call :: rest), next, later))
      (hrounds : Rounds settings plan
        (afterRound next (dispatchAll settings later (call :: rest)).1)
        (dispatchAll settings later (call :: rest)).2 reached between) :
      Rounds settings plan state world reached between

/-- The states and worlds in which an exchange puts its conversation into a request: the first is
the one behind its preparation, and every round of functions leads to a further one. -/
inductive Asks (settings : Settings) (state : ExecutionState) (world : World) :
    Plan → ExecutionState → World → Prop
  | intro {model : Model} {refreshed between : World} {plan : Plan} {reached : ExecutionState}
      (hmodel : resolveModel settings state = .ok model)
      (hrefresh : world.refreshFunctions settings = (.ok (), refreshed))
      (hplan : Exchange.plan settings state refreshed.registry model = .ok plan)
      (hrounds : Rounds settings plan
        { state with activeModel := some model.name, activeProvider := some model.provider }
        refreshed reached between) : Asks settings state world plan reached between

theorem Rounds.placed (hrounds : Rounds settings plan state world reached between)
    (hplaced : state.conversation.Placed) : reached.conversation.Placed := by
  induction hrounds with
  | refl state world => exact hplaced
  | round hturn hrounds ih => exact ih (afterRound_placed (turn_placed hturn hplaced) _)

/-- An exchange that comes to a request has a key. -/
theorem apiKey_of_plan {registry : FunctionRegistry} {model : Model}
    (hplan : Exchange.plan settings state registry model = .ok plan) :
    plan.params.apiKey.isSome := by
  simp only [Exchange.plan, Attempt.bind_eq_ok_iff] at hplan
  obtain ⟨params, -, backend, -, hplan⟩ := hplan
  cases hkey : params.apiKey with
  | none => simp [hkey] at hplan
  | some key =>
      simp only [hkey, Option.isNone_some, Bool.false_eq_true, if_false,
        Attempt.pure_eq_ok_iff] at hplan
      rw [← hplan]
      simp [hkey]

/-- Every request of an exchange can be written. -/
theorem Asks.encodes (hasks : Asks settings state world plan reached between)
    (hplaced : state.conversation.Placed) :
    ∃ request, plan.backend.encode reached.conversation plan.tools plan.params = .ok request := by
  cases hasks with
  | intro hmodel hrefresh hplan hrounds =>
      have hreached := hrounds.placed hplaced
      exact (plan.backend.admits_encode _ plan.tools (apiKey_of_plan hplan)).exists_ok hreached

/-- Whether an attempt to send a request or to read the reply to it ends with an error. -/
def FailsBehind (plan : Plan) (world : World) (request : WireRequest) (error : RunError) : Prop :=
  (world.send plan.model.provider request).1.bind (plan.backend.decode · plan.model) = .error error

/-- A turn that fails over the form of something other than its request fails behind it. -/
theorem turn_fails_behind {request : WireRequest} {provider reason : String}
    (hencode : plan.backend.encode state.conversation plan.tools plan.params = .ok request)
    (hturn : turn plan state world = (.error (.conversion provider reason), next, later)) :
    FailsBehind plan world request (.conversion provider reason) := by
  rw [turn] at hturn
  rw [FailsBehind]
  split at hturn
  next => cases hturn
  next =>
    rw [hencode] at hturn
    simp only at hturn
    split at hturn
    next error sent hsend =>
      cases hturn
      rw [hsend]
      rfl
    next body sent hsend =>
      rw [hsend]
      split at hturn
      next error hdecode =>
        cases hturn
        exact hdecode
      next => cases hturn

/-- A conversation with the model that fails over the form of something fails in one of its rounds,
behind a request that was written. -/
theorem converse_fails_behind (settings : Settings) (plan : Plan) (hkey : plan.params.apiKey.isSome)
    (rounds : Nat) (state : ExecutionState) (hplaced : state.conversation.Placed)
    {provider reason : String} (hfails : (converse settings plan rounds state world).1 =
      .error (.conversion provider reason)) :
    ∃ reached between request, Rounds settings plan state world reached between ∧
      plan.backend.encode reached.conversation plan.tools plan.params = .ok request ∧
      FailsBehind plan between request (.conversion provider reason) := by
  refine converse_induction settings plan
    (motive := fun state world outcome => state.conversation.Placed →
      outcome.1 = .error (.conversion provider reason) →
        ∃ reached between request, Rounds settings plan state world reached between ∧
          plan.backend.encode reached.conversation plan.tools plan.params = .ok request ∧
          FailsBehind plan between request (.conversion provider reason))
    ?_ ?_ ?_ ?_ rounds state world hplaced hfails
  · intro state world error later hturn hplaced hfails
    cases hfails
    obtain ⟨request, hencode⟩ :=
      (plan.backend.admits_encode _ plan.tools hkey).exists_ok hplaced
    exact ⟨state, world, request, .refl state world, hencode, turn_fails_behind hencode hturn⟩
  · intro state world next later hturn hplaced hfails
    exact nomatch hfails
  · intro state world next later call rest limit hturn hplaced hfails
    exact nomatch hfails
  · intro state world next later call rest outcome hturn hlater hplaced hfails
    obtain ⟨reached, between, request, hrounds, hencode, hbehind⟩ :=
      hlater (afterRound_placed (turn_placed hturn hplaced) _) hfails
    exact ⟨reached, between, request, .round hturn hrounds, hencode, hbehind⟩

/-- An exchange that fails over the form of something fails behind one of its requests. -/
theorem run_fails_behind (hplaced : state.conversation.Placed) {provider reason : String}
    (hfails : (run settings state world).1 = .error (.conversion provider reason)) :
    ∃ plan reached between request, Asks settings state world plan reached between ∧
      plan.backend.encode reached.conversation plan.tools plan.params = .ok request ∧
      FailsBehind plan between request (.conversion provider reason) := by
  rw [run] at hfails
  split at hfails
  next error hmodel =>
    cases hfails
    exact absurd trivial (avoids_resolveModel settings state _ hmodel)
  next model hmodel =>
    split at hfails
    next error refreshed hrefresh =>
      cases hfails
      have havoids : Avoids RunError.OnConversation (world.refreshFunctions settings).1 :=
        avoids_refresh settings.runProgram world.registry world.tree
      rw [hrefresh] at havoids
      exact absurd trivial (havoids _ rfl)
    next refreshed hrefresh =>
      split at hfails
      next error hplan =>
        cases hfails
        exact absurd trivial (avoids_plan settings state _ model _ hplan)
      next plan hplan =>
        simp only at hfails
        split at hfails
        next error next last hconverse =>
          cases hfails
          obtain ⟨reached, between, request, hrounds, hencode, hbehind⟩ :=
            converse_fails_behind settings plan (apiKey_of_plan hplan) settings.maxToolRounds
              { state with
                activeModel := some model.name, activeProvider := some model.provider }
              hplaced (by rw [hconverse])
          exact ⟨plan, reached, between, request, .intro hmodel hrefresh hplan hrounds, hencode,
            hbehind⟩
        next next last hconverse =>
          split at hfails
          next error hset =>
            cases hfails
            exact absurd trivial (avoids_set _ _ _ _ hset)
          next => exact nomatch hfails

end Exchange

/-! ## Statements -/

namespace ExecutionState

variable {state next : ExecutionState} {settings : Settings} {world : World} {payload : String}

theorem appendText_placed (hplaced : state.conversation.Placed) (text : String) :
    (state.appendText text).conversation.Placed := by
  refine hplaced.appendBlock (by simp [Block.FitsIn]) ?_
  intro role haccept
  simpa [Block.FitsIn] using haccept

theorem appendCall_placed (hplaced : state.conversation.Placed) (call : Call) :
    (state.appendCall call).conversation.Placed := by
  refine hplaced.appendBlock (by simp [Block.FitsIn]) ?_
  intro role haccept
  simpa [Block.FitsIn] using haccept

theorem appendResult_placed (hplaced : state.conversation.Placed) (result : CallResult) :
    (state.appendResult result).conversation.Placed := by
  refine hplaced.appendBlock (by simp [Block.FitsIn]) ?_
  intro role haccept
  simpa [Block.FitsIn] using haccept

theorem say_placed {role : Role} (hrole : role ≠ .tool) (hplaced : state.conversation.Placed)
    (hsay : state.say role payload = .ok next) : next.conversation.Placed := by
  simp only [say, Attempt.bind_eq_ok_iff, Attempt.pure_eq_ok_iff] at hsay
  obtain ⟨text, -, rfl⟩ := hsay
  exact hplaced.push (Message.placed_ofText hrole text)

theorem attachImage_placed (hplaced : state.conversation.Placed)
    (hattach : state.attachImage settings world payload = .ok next) :
    next.conversation.Placed := by
  simp only [attachImage, Attempt.bind_eq_ok_iff, Attempt.pure_eq_ok_iff] at hattach
  obtain ⟨path, -, image, -, rfl⟩ := hattach
  refine hplaced.appendBlock (by simp [Block.FitsIn]) ?_
  intro role haccept
  simpa [Block.FitsIn] using haccept

theorem conversation_of_assign {name : String} {value : Json}
    (hassign : state.assign name value = .ok next) : next.conversation = state.conversation := by
  simp only [assign, Attempt.bind_eq_ok_iff, Attempt.pure_eq_ok_iff] at hassign
  obtain ⟨bindings, -, rfl⟩ := hassign
  rfl

theorem conversation_of_assignAll (state : ExecutionState) (values : List (String × Json)) :
    (state.assignAll values).2.conversation = state.conversation := by
  induction values generalizing state with
  | nil => rfl
  | cons entry rest ih =>
      rw [assignAll]
      split
      next next hassign => rw [ih, conversation_of_assign hassign]
      next => rfl

theorem conversation_of_chooseModel (catalog : Catalog) (state : ExecutionState)
    (payload : String) :
    (state.chooseModel catalog payload).2.conversation = state.conversation := by
  rw [chooseModel]
  split
  next => rfl
  next choice hchoice =>
    have hassigned := conversation_of_assignAll state choice.values
    split
    all_goals
      rename_i hlater
      rw [hlater] at hassigned
      exact hassigned

/-- The answer of a function is a text where it succeeds, and a call with its result where it
fails. -/
theorem takeAnswer_placed {invocation : Invocation} {answer : Except RunError String}
    (hplaced : state.conversation.Placed) (htake : state.takeAnswer invocation answer = .ok next) :
    next.conversation.Placed := by
  unfold takeAnswer at htake
  split at htake
  next =>
    rw [conversation_of_assign htake]
    exact hplaced
  next => exact nomatch htake
  next text hanswer =>
    cases htake
    exact appendText_placed hplaced text
  next error hanswer =>
    cases htake
    exact (appendCall_placed hplaced _).push (Exchange.placed_resultMessage _)

end ExecutionState

theorem Outcome.ofChange_placed {state : ExecutionState} {world : World}
    {change : Except RunError ExecutionState} (hplaced : state.conversation.Placed)
    (hchange : ∀ next, change = .ok next → next.conversation.Placed) :
    (Outcome.ofChange state world change).2.1.conversation.Placed := by
  cases change with
  | ok next => exact hchange next rfl
  | error error => exact hplaced

namespace Statement

theorem callFunction_placed (settings : Settings) {state : ExecutionState}
    (hplaced : state.conversation.Placed) (world : World) (payload : String) :
    (callFunction settings state world payload).2.1.conversation.Placed := by
  rw [callFunction]
  split
  next => exact hplaced
  next invocation hinvocation =>
    split
    next => exact hplaced
    next =>
      split
      next =>
        apply Outcome.ofChange_placed hplaced
        exact fun next htake => ExecutionState.takeAnswer_placed hplaced htake
      next => exact hplaced

/-- Every statement puts its blocks where they may stand, also where it fails. -/
theorem perform_placed (settings : Settings) (statement : Statement) {state : ExecutionState}
    (hplaced : state.conversation.Placed) (world : World) :
    (statement.perform settings state world).2.1.conversation.Placed := by
  have hsay : ∀ {role : Role}, role ≠ .tool → (Outcome.ofChange state world
      (state.say role statement.payload)).2.1.conversation.Placed := by
    intro role hrole
    exact Outcome.ofChange_placed hplaced fun next => ExecutionState.say_placed hrole hplaced
  rw [perform]
  cases hkind : statement.kind with
  | comment => exact hplaced
  | halt => exact hplaced
  | systemMessage => exact hsay Role.noConfusion
  | userMessage => exact hsay Role.noConfusion
  | assistantMessage => exact hsay Role.noConfusion
  | continuationText =>
      refine Outcome.ofChange_placed hplaced fun next hcontinue => ?_
      simp only [ExecutionState.continueText, Attempt.bind_eq_ok_iff,
        Attempt.pure_eq_ok_iff] at hcontinue
      obtain ⟨text, -, rfl⟩ := hcontinue
      exact ExecutionState.appendText_placed hplaced text
  | toolCall =>
      refine Outcome.ofChange_placed hplaced fun next hwrite => ?_
      simp only [ExecutionState.writeCall, Attempt.bind_eq_ok_iff,
        Attempt.pure_eq_ok_iff] at hwrite
      obtain ⟨text, -, head, -, arguments, -, rfl⟩ := hwrite
      exact ExecutionState.appendCall_placed hplaced _
  | toolResult =>
      refine Outcome.ofChange_placed hplaced fun next hwrite => ?_
      simp only [ExecutionState.writeResult, Attempt.bind_eq_ok_iff,
        Attempt.pure_eq_ok_iff] at hwrite
      obtain ⟨text, -, head, -, rfl⟩ := hwrite
      exact ExecutionState.appendResult_placed hplaced _
  | setVariable =>
      simp only
      refine Outcome.ofChange_placed hplaced fun next hset => ?_
      simp only [ExecutionState.setVariable, Attempt.bind_eq_ok_iff] at hset
      obtain ⟨text, -, hassign⟩ := hset
      rw [ExecutionState.conversation_of_assign hassign]
      exact hplaced
  | includeFile =>
      refine Outcome.ofChange_placed hplaced fun next hinclude => ?_
      simp only [ExecutionState.includeFile, Attempt.bind_eq_ok_iff,
        Attempt.pure_eq_ok_iff] at hinclude
      obtain ⟨path, -, text, -, rfl⟩ := hinclude
      exact ExecutionState.appendText_placed hplaced text
  | attachImage =>
      exact Outcome.ofChange_placed hplaced fun next => ExecutionState.attachImage_placed hplaced
  | setModel =>
      change (state.chooseModel settings.catalog statement.payload).2.conversation.Placed
      rw [ExecutionState.conversation_of_chooseModel]
      exact hplaced
  | exec => exact Exchange.run_placed settings hplaced world
  | callFunction => exact callFunction_placed settings hplaced world _
  | emitOutput =>
      simp only [emit]
      split <;> exact hplaced
  | debugDump =>
      simp only [debug]
      split <;> exact hplaced
  | deleteFiles =>
      simp only [delete]
      split <;> exact hplaced

end Statement

/-! ## Runs -/

/-- What enters a run of any program. -/
def Intake.any : Intake where
  statement _ := True
  value _ := True
  moment _ := True

namespace Engine

variable {intake : Intake} {engine : Engine}

theorem Reachable.placed (hengine : Reachable intake engine) :
    engine.state.conversation.Placed := by
  refine (state_induction (motive := fun state => state.conversation.Placed)
    ?_ ?_ ?_ ?_ ?_ ?_ hengine).1
  · intro sessionId statements hstatements
    exact Conversation.placed_nil
  · intro state filename hstate
    exact hstate
  · intro state name value bindings hstate hvalue hset
    exact hstate
  · intro settings state statement world hstate hstatement hworld
    exact statement.perform_placed settings hstate world
  · intro state hstate hip
    exact hstate
  · intro state statements hstate hstatements
    exact hstate

/-- Every block of a reachable engine's conversation stands where it may, so every backend that has
a key can turn the conversation into a request.  The same holds of every request of an exchange that
the engine runs next, and if that exchange fails over the form of something, it does so behind a
request that was written: where the request is sent or its reply is read. -/
theorem every_request_can_be_written (hengine : Reachable intake engine) :
    engine.state.conversation.Placed ∧
    (∀ (backend : Backend) tools (params : ModelParams), params.apiKey.isSome →
      ∃ request, backend.encode engine.state.conversation tools params = .ok request) ∧
    ∀ settings world,
      (∀ plan reached between, Exchange.Asks settings engine.state world plan reached between →
        ∃ request,
          plan.backend.encode reached.conversation plan.tools plan.params = .ok request) ∧
      ∀ line provider reason,
        (engine.step settings world).1 = .error ⟨line, .exec, .conversion provider reason⟩ →
          ∃ plan reached between request,
            Exchange.Asks settings engine.state world plan reached between ∧
            plan.backend.encode reached.conversation plan.tools plan.params = .ok request ∧
            Exchange.FailsBehind plan between request (.conversion provider reason) := by
  have hplaced := hengine.placed
  refine ⟨hplaced, ?_, ?_⟩
  · intro backend tools params hkey
    exact (backend.admits_encode _ tools hkey).exists_ok hplaced
  intro settings world
  constructor
  · intro plan reached between hasks
    exact hasks.encodes hplaced
  · intro line provider reason hfails
    refine step_cases settings engine world
      (motive := fun outcome => outcome.1 = .error ⟨line, .exec, .conversion provider reason⟩ →
        ∃ plan reached between request,
          Exchange.Asks settings engine.state world plan reached between ∧
          plan.backend.encode reached.conversation plan.tools plan.params = .ok request ∧
          Exchange.FailsBehind plan between request (.conversion provider reason))
      ?_ ?_ ?_ ?_ hfails
    · intro hstatus hsame
      exact nomatch hsame
    · intro hstatus hnone hsame
      exact nomatch hsame
    · intro statement next later hstatus hcurrent hrun hsame
      exact nomatch hsame
    · intro statement error next later hstatus hcurrent hrun hsame
      simp only [Except.error.injEq, StatementError.mk.injEq] at hsame
      obtain ⟨-, hkind, rfl⟩ := hsame
      have hexec : statement.perform settings engine.state world =
          Exchange.run settings engine.state world := by
        simp only [Statement.perform, hkind]
      rw [hexec] at hrun
      exact Exchange.run_fails_behind hplaced (by rw [hrun])

/-- An engine that has chosen a model and is about to ask it. -/
def asking : Engine :=
  (new "s" [.synthesized .setModel "\"model\": \"m\", \"provider\": \"OpenAI\"",
    .synthesized .exec ""] ⟨0, 0⟩ |>.step .bare .bare).2.1

/-- A world in which the model answers something that is no text. -/
def garbled : World :=
  { World.bare with
    replies := [.ok (.object [("choices", .array [.object [("message",
      .object [("content", .bool true)])]])])] }

theorem every_request_can_be_written_asking :
    (asking.step .bare garbled).1 = .error ⟨0, .exec,
        .conversion "OpenAI" "unexpected content value true"⟩ ∧
      ∃ plan reached between request,
        Exchange.Asks .bare asking.state garbled plan reached between ∧
        plan.backend.encode reached.conversation plan.tools plan.params = .ok request ∧
        Exchange.FailsBehind plan between request
          (.conversion "OpenAI" "unexpected content value true") := by
  have hengine : Reachable .any asking :=
    .step .bare (.new "s" (fun _ _ => trivial) trivial) (fun _ _ => trivial)
  have hfails : (asking.step .bare garbled).1 = .error ⟨0, .exec,
      .conversion "OpenAI" "unexpected content value true"⟩ := by decide +kernel
  refine ⟨hfails, ?_⟩
  exact ((every_request_can_be_written hengine).2.2 .bare garbled).2 0 _ _ hfails

end Engine

end PromptScript
