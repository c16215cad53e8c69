import Mathlib.Algebra.BigOperators.Group.List.Basic
import Mathlib.Algebra.GroupWithZero.Nat
import PromptScript.Proofs.Engine.Exchange

/-!
# Transcripts of exchanges

A conversation with a model goes in rounds.  In each of them the whole conversation is sent, the
reply asks for functions, and its message enters the conversation with one result for every call.
It ends with a reply that asks for none, behind the last round that it may take, or with an error.
A transcript lists what was sent and said on the way, and there is one for every conversation with a
model, with one constructor of `Course` for each way in which it may end.
-/

namespace PromptScript

/-! ## What exchanges count -/

namespace Counters

/-- The counters behind the completions of some requests. -/
def recordAll (counters : Counters) (completions : List Completion) : Counters :=
  completions.foldl
    (fun sums completion => sums.record completion.usage completion.costIn completion.costOut)
    counters

theorem recordAll_append (counters : Counters) (first second : List Completion) :
    counters.recordAll (first ++ second) = (counters.recordAll first).recordAll second :=
  List.foldl_append

/-- A count that grows by a word for each completion is the sum of the words, up to multiples of
2 ^ 64. -/
theorem toNat_recordAll (count : Counters → UInt64) (term : Completion → UInt64)
    (hrecord : ∀ counters (completion : Completion),
      count (counters.record completion.usage completion.costIn completion.costOut) =
        count counters + term completion)
    (counters : Counters) (completions : List Completion) :
    (count (counters.recordAll completions)).toNat =
      ((count counters).toNat + (completions.map fun completion => (term completion).toNat).sum)
        % 2 ^ 64 := by
  induction completions generalizing counters with
  | nil => simp [recordAll, Nat.mod_eq_of_lt (count counters).toNat_lt]
  | cons completion rest ih =>
      have hrest := ih (counters.record completion.usage completion.costIn completion.costOut)
      rw [hrecord, UInt64.toNat_add, Nat.mod_add_mod, Nat.add_assoc] at hrest
      exact hrest

end Counters

namespace Exchange

/-- The completions that a backend reads from replies.  A failure and a reply that cannot be read
give none. -/
def completions (backend : Backend) (model : Model) (replies : List (Except RunError Json)) :
    List Completion :=
  replies.filterMap fun reply => (reply.bind (backend.decode · model)).toOption

theorem completions_append (backend : Backend) (model : Model)
    (first second : List (Except RunError Json)) :
    completions backend model (first ++ second) =
      completions backend model first ++ completions backend model second :=
  List.filterMap_append

/-! ## Transcripts -/

/-- A reply that was taken in: the request before it, what was read of it, and the message that it
became. -/
structure Reply where
  request : WireRequest
  completion : Completion
  message : Message

/-- A reply that asks for functions, and what came of its calls. -/
structure Round extends Reply where
  results : List CallResult

/-- The messages of a round. -/
def Round.messages (round : Round) : List Message :=
  [round.message, resultMessage round.results]

/-- What stands behind the rounds of an exchange: a reply without calls, a round too many, or an
error, which may have come before or behind a further request. -/
inductive Ending where
  | answered (reply : Reply)
  | refused (round : Round)
  | failed (request : Option WireRequest) (error : RunError)

namespace Ending

/-- The round that was one too many. -/
def round? : Ending → Option Round
  | .refused round => some round
  | .answered _ | .failed _ _ => none

/-- The reply that asks for no function. -/
def reply? : Ending → Option Reply
  | .answered reply => some reply
  | .refused _ | .failed _ _ => none

/-- The request outside of all rounds. -/
def request? : Ending → Option WireRequest
  | .answered reply => some reply.request
  | .refused _ => none
  | .failed request _ => request

/-- What the exchange reports. -/
def result (settings : Settings) (plan : Plan) : Ending → Except RunError Unit
  | .answered _ => .ok ()
  | .refused _ => .error (.providerApi plan.model.provider
      ("model kept requesting functions after " ++ toString settings.maxToolRounds ++ " rounds"))
  | .failed _ error => .error error

/-- The variables behind the exchange: only a reply without calls leaves its text. -/
def bindings (before : Variables) (ending : Ending) : Variables :=
  match ending.reply? with
  | some reply => before.insert Variables.lastResponseName (.string reply.message.textContent)
  | none => before

variable {settings : Settings} {plan : Plan} {ending : Ending}

theorem exists_reply (hok : ending.result settings plan = .ok ()) :
    ∃ reply, ending = .answered reply := by
  cases ending with
  | answered reply => exact ⟨reply, rfl⟩
  | refused round => exact nomatch hok
  | failed request error => exact nomatch hok

theorem result_ok_iff : ending.result settings plan = .ok () ↔ ending.reply?.isSome := by
  cases ending <;> simp [result, reply?]

theorem bindings_of_error {error : RunError} (herror : ending.result settings plan = .error error)
    (before : Variables) : ending.bindings before = before := by
  cases ending with
  | answered reply => exact nomatch herror
  | refused round => rfl
  | failed request cause => rfl

end Ending

/-- What was sent and said in an exchange. -/
structure Transcript where
  /-- The rounds whose functions were run. -/
  rounds : List Round
  ending : Ending

namespace Transcript

/-- All rounds, also the one whose functions were not run. -/
def allRounds (transcript : Transcript) : List Round :=
  transcript.rounds ++ transcript.ending.round?.toList

/-- The requests, in order. -/
def requests (transcript : Transcript) : List WireRequest :=
  transcript.allRounds.map (·.request) ++ transcript.ending.request?.toList

/-- What was read of the replies that could be read, in order. -/
def completions (transcript : Transcript) : List Completion :=
  transcript.allRounds.map (·.completion) ++ transcript.ending.reply?.toList.map (·.completion)

/-- What enters the conversation. -/
def messages (transcript : Transcript) : List Message :=
  transcript.allRounds.flatMap Round.messages ++ transcript.ending.reply?.toList.map (·.message)

/-- The transcript with a round in front of the others. -/
def withRound (transcript : Transcript) (round : Round) : Transcript :=
  { transcript with rounds := round :: transcript.rounds }

end Transcript

/-! ## Calls and results -/

/-- Why a call gets no answer: no function has its name, its arguments do not fit the function, or
the function fails on them. -/
inductive Fails (settings : Settings) (registry : FunctionRegistry) (tree : FileTree)
    (call : Call) : Prop
  | unknown (hget : registry.get? call.name = none)
  | invalid {descriptor : FunctionDescriptor} {error : RunError}
      (hget : registry.get? call.name = some descriptor)
      (hcheck : FunctionRegistry.checkArguments descriptor call.arguments = .error error)
  | failed {descriptor : FunctionDescriptor} {error : RunError}
      (hget : registry.get? call.name = some descriptor)
      (hcheck : FunctionRegistry.checkArguments descriptor call.arguments = .ok ())
      (hanswer : FunctionRegistry.answerOf descriptor registry.limit
        (settings.runProgram tree ⟨descriptor.executable, [call.name],
          Text.toBytes call.arguments.render, registry.limit⟩).1 = .error error)

/-- Whether results belong to calls, one each in their order, when functions are run for the calls
one after another, each in the files that those before it left. -/
inductive Answered (settings : Settings) (registry : FunctionRegistry) :
    FileTree → List Call → List CallResult → FileTree → Prop
  | nil (tree : FileTree) : Answered settings registry tree [] [] tree
  | cons {tree final : FileTree} {call : Call} {rest : List Call} {result : CallResult}
      {results : List CallResult} (hid : result.id = call.id) (hname : result.name = call.name)
      (hfails : result.isError = true ↔ Fails settings registry tree call)
      (hrest : Answered settings registry
        (registry.invoke settings.runProgram call.name call.arguments tree).2 rest results final) :
      Answered settings registry tree (call :: rest) (result :: results) final

theorem fails_iff {settings : Settings} {registry : FunctionRegistry} {tree : FileTree}
    {call : Call} : Fails settings registry tree call ↔
      ∃ error, (registry.invoke settings.runProgram call.name call.arguments tree).1 =
        .error error := by
  constructor
  · rintro (hget | ⟨hget, hcheck⟩ | ⟨hget, hcheck, hanswer⟩)
    all_goals simp only [FunctionRegistry.invoke, hget]
    · exact ⟨_, rfl⟩
    · exact ⟨_, by rw [hcheck]⟩
    · exact ⟨_, by rw [hcheck, hanswer]⟩
  · rintro ⟨error, hinvoke⟩
    cases hget : registry.get? call.name with
    | none => exact .unknown hget
    | some descriptor =>
        cases hcheck : FunctionRegistry.checkArguments descriptor call.arguments with
        | error cause => exact .invalid hget hcheck
        | ok =>
            simp only [FunctionRegistry.invoke, hget, hcheck] at hinvoke
            exact .failed hget hcheck hinvoke

variable {settings : Settings} {plan : Plan} {state next : ExecutionState} {world later : World}
  {requests : List WireRequest} {read : List Completion}

/-- Running the function of a call changes nothing but the files. -/
theorem dispatch_tree (settings : Settings) (world : World) (call : Call) :
    (dispatch settings world call).2 = { world with
      tree := (world.registry.invoke settings.runProgram call.name call.arguments world.tree).2 }
    := by
  simp only [dispatch]
  split <;> rfl

theorem dispatch_name (settings : Settings) (world : World) (call : Call) :
    (dispatch settings world call).1.name = call.name := by
  simp only [dispatch]
  split <;> rfl

theorem dispatch_isError (settings : Settings) (world : World) (call : Call) :
    (dispatch settings world call).1.isError = true ↔
      Fails settings world.registry world.tree call := by
  rw [fails_iff]
  change _ ↔ ∃ error, (world.invoke settings call.name call.arguments).1 = .error error
  simp only [dispatch]
  cases (world.invoke settings call.name call.arguments).1 <;> simp [failedResult]

theorem dispatchAll_answered (settings : Settings) (world : World) (calls : List Call) :
    (dispatchAll settings world calls).2 =
        { world with tree := (dispatchAll settings world calls).2.tree } ∧
      Answered settings world.registry world.tree calls (dispatchAll settings world calls).1
        (dispatchAll settings world calls).2.tree := by
  induction calls generalizing world with
  | nil => exact ⟨rfl, .nil _⟩
  | cons call rest ih =>
      obtain ⟨hframe, hanswered⟩ := ih (dispatch settings world call).2
      have hfirst := dispatch_tree settings world call
      rw [hfirst] at hframe hanswered
      simp only [dispatchAll, hfirst]
      exact ⟨hframe, .cons (dispatch_id settings world call) (dispatch_name settings world call)
        (dispatch_isError settings world call) hanswered⟩

/-- The results have the identifiers and names of the calls. -/
theorem Answered.heads {registry : FunctionRegistry} {tree final : FileTree} {calls : List Call}
    {results : List CallResult} (hanswered : Answered settings registry tree calls results final) :
    results.map CallResult.id = calls.map Call.id ∧
      results.map CallResult.name = calls.map Call.name := by
  induction hanswered with
  | nil tree => exact ⟨rfl, rfl⟩
  | cons hid hname hfails hrest ih =>
      simp only [List.map_cons, hid, hname, ih, and_self]

theorem refusedResults_names (settings : Settings) (calls : List Call) :
    (refusedResults settings calls).map CallResult.name = calls.map Call.name := by
  simp only [refusedResults, List.map_map]
  rfl

/-! ## Turns -/

/-- Whether a world has sent requests and taken the next reply for each of them, of which the
backend could read some. -/
structure Sends (plan : Plan) (requests : List WireRequest) (read : List Completion)
    (world later : World) : Prop where
  frame : later = { world with
    requests := world.requests ++ requests
    replies := world.replies.drop requests.length }
  read : completions plan.backend plan.model (world.replies.take requests.length) = read

theorem Sends.refl (plan : Plan) (world : World) : Sends plan [] [] world world :=
  ⟨by simp, rfl⟩

theorem Sends.tree (hsends : Sends plan requests read world later) : later.tree = world.tree := by
  rw [hsends.frame]

theorem Sends.registry (hsends : Sends plan requests read world later) :
    later.registry = world.registry := by
  rw [hsends.frame]

/-- The files at the end are those at the beginning. -/
theorem Sends.with_tree (hsends : Sends plan requests read world later) :
    Sends plan requests read world { later with tree := world.tree } := by
  rw [← hsends.tree]
  exact hsends

theorem Sends.trans {first second : List WireRequest} {read further : List Completion}
    {final : World} (hfirst : Sends plan first read world later)
    (hsecond : Sends plan second further later final) :
    Sends plan (first ++ second) (read ++ further) world final where
  frame := by
    rw [hsecond.frame, hfirst.frame]
    simp [List.drop_drop]
  read := by
    have hreplies : later.replies = world.replies.drop first.length := by rw [hfirst.frame]
    rw [List.length_append, List.take_add, completions_append, hfirst.read, ← hreplies,
      hsecond.read]

/-- What is sent and taken has nothing to do with the files. -/
theorem Sends.of_tree {tree other : FileTree}
    (hsends : Sends plan requests read { world with tree } { later with tree }) :
    Sends plan requests read { world with tree := other } { later with tree := other } where
  frame := congrArg (fun world : World => { world with tree := other }) hsends.frame
  read := hsends.read

theorem send_sends {request : WireRequest} {reply : Except RunError Json}
    (hsend : world.send plan.model.provider request = (reply, later)) :
    Sends plan [request] (reply.bind (plan.backend.decode · plan.model)).toOption.toList
      world later := by
  unfold World.send at hsend
  split at hsend
  next first rest hreplies =>
    cases hsend
    refine ⟨by simp [hreplies], ?_⟩
    rw [hreplies]
    change completions _ _ [reply] = _
    rw [completions, List.filterMap_cons]
    cases (reply.bind (plan.backend.decode · plan.model)).toOption <;> rfl
  next hreplies =>
    cases hsend
    refine ⟨by simp [hreplies], ?_⟩
    rw [hreplies]
    rfl

/-- Whether a reply answers a conversation: its request encodes the conversation, and its message
is what was read of it with identifiers that are new to the conversation. -/
structure Reply.Answers (reply : Reply) (plan : Plan) (conversation : Conversation) : Prop where
  request : plan.backend.encode conversation plan.tools plan.params = .ok reply.request
  message : CallIds.assign conversation reply.completion.messages = [reply.message]
  role : reply.message.role = .assistant

/-- The state behind a reply. -/
def Reply.after (reply : Reply) (state : ExecutionState) : ExecutionState :=
  { state with
    conversation := state.conversation ++ [reply.message]
    counters := state.counters.recordAll [reply.completion] }

/-- How a turn fails: the conversation is not paired or has no form in which it can be sent, or it
was sent and no reply to it could be read. -/
inductive Fault (plan : Plan) (conversation : Conversation) : Option WireRequest → RunError → Prop
  | unpaired {cause : PairingError} (hpaired : conversation.checkPairing = .error cause) :
      Fault plan conversation none (.invalidConversation cause.message)
  | unwritten {error : RunError}
      (hencode : plan.backend.encode conversation plan.tools plan.params = .error error) :
      Fault plan conversation none error
  | unread {request : WireRequest} (error : RunError)
      (hencode : plan.backend.encode conversation plan.tools plan.params = .ok request) :
      Fault plan conversation (some request) error

/-- A turn that fails leaves the state as it was, and may have sent the conversation. -/
theorem turn_failed {error : RunError}
    (hturn : turn plan state world = (.error error, next, later)) :
    next = state ∧ ∃ request, Fault plan state.conversation request error ∧
      Sends plan request.toList [] world later := by
  refine ⟨turn_error hturn, ?_⟩
  unfold turn at hturn
  split at hturn
  next cause hpaired =>
    cases hturn
    exact ⟨none, .unpaired hpaired, .refl plan world⟩
  next =>
    split at hturn
    next cause hencode =>
      cases hturn
      exact ⟨none, .unwritten hencode, .refl plan world⟩
    next request hencode =>
      refine ⟨some request, .unread error hencode, ?_⟩
      split at hturn
      next cause sent hsend =>
        cases hturn
        exact send_sends hsend
      next body sent hsend =>
        have hsends := send_sends hsend
        split at hturn
        next cause hdecode =>
          cases hturn
          rw [Except.bind, hdecode] at hsends
          exact hsends
        next => cases hturn

/-- A turn that succeeds has taken a reply to the conversation. -/
theorem turn_taken {calls : List Call} (hturn : turn plan state world = (.ok calls, next, later)) :
    ∃ reply : Reply, reply.Answers plan state.conversation ∧ calls = reply.message.calls ∧
      next = reply.after state ∧ Sends plan [reply.request] [reply.completion] world later := by
  unfold turn at hturn
  split at hturn
  next => cases hturn
  next =>
    split at hturn
    next => cases hturn
    next request hencode =>
      split at hturn
      next => cases hturn
      next body sent hsend =>
        have hsends := send_sends hsend
        split at hturn
        next => cases hturn
        next completion hdecode =>
          rw [Except.bind, hdecode] at hsends
          obtain ⟨message, hmessages, hrole, -⟩ :=
            Backend.decode_messages Json.inherited_true plan.backend trivial hdecode
          obtain ⟨assigned, hassign, hassigned⟩ : ∃ assigned,
              CallIds.assign state.conversation completion.messages = [assigned] ∧
                assigned.role = .assistant := by
            rw [hmessages]
            exact ⟨_, rfl, hrole⟩
          rw [hassign] at hturn
          cases hturn
          refine ⟨⟨request, completion, assigned⟩, ⟨hencode, hassign, hassigned⟩, ?_, rfl, hsends⟩
          simp

/-! ## Conversations with a model -/

/-- Whether an exchange that may run the functions of so many rounds goes as a transcript says, from
a conversation and the files at its beginning to the files at its end. -/
inductive Course (settings : Settings) (plan : Plan) (registry : FunctionRegistry) :
    (bound : Nat) → Conversation → FileTree → Transcript → FileTree → Prop
  | failed {bound : Nat} {conversation : Conversation} {tree : FileTree}
      {request : Option WireRequest} {error : RunError}
      (hfault : Fault plan conversation request error) :
      Course settings plan registry bound conversation tree ⟨[], .failed request error⟩ tree
  | answered {bound : Nat} {conversation : Conversation} {tree : FileTree} {reply : Reply}
      (hreply : reply.Answers plan conversation) (hcalls : reply.message.calls = []) :
      Course settings plan registry bound conversation tree ⟨[], .answered reply⟩ tree
  | refused {conversation : Conversation} {tree : FileTree} {reply : Reply}
      (hreply : reply.Answers plan conversation) (hcalls : reply.message.calls ≠ []) :
      Course settings plan registry 0 conversation tree
        ⟨[], .refused ⟨reply, refusedResults settings reply.message.calls⟩⟩ tree
  | round {bound : Nat} {conversation : Conversation} {tree between final : FileTree}
      {round : Round} {transcript : Transcript} (hreply : round.Answers plan conversation)
      (hcalls : round.message.calls ≠ [])
      (hanswered : Answered settings registry tree round.message.calls round.results between)
      (hlater : Course settings plan registry bound (conversation ++ round.messages) between
        transcript final) :
      Course settings plan registry (bound + 1) conversation tree (transcript.withRound round)
        final

/-- The state behind what a transcript says. -/
def Transcript.after (transcript : Transcript) (state : ExecutionState) : ExecutionState :=
  { state with
    conversation := state.conversation ++ transcript.messages
    counters := state.counters.recordAll transcript.completions }

theorem Transcript.after_failed (request : Option WireRequest) (error : RunError)
    (state : ExecutionState) : Transcript.after ⟨[], .failed request error⟩ state = state := by
  change { state with conversation := state.conversation ++ [] } = state
  rw [List.append_nil]

theorem Transcript.after_refused (reply : Reply) (results : List CallResult)
    (state : ExecutionState) : Transcript.after ⟨[], .refused ⟨reply, results⟩⟩ state =
      Exchange.afterRound (reply.after state) results := by
  simp [after, messages, allRounds, completions, Round.messages, Ending.round?, Ending.reply?,
    Exchange.afterRound, Conversation.push, Reply.after]

theorem Transcript.after_withRound (transcript : Transcript) (reply : Reply)
    (results : List CallResult) (state : ExecutionState) :
    (transcript.withRound ⟨reply, results⟩).after state =
      transcript.after (Exchange.afterRound (reply.after state) results) := by
  simp [after, messages, allRounds, completions, Round.messages, withRound,
    Exchange.afterRound, Conversation.push, Reply.after, Counters.recordAll]

/-- Whether what comes of an exchange is what a transcript says. -/
structure Follows (settings : Settings) (plan : Plan) (bound : Nat) (state : ExecutionState)
    (world : World) (transcript : Transcript) (result : Except RunError Unit)
    (next : ExecutionState) (later : World) : Prop where
  course : Course settings plan world.registry bound state.conversation world.tree transcript
    later.tree
  result : result = transcript.ending.result settings plan
  state : next = transcript.after state
  sends : Sends plan transcript.requests transcript.completions world
    { later with tree := world.tree }

/-- A turn that fails ends the exchange. -/
theorem Follows.failed {error : RunError}
    (hturn : turn plan state world = (.error error, next, later)) (bound : Nat) :
    ∃ transcript, Follows settings plan bound state world transcript (.error error) next later := by
  obtain ⟨rfl, request, hfault, hsends⟩ := turn_failed hturn
  refine ⟨⟨[], .failed request error⟩, ?_, rfl, (Transcript.after_failed _ _ _).symm,
    hsends.with_tree⟩
  rw [hsends.tree]
  exact .failed hfault

/-- A reply without calls ends the exchange. -/
theorem Follows.answered (hturn : turn plan state world = (.ok [], next, later)) (bound : Nat) :
    ∃ transcript, Follows settings plan bound state world transcript (.ok ()) next later := by
  obtain ⟨reply, hreply, hcalls, rfl, hsends⟩ := turn_taken hturn
  refine ⟨⟨[], .answered reply⟩, ?_, rfl, rfl, hsends.with_tree⟩
  rw [hsends.tree]
  exact .answered hreply hcalls.symm

/-- Where no further round is left, the calls of a reply are refused. -/
theorem Follows.refused {call : Call} {rest : List Call}
    (hturn : turn plan state world = (.ok (call :: rest), next, later)) :
    ∃ transcript, Follows settings plan 0 state world transcript
      (.error (.providerApi plan.model.provider ("model kept requesting functions after "
        ++ toString settings.maxToolRounds ++ " rounds")))
      (afterRound next (refusedResults settings (call :: rest))) later := by
  obtain ⟨reply, hreply, hcalls, rfl, hsends⟩ := turn_taken hturn
  rw [hcalls]
  refine ⟨⟨[], .refused ⟨reply, refusedResults settings reply.message.calls⟩⟩, ?_, rfl,
    (Transcript.after_refused _ _ _).symm, hsends.with_tree⟩
  rw [hsends.tree]
  exact .refused hreply (by simp [← hcalls])

/-- A round in front of a conversation with the model. -/
theorem Follows.round {bound : Nat} {call : Call} {rest : List Call} {transcript : Transcript}
    {result : Except RunError Unit} {reached : ExecutionState} {final : World}
    (hturn : turn plan state world = (.ok (call :: rest), next, later))
    (hlater : Follows settings plan bound
      (afterRound next (dispatchAll settings later (call :: rest)).1)
      (dispatchAll settings later (call :: rest)).2 transcript result reached final) :
    ∃ transcript,
      Follows settings plan (bound + 1) state world transcript result reached final := by
  obtain ⟨reply, hreply, hcalls, rfl, hsends⟩ := turn_taken hturn
  obtain ⟨hdispatched, hanswered⟩ := dispatchAll_answered settings later (call :: rest)
  rw [hdispatched] at hlater
  rw [hsends.tree, hsends.registry] at hanswered
  obtain ⟨hcourse, hresult, hstate, hmore⟩ := hlater
  refine ⟨transcript.withRound ⟨reply, (dispatchAll settings later (call :: rest)).1⟩, ?_, hresult,
    ?_, ?_⟩
  · rw [hsends.registry] at hcourse
    have hresults : Answered settings world.registry world.tree reply.message.calls
        (dispatchAll settings later (call :: rest)).1
        (dispatchAll settings later (call :: rest)).2.tree := by
      rw [← hcalls]
      exact hanswered
    refine .round hreply (by simp [← hcalls]) hresults ?_
    simpa [afterRound, Conversation.push, Reply.after, Round.messages] using hcourse
  · rw [Transcript.after_withRound, hstate]
  · -- Behind the turn only the functions were run, and they change nothing but the files.
    have hbehind : Sends plan transcript.requests transcript.completions
        { later with tree := world.tree } { final with tree := world.tree } := hmore.of_tree
    rw [← hsends.tree] at hbehind ⊢
    change Sends plan ([reply.request] ++ transcript.requests)
      ([reply.completion] ++ transcript.completions) world { final with tree := later.tree }
    exact hsends.trans hbehind

/-- Every conversation with a model follows a transcript.  The induction is on the number of rounds
whose functions may still be run. -/
theorem converse_follows (settings : Settings) (plan : Plan) (bound : Nat) (state : ExecutionState)
    (world : World) : ∃ transcript, Follows settings plan bound state world transcript
      (converse settings plan bound state world).1 (converse settings plan bound state world).2.1
      (converse settings plan bound state world).2.2 := by
  induction bound generalizing state world with
  | zero =>
      rcases hturn : turn plan state world with ⟨error | _ | ⟨call, rest⟩, next, later⟩
      all_goals rw [converse, hturn]
      · exact Follows.failed hturn 0
      · exact Follows.answered hturn 0
      · exact Follows.refused hturn
  | succ bound ih =>
      rcases hturn : turn plan state world with ⟨error | _ | ⟨call, rest⟩, next, later⟩
      all_goals rw [converse, hturn]
      · exact Follows.failed hturn _
      · exact Follows.answered hturn _
      · obtain ⟨transcript, hlater⟩ := ih
          (afterRound next (dispatchAll settings later (call :: rest)).1)
          (dispatchAll settings later (call :: rest)).2
        exact hlater.round hturn

end Exchange

end PromptScript
