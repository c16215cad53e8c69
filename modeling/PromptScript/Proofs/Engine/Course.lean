import PromptScript.Proofs.Engine.Namespace
import PromptScript.Proofs.Engine.Transcript

/-!
# The course of an exchange

Everything that an exchange leaves behind can be read off its transcript: what it reports, the
requests, the messages, the counters and the variables.  The transcript bounds the number of
requests, and each request encodes the conversation with the rounds before it.
-/

namespace PromptScript

namespace Exchange

variable {settings : Settings} {plan : Plan} {state next : ExecutionState} {world later : World}

/-! ## What a transcript bounds -/

/-- Whether a round is a message of the model with calls, and one result for each of them. -/
structure Round.Paired (round : Round) : Prop where
  role : round.message.role = .assistant
  calls : round.message.calls ≠ []
  ids : round.results.map CallResult.id = round.message.calls.map Call.id
  names : round.results.map CallResult.name = round.message.calls.map Call.name

namespace Course

variable {registry : FunctionRegistry} {bound : Nat} {conversation : Conversation}
  {tree final : FileTree} {transcript : Transcript}

theorem paired (hcourse : Course settings plan registry bound conversation tree transcript final) :
    ∀ round ∈ transcript.allRounds, round.Paired := by
  induction hcourse with
  | failed hfault => exact fun round hround => nomatch hround
  | answered hreply hcalls => exact fun round hround => nomatch hround
  | @refused conversation tree reply hreply hcalls =>
      intro round hround
      obtain rfl := List.mem_singleton.mp hround
      exact ⟨hreply.role, hcalls, refusedResults_ids settings _, refusedResults_names settings _⟩
  | round hreply hcalls hanswered hlater ih =>
      intro other hother
      rcases List.mem_cons.mp hother with rfl | hrest
      · exact ⟨hreply.role, hcalls, hanswered.heads.1, hanswered.heads.2⟩
      · exact ih other hrest

/-- The reply behind the last round is one of the model, without calls. -/
theorem answers (hcourse : Course settings plan registry bound conversation tree transcript final) :
    ∀ reply ∈ transcript.ending.reply?,
      reply.message.role = .assistant ∧ reply.message.calls = [] := by
  induction hcourse with
  | failed hfault => exact fun reply hreply => nomatch hreply
  | answered hreply hcalls =>
      intro reply hsame
      obtain rfl := Option.some.inj hsame
      exact ⟨hreply.role, hcalls⟩
  | refused hreply hcalls => exact fun reply hreply => nomatch hreply
  | round hreply hcalls hanswered hlater ih => exact ih

theorem length_requests_le
    (hcourse : Course settings plan registry bound conversation tree transcript final) :
    transcript.requests.length ≤ bound + 1 := by
  induction hcourse with
  | @failed bound conversation tree request error hfault =>
      cases request <;> simp [Transcript.requests, Transcript.allRounds, Ending.round?,
        Ending.request?]
  | answered hreply hcalls =>
      simp [Transcript.requests, Transcript.allRounds, Ending.round?, Ending.request?]
  | refused hreply hcalls => exact Nat.le_refl 1
  | round hreply hcalls hanswered hlater ih => exact Nat.succ_le_succ ih

/-- A request encodes the conversation with the rounds before it. -/
theorem encodes (hcourse : Course settings plan registry bound conversation tree transcript final)
    {number : Nat} {request : WireRequest}
    (hrequest : transcript.requests[number]? = some request) :
    plan.backend.encode
      (conversation ++ (transcript.allRounds.take number).flatMap Round.messages)
      plan.tools plan.params = .ok request := by
  -- The only request of an exchange without rounds encodes the conversation at its beginning.
  have honly : ∀ {conversation : Conversation} {rounds : List Round} {number : Nat}
      {request sent : WireRequest},
      plan.backend.encode conversation plan.tools plan.params = .ok sent →
      [sent][number]? = some request →
      plan.backend.encode (conversation ++ (rounds.take number).flatMap Round.messages)
        plan.tools plan.params = .ok request := by
    intro conversation rounds number request sent hsent hnumber
    rw [List.getElem?_singleton] at hnumber
    split at hnumber
    next hzero =>
      rw [hzero, List.take_zero, List.flatMap_nil, List.append_nil, hsent,
        Option.some.inj hnumber]
    next => exact nomatch hnumber
  induction hcourse generalizing number with
  | failed hfault =>
      cases hfault with
      | unpaired hpaired => exact nomatch hrequest
      | unwritten hencode => exact nomatch hrequest
      | unread error hencode => exact honly hencode hrequest
  | answered hreply hcalls => exact honly hreply.request hrequest
  | refused hreply hcalls => exact honly hreply.request hrequest
  | round hreply hcalls hanswered hlater ih =>
      cases number with
      | zero =>
          rw [← Option.some.inj hrequest, List.take_zero, List.flatMap_nil, List.append_nil]
          exact hreply.request
      | succ number =>
          have hrest := ih hrequest
          rw [List.append_assoc] at hrest
          exact hrest

/-- Calls are refused behind as many rounds as the exchange may take, and all of them are. -/
theorem limit (hcourse : Course settings plan registry bound conversation tree transcript final) :
    ∀ round ∈ transcript.ending.round?, transcript.rounds.length = bound ∧
      round.results = refusedResults settings round.message.calls := by
  induction hcourse with
  | failed hfault => exact fun round hround => nomatch hround
  | answered hreply hcalls => exact fun round hround => nomatch hround
  | refused hreply hcalls =>
      intro round hround
      obtain rfl := Option.some.inj hround
      exact ⟨rfl, rfl⟩
  | round hreply hcalls hanswered hlater ih =>
      intro other hother
      obtain ⟨hlength, hresults⟩ := ih other hother
      exact ⟨congrArg Nat.succ hlength, hresults⟩

end Course

/-- The number of messages of the model is that of the replies that could be read. -/
theorem Transcript.length_completions {transcript : Transcript}
    (hrounds : ∀ round ∈ transcript.allRounds, round.Paired)
    (hreply : ∀ reply ∈ transcript.ending.reply?, reply.message.role = .assistant) :
    transcript.completions.length =
      transcript.messages.countP fun message => message.role == .assistant := by
  have hcount : ∀ rounds : List Round, (∀ round ∈ rounds, round.Paired) →
      (rounds.flatMap Round.messages).countP (fun message => message.role == .assistant) =
        rounds.length := by
    intro rounds hpaired
    induction rounds with
    | nil => rfl
    | cons round rest ih =>
        have hrole := (hpaired round List.mem_cons_self).role
        rw [List.flatMap_cons, List.countP_append, List.length_cons,
          ih fun other hother => hpaired other (List.mem_cons_of_mem _ hother)]
        simp [Round.messages, hrole, resultMessage, Nat.add_comm]
  rw [completions, messages, List.countP_append, hcount _ hrounds, List.length_append,
    List.length_map]
  cases hlast : transcript.ending.reply? with
  | none => rfl
  | some reply => simp [hreply reply hlast]

/-! ## Whole exchanges -/

/-- The text of the last reply is that of the reply without calls. -/
theorem lastReply_append {conversation : Conversation} {message : Message}
    (hrole : message.role = .assistant) :
    lastReply (conversation ++ [message]) = message.textContent := by
  simp [lastReply, hrole]

theorem Follows.bindings {bound : Nat} {transcript : Transcript} {result : Except RunError Unit}
    (hfollows : Follows settings plan bound state world transcript result next later) :
    next.bindings = state.bindings := by
  rw [hfollows.state]
  rfl

/-- An exchange that succeeds ends with a reply without calls, whose text is the last one. -/
theorem Follows.lastReply {bound : Nat} {transcript : Transcript}
    (hfollows : Follows settings plan bound state world transcript (.ok ()) next later) :
    ∃ reply, transcript.ending = .answered reply ∧
      Exchange.lastReply next.conversation = reply.message.textContent := by
  obtain ⟨reply, hending⟩ := Ending.exists_reply hfollows.result.symm
  have hrole := (hfollows.course.answers reply (by rw [hending]; rfl)).1
  have hconversation : next.conversation = state.conversation ++
      transcript.allRounds.flatMap Round.messages ++ [reply.message] := by
    rw [hfollows.state, List.append_assoc]
    simp [Transcript.after, Transcript.messages, hending, Ending.reply?]
  exact ⟨reply, hending, by rw [hconversation, lastReply_append hrole]⟩

/-- The requests of an exchange go to the backend of the model that it resolved. -/
theorem plan_eq_ok {registry : FunctionRegistry} {model : Model}
    (hplan : Exchange.plan settings state registry model = .ok plan) :
    plan.model = model ∧ Backend.ofProvider model.provider = .ok plan.backend := by
  simp only [Exchange.plan, Attempt.bind_eq_ok_iff] at hplan
  obtain ⟨params, -, backend, hbackend, hplan⟩ := hplan
  split at hplan
  next => simp at hplan
  next =>
    rw [Attempt.pure_eq_ok_iff] at hplan
    rw [← hplan]
    exact ⟨rfl, hbackend⟩

theorem writable_lastResponse : Variables.Writable Variables.lastResponseName :=
  Variables.writable_of_not_reserved (by decide) (by decide)

/-- An exchange is refused before its first request, or follows a transcript behind the look for
functions, and only a reply without calls leaves its text in a variable. -/
theorem run_follows (settings : Settings) (state : ExecutionState) (world : World) :
    (∃ error registry tree,
      run settings state world = (.error error, state, { world with registry, tree })) ∨
    ∃ plan refreshed transcript reached,
      resolveModel settings state = .ok plan.model ∧
      Backend.ofProvider plan.model.provider = .ok plan.backend ∧
      world.refreshFunctions settings = (.ok (), refreshed) ∧
      Follows settings plan settings.maxToolRounds
        { state with
          activeModel := some plan.model.name, activeProvider := some plan.model.provider }
        refreshed transcript (run settings state world).1 reached
        (run settings state world).2.2 ∧
      (run settings state world).2.1 =
        { reached with bindings := transcript.ending.bindings state.bindings } := by
  rw [run]
  split
  next error hmodel => exact .inl ⟨error, world.registry, world.tree, rfl⟩
  next model hmodel =>
    have hframe : (world.refreshFunctions settings).2 = { world with
        registry := (world.refreshFunctions settings).2.registry
        tree := (world.refreshFunctions settings).2.tree } := rfl
    rcases hrefresh : world.refreshFunctions settings with ⟨error | _, refreshed⟩
    all_goals rw [hrefresh] at hframe
    · exact .inl ⟨error, refreshed.registry, refreshed.tree, by rw [← hframe]⟩
    · simp only
      split
      next error hplan =>
        exact .inl ⟨error, refreshed.registry, refreshed.tree, by rw [← hframe]⟩
      next plan hplan =>
        obtain ⟨rfl, hbackend⟩ := plan_eq_ok hplan
        obtain ⟨transcript, hfollows⟩ := converse_follows settings plan settings.maxToolRounds
          { state with
            activeModel := some plan.model.name, activeProvider := some plan.model.provider }
          refreshed
        right
        rcases hconverse : converse settings plan settings.maxToolRounds
          { state with
            activeModel := some plan.model.name, activeProvider := some plan.model.provider }
          refreshed with ⟨error | _, reached, last⟩
        all_goals
          rw [hconverse] at hfollows
          have hstate : reached.bindings = state.bindings := hfollows.bindings
        · refine ⟨plan, refreshed, transcript, reached, hmodel, hbackend, rfl, hfollows, ?_⟩
          rw [Ending.bindings_of_error hfollows.result.symm, ← hstate]
        · obtain ⟨reply, hending, htext⟩ := hfollows.lastReply
          simp only [htext, writable_lastResponse.set_eq]
          refine ⟨plan, refreshed, transcript, reached, hmodel, hbackend, rfl, hfollows, ?_⟩
          rw [hending, ← hstate]
          rfl

/-- What an exchange leaves behind, by its transcript. -/
structure Leaves (settings : Settings) (plan : Plan) (transcript : Transcript)
    (state next : ExecutionState) (world later : World) : Prop where
  requests : later.requests = world.requests ++ transcript.requests
  bounded : transcript.requests.length ≤ settings.maxToolRounds + 1
  /-- A request encodes the conversation with the rounds before it. -/
  encoded : ∀ number request, transcript.requests[number]? = some request →
    plan.backend.encode
      (state.conversation ++ (transcript.allRounds.take number).flatMap Round.messages)
      plan.tools plan.params = .ok request
  conversation : next.conversation = state.conversation ++ transcript.messages
  paired : ∀ round ∈ transcript.allRounds, round.Paired
  answered : ∀ reply ∈ transcript.ending.reply?,
    reply.message.role = .assistant ∧ reply.message.calls = [] ∧
      next.conversation.getLast? = some reply.message
  limited : ∀ round ∈ transcript.ending.round?,
    transcript.rounds.length = settings.maxToolRounds ∧
      round.results = refusedResults settings round.message.calls
  /-- Each request takes one reply, and of these the completions were read. -/
  read : completions plan.backend plan.model (world.replies.take transcript.requests.length) =
    transcript.completions
  callCount : next.counters.callCount = state.counters.callCount +
    .ofNat (transcript.messages.countP fun message => message.role == .assistant)
  tokensIn : state.counters.tokensIn.toNat +
      (transcript.completions.map (·.usage.tokensIn.toNat)).sum < 2 ^ 64 →
    next.counters.tokensIn.toNat = state.counters.tokensIn.toNat +
      (transcript.completions.map (·.usage.tokensIn.toNat)).sum
  tokensOut : state.counters.tokensOut.toNat +
      (transcript.completions.map (·.usage.tokensOut.toNat)).sum < 2 ^ 64 →
    next.counters.tokensOut.toNat = state.counters.tokensOut.toNat +
      (transcript.completions.map (·.usage.tokensOut.toNat)).sum
  assigned : ∀ reply ∈ transcript.ending.reply?, ∀ name, next.bindings.get? name =
    if name = Variables.lastResponseName then some (.string reply.message.textContent)
    else state.bindings.get? name
  unassigned : transcript.ending.reply? = none → next.bindings = state.bindings

theorem Follows.leaves {transcript : Transcript} {activeModel activeProvider : Option String}
    {result : Except RunError Unit}
    (hfollows : Follows settings plan settings.maxToolRounds
      { state with activeModel, activeProvider } world transcript result next later) :
    Leaves settings plan transcript state
      { next with bindings := transcript.ending.bindings state.bindings } world later := by
  obtain ⟨hcourse, -, hstate, hsends⟩ := hfollows
  have hconversation : next.conversation = state.conversation ++ transcript.messages := by
    rw [hstate]
    rfl
  have hcounters : next.counters = state.counters.recordAll transcript.completions := by
    rw [hstate]
    rfl
  have hlength := Transcript.length_completions hcourse.paired
    fun reply hreply => (hcourse.answers reply hreply).1
  exact {
    requests := congrArg World.requests hsends.frame
    bounded := hcourse.length_requests_le
    encoded := fun number request hrequest => hcourse.encodes hrequest
    conversation := hconversation
    paired := hcourse.paired
    answered := by
      intro reply hreply
      obtain ⟨hrole, hcalls⟩ := hcourse.answers reply hreply
      refine ⟨hrole, hcalls, ?_⟩
      have hlast : transcript.ending.reply? = some reply := hreply
      change next.conversation.getLast? = _
      simp [hconversation, Transcript.messages, hlast]
    limited := hcourse.limit
    read := hsends.read
    callCount := by
      change next.counters.callCount = _
      rw [← UInt64.toNat_inj, hcounters,
        Counters.toNat_recordAll Counters.callCount (fun _ => 1) fun _ _ => rfl, ← hlength]
      simp
    tokensIn := by
      intro hfits
      change next.counters.tokensIn.toNat = _
      rw [hcounters, Counters.toNat_recordAll Counters.tokensIn (·.usage.tokensIn) fun _ _ => rfl,
        Nat.mod_eq_of_lt hfits]
    tokensOut := by
      intro hfits
      change next.counters.tokensOut.toNat = _
      rw [hcounters, Counters.toNat_recordAll Counters.tokensOut (·.usage.tokensOut) fun _ _ => rfl,
        Nat.mod_eq_of_lt hfits]
    assigned := by
      intro reply hreply name
      have hlast : transcript.ending.reply? = some reply := hreply
      change (transcript.ending.bindings state.bindings).get? name = _
      rw [Ending.bindings, hlast]
      change Json.lookup? name (Json.insertMember _ _ state.bindings.entries) = _
      simp only [Json.lookup?_insertMember, eq_comm]
      rfl
    unassigned := by
      intro hnone
      change transcript.ending.bindings state.bindings = _
      rw [Ending.bindings, hnone] }

/-- An exchange that is refused before its first request changes no state.  Any other goes as a
transcript says: it reports how the transcript ends, and leaves what the transcript accounts for,
whatever the replies are and whatever comes of the functions. -/
theorem exchange_goes_in_rounds (settings : Settings) (state : ExecutionState) (world : World) :
    (∃ error registry tree,
      run settings state world = (.error error, state, { world with registry, tree })) ∨
    ∃ plan refreshed transcript next later,
      resolveModel settings state = .ok plan.model ∧
      Backend.ofProvider plan.model.provider = .ok plan.backend ∧
      world.refreshFunctions settings = (.ok (), refreshed) ∧
      Course settings plan refreshed.registry settings.maxToolRounds state.conversation
        refreshed.tree transcript later.tree ∧
      run settings state world = (transcript.ending.result settings plan, next, later) ∧
      (transcript.ending.result settings plan = .ok () ↔ transcript.ending.reply?.isSome) ∧
      Leaves settings plan transcript state next world later := by
  rcases run_follows settings state world with hrefused |
    ⟨plan, refreshed, transcript, reached, hmodel, hbackend, hrefresh, hfollows, hnext⟩
  · exact .inl hrefused
  right
  have hframe : refreshed.requests = world.requests ∧ refreshed.replies = world.replies := by
    have hsame : (world.refreshFunctions settings).2 = refreshed := by rw [hrefresh]
    rw [← hsame]
    exact ⟨rfl, rfl⟩
  obtain ⟨hrequests, hreplies⟩ := hframe
  have hleaves := hfollows.leaves
  rw [← hnext] at hleaves
  refine ⟨plan, refreshed, transcript, (run settings state world).2.1,
    (run settings state world).2.2, hmodel, hbackend, hrefresh, hfollows.course,
    by rw [← hfollows.result], Ending.result_ok_iff, ?_⟩
  exact { hleaves with
    requests := by
      rw [← hrequests]
      exact hleaves.requests
    read := by
      rw [← hreplies]
      exact hleaves.read }

end Exchange

end PromptScript
