import PromptScript.Engine.Exchange
import PromptScript.Proofs.Engine.Change

/-!
# What an exchange leaves behind

A reply enters the conversation together with one result for each call that it asks for, so every
round of an exchange is one change of the state, also the last one before the exchange gives up.
An exchange complains about the pairing of calls and results only before its first request: the
conversation is paired then, and every round keeps it so.
-/

namespace PromptScript

open Attempt (Avoids)
open Conversation (callIdsOf resultsOf)
open Json (Inherited)

namespace World

/-- Whether the property holds of every reply that is still to come. -/
def Brings (property : Json → Prop) (world : World) : Prop :=
  ∀ body, .ok body ∈ world.replies → property body

/-- Whether no failure of a request that is still to come complains about the pairing of calls and
results. -/
def Plain (world : World) : Prop :=
  ∀ reply ∈ world.replies, Avoids RunError.OnPairing reply

theorem Brings.mono {property : Json → Prop} {world later : World} (hworld : world.Brings property)
    (hreplies : later.replies ⊆ world.replies) : later.Brings property :=
  fun body hbody => hworld body (hreplies hbody)

theorem Plain.mono {world later : World} (hworld : world.Plain)
    (hreplies : later.replies ⊆ world.replies) : later.Plain :=
  fun reply hreply => hworld reply (hreplies hreply)

theorem send_replies (world : World) (provider : String) (request : WireRequest) :
    (world.send provider request).2.replies ⊆ world.replies := by
  intro reply hreply
  unfold send at hreply
  split at hreply
  next first rest hreplies =>
    rw [hreplies]
    exact List.mem_cons_of_mem _ hreply
  next => exact hreply

/-- The reply to a request is one of those that were still to come, or else reports that none is
left. -/
theorem send_result (world : World) (provider : String) (request : WireRequest) :
    (world.send provider request).1 ∈ world.replies ∨
      ∃ reason, (world.send provider request).1 = .error (.providerApi provider reason) := by
  unfold send
  split
  next first rest hreplies =>
    left
    rw [hreplies]
    exact List.mem_cons_self
  next => exact .inr ⟨_, rfl⟩

@[simp]
theorem invoke_replies (world : World) (settings : Settings) (name : String) (arguments : Json) :
    (world.invoke settings name arguments).2.replies = world.replies := rfl

@[simp]
theorem refreshFunctions_replies (world : World) (settings : Settings) :
    (world.refreshFunctions settings).2.replies = world.replies := rfl

@[simp]
theorem refreshFunctions_requests (world : World) (settings : Settings) :
    (world.refreshFunctions settings).2.requests = world.requests := rfl

end World

namespace Exchange

variable {settings : Settings} {plan : Plan} {state next : ExecutionState} {world later : World}

/-! ## Results of calls -/

theorem dispatch_id (settings : Settings) (world : World) (call : Call) :
    (dispatch settings world call).1.id = call.id := by
  simp only [dispatch]
  split <;> rfl

theorem dispatch_replies (settings : Settings) (world : World) (call : Call) :
    (dispatch settings world call).2.replies = world.replies := by
  simp only [dispatch]
  split <;> rfl

/-- Calls are answered one by one, in order. -/
theorem dispatchAll_ids (settings : Settings) (world : World) (calls : List Call) :
    (dispatchAll settings world calls).1.map CallResult.id = calls.map Call.id := by
  induction calls generalizing world with
  | nil => rfl
  | cons call rest ih => simp only [dispatchAll, List.map_cons, dispatch_id, ih]

theorem dispatchAll_replies (settings : Settings) (world : World) (calls : List Call) :
    (dispatchAll settings world calls).2.replies = world.replies := by
  induction calls generalizing world with
  | nil => rfl
  | cons call rest ih => simp only [dispatchAll, ih, dispatch_replies]

theorem refusedResults_ids (settings : Settings) (calls : List Call) :
    (refusedResults settings calls).map CallResult.id = calls.map Call.id := by
  simp only [refusedResults, List.map_map]
  rfl

/-! ## Turns -/

/-- What a turn adds to a state: a message of the model that answers no call, with calls that are
new to the conversation. -/
inductive Turned (property : Json → Prop) (state : ExecutionState) :
    ExecutionState → List Call → Prop
  | intro {message : Message} (counters : Counters) (hrole : message.role = .assistant)
      (hsaid : ∀ block ∈ message.content, block.Said property)
      (hnodup : (callIdsOf message.content).Nodup)
      (hfresh : ∀ id ∈ callIdsOf message.content, id ∉ callIdsOf state.conversation.blocks) :
      Turned property state
        { state with conversation := state.conversation.push message, counters } message.calls

theorem said_assignBlocks {property : Json → Prop} (taken : List String) {blocks : List Block}
    (hsaid : ∀ block ∈ blocks, block.Said property) :
    ∀ block ∈ (CallIds.assignBlocks taken blocks).1, block.Said property := by
  induction blocks generalizing taken with
  | nil => exact fun block hblock => absurd hblock List.not_mem_nil
  | cons first rest ih =>
      have hfirst := hsaid first List.mem_cons_self
      have hrest := fun block hblock => hsaid block (List.mem_cons_of_mem _ hblock)
      intro block hblock
      cases first <;> rcases List.mem_cons.mp hblock with rfl | hlater
      all_goals first | exact hfirst | exact ih _ hrest block hlater

theorem turn_error {error : RunError} (hturn : turn plan state world = (.error error, next, later)) :
    next = state := by
  unfold turn at hturn
  split at hturn
  next =>
    cases hturn
    rfl
  next =>
    split at hturn
    next =>
      cases hturn
      rfl
    next =>
      split at hturn
      next =>
        cases hturn
        rfl
      next =>
        split at hturn
        next =>
          cases hturn
          rfl
        next => cases hturn

/-- A turn takes its reply from the replies that are still to come. -/
theorem turn_replies (plan : Plan) (state : ExecutionState) (world : World) :
    (turn plan state world).2.2.replies ⊆ world.replies := by
  unfold turn
  split
  next => exact List.Subset.refl _
  next =>
    split
    next => exact List.Subset.refl _
    next request hrequest =>
      have hsend := world.send_replies plan.model.provider request
      split
      next hsent =>
        rw [hsent] at hsend
        exact hsend
      next hsent =>
        rw [hsent] at hsend
        split <;> exact hsend

theorem turn_ok {property : Json → Prop} (hinherited : Inherited property)
    (hworld : world.Brings property) {calls : List Call}
    (hturn : turn plan state world = (.ok calls, next, later)) :
    Turned property state next calls := by
  unfold turn at hturn
  split at hturn
  next => cases hturn
  next =>
    split at hturn
    next => cases hturn
    next request hrequest =>
      split at hturn
      next => cases hturn
      next body sent hsend =>
        split at hturn
        next => cases hturn
        next completion hdecode =>
          have hbody : property body := by
            rcases world.send_result plan.model.provider request with hmem | ⟨reason, hnone⟩
            · rw [hsend] at hmem
              exact hworld body hmem
            · rw [hsend] at hnone
              exact nomatch hnone
          obtain ⟨message, hmessages, hrole, hsaid⟩ :=
            Backend.decode_messages hinherited plan.backend hbody hdecode
          obtain ⟨hnodup, hfresh⟩ :=
            Conversation.callIdsOf_assign state.conversation completion.messages
          rw [hmessages] at hturn hnodup hfresh
          simp only [CallIds.assign, CallIds.assignMessages, List.foldl_cons, List.foldl_nil,
            List.flatMap_cons, List.flatMap_nil, List.append_nil, Conversation.blocks]
            at hturn hnodup hfresh
          cases hturn
          refine .intro _ hrole ?_ hnodup hfresh
          exact said_assignBlocks _ hsaid

theorem turn_avoids (plan : Plan) (hpaired : state.conversation.Paired) (hplain : world.Plain) :
    Avoids RunError.OnPairing (turn plan state world).1 := by
  unfold turn
  rw [hpaired]
  simp only
  split
  next error hencode =>
    exact .error (Backend.avoids_encode plan.backend _ plan.tools plan.params error hencode)
  next request hrequest =>
    have hsent := world.send_result plan.model.provider request
    split
    next error sent hsend =>
      rw [hsend] at hsent
      rcases hsent with hmem | ⟨reason, hnone⟩
      · exact .error (hplain _ hmem error rfl)
      · cases hnone
        exact .error id
    next body sent hsend =>
      split
      next error hdecode =>
        exact .error (Backend.avoids_decode plan.backend body plan.model error hdecode)
      next => exact .ok _

/-- A conversation that is not paired is refused before it is sent. -/
theorem turn_of_unpaired (plan : Plan) {state : ExecutionState} (world : World)
    (hpaired : ¬state.conversation.Paired) :
    ∃ reason, turn plan state world = (.error (.invalidConversation reason), state, world) := by
  unfold turn
  split
  next error hcheck => exact ⟨_, rfl⟩
  next hcheck => exact absurd hcheck hpaired

/-- A turn and the results of the calls that it asks for are one change. -/
theorem Turned.change {property : Json → Prop} {calls : List Call}
    (hturned : Turned property state next calls) {conversation : Conversation}
    (results : List CallResult) (hids : results.map CallResult.id = calls.map Call.id)
    (hblocks : conversation.blocks = next.conversation.blocks ++ results.map Block.result) :
    state.Change property { next with conversation } := by
  cases hturned with
  | intro counters hrole hsaid hnodup hfresh =>
      refine .talk _ results ?_ (fun block hblock => (hsaid block hblock).spoken) hids hnodup hfresh
      simpa using hblocks

/-! ## Conversations -/

/-- The state behind a round that is not the last one: a turn and the results of its calls. -/
def afterRound (next : ExecutionState) (results : List CallResult) : ExecutionState :=
  { next with conversation := next.conversation.push (resultMessage results) }

theorem Turned.change_afterRound {property : Json → Prop} {calls : List Call}
    (hturned : Turned property state next calls) {results : List CallResult}
    (hids : results.map CallResult.id = calls.map Call.id) :
    state.Change property (afterRound next results) :=
  hturned.change results hids (Conversation.blocks_push _ _)

/-- A round takes its reply from the replies that are still to come. -/
theorem round_replies {calls : List Call} (hturn : turn plan state world = (.ok calls, next, later)) :
    (dispatchAll settings later calls).2.replies ⊆ world.replies := by
  have hreplies := turn_replies plan state world
  rw [hturn] at hreplies
  rw [dispatchAll_replies]
  exact hreplies

/-- What holds of an exchange follows from what holds behind each way in which a turn may end.  The
induction is on the number of rounds that are left. -/
theorem converse_induction (settings : Settings) (plan : Plan)
    {motive : ExecutionState → World → Except RunError Unit × ExecutionState × World → Prop}
    (hfailed : ∀ {state world error later},
      turn plan state world = (.error error, state, later) →
        motive state world (.error error, state, later))
    (hanswered : ∀ {state world next later}, turn plan state world = (.ok [], next, later) →
      motive state world (.ok (), next, later))
    (hlimit : ∀ {state world next later call rest reason},
      turn plan state world = (.ok (call :: rest), next, later) →
        motive state world (.error (.providerApi plan.model.provider reason),
          afterRound next (refusedResults settings (call :: rest)), later))
    (hround : ∀ {state world next later call rest outcome},
      turn plan state world = (.ok (call :: rest), next, later) →
        motive (afterRound next (dispatchAll settings later (call :: rest)).1)
          (dispatchAll settings later (call :: rest)).2 outcome →
        motive state world outcome)
    (rounds : Nat) (state : ExecutionState) (world : World) :
    motive state world (converse settings plan rounds state world) := by
  induction rounds generalizing state world with
  | zero =>
      rcases hturn : turn plan state world with ⟨error | calls, next, later⟩
      · rw [converse, hturn]
        have hsame := turn_error hturn
        subst hsame
        exact hfailed hturn
      · cases calls with
        | nil =>
            rw [converse, hturn]
            exact hanswered hturn
        | cons call rest =>
            rw [converse, hturn]
            exact hlimit hturn
  | succ rounds ih =>
      rcases hturn : turn plan state world with ⟨error | calls, next, later⟩
      · rw [converse, hturn]
        have hsame := turn_error hturn
        subst hsame
        exact hfailed hturn
      · cases calls with
        | nil =>
            rw [converse, hturn]
            exact hanswered hturn
        | cons call rest =>
            rw [converse, hturn]
            exact hround hturn (ih _ _)

/-- What an exchange does is a sequence of changes, wherever it stops. -/
theorem converse_changes {property : Json → Prop} (hinherited : Inherited property)
    (settings : Settings) (plan : Plan) (rounds : Nat) (state : ExecutionState)
    (hworld : world.Brings property) :
    ExecutionState.Changes property state (converse settings plan rounds state world).2.1 := by
  refine converse_induction settings plan
    (motive := fun state world outcome =>
      world.Brings property → ExecutionState.Changes property state outcome.2.1)
    ?_ ?_ ?_ ?_ rounds state world hworld
  · intro state world error later hturn hworld
    exact .refl state
  · intro state world next later hturn hworld
    exact .single ((turn_ok hinherited hworld hturn).change [] rfl (by simp))
  · intro state world next later call rest reason hturn hworld
    exact .single ((turn_ok hinherited hworld hturn).change_afterRound
      (refusedResults_ids settings _))
  · intro state world next later call rest outcome hturn hlater hworld
    have hround := (turn_ok hinherited hworld hturn).change_afterRound
      (dispatchAll_ids settings later (call :: rest))
    exact (ExecutionState.Changes.single hround).trans (hlater (hworld.mono (round_replies hturn)))

theorem converse_replies (settings : Settings) (plan : Plan) (rounds : Nat)
    (state : ExecutionState) (world : World) :
    (converse settings plan rounds state world).2.2.replies ⊆ world.replies := by
  have hsubset : ∀ {result state world next later},
      turn plan state world = (result, next, later) → later.replies ⊆ world.replies := by
    intro result state world next later hturn
    have hreplies := turn_replies plan state world
    rw [hturn] at hreplies
    exact hreplies
  refine converse_induction settings plan
    (motive := fun state world outcome => outcome.2.2.replies ⊆ world.replies)
    ?_ ?_ ?_ ?_ rounds state world
  · intro state world error later hturn
    exact hsubset hturn
  · intro state world next later hturn
    exact hsubset hturn
  · intro state world next later call rest reason hturn
    exact hsubset hturn
  · intro state world next later call rest outcome hturn hlater
    exact List.Subset.trans hlater (round_replies hturn)

/-- An exchange that begins with a paired conversation never complains about pairing. -/
theorem converse_avoids (settings : Settings) (plan : Plan) (rounds : Nat)
    (hpaired : state.conversation.Paired) (hplain : world.Plain) :
    Avoids RunError.OnPairing (converse settings plan rounds state world).1 := by
  refine converse_induction settings plan
    (motive := fun state world outcome =>
      state.conversation.Paired → world.Plain → Avoids RunError.OnPairing outcome.1)
    ?_ ?_ ?_ ?_ rounds state world hpaired hplain
  · intro state world error later hturn hpaired hplain
    have havoids := turn_avoids plan hpaired hplain
    rw [hturn] at havoids
    exact .error (havoids error rfl)
  · intro state world next later hturn hpaired hplain
    exact .ok ()
  · intro state world next later call rest reason hturn hpaired hplain
    exact .error id
  · intro state world next later call rest outcome hturn hlater hpaired hplain
    have hturned := turn_ok Json.inherited_true (fun _ _ => trivial) hturn
    have hround := hturned.change_afterRound (dispatchAll_ids settings later (call :: rest))
    exact hlater (hround.paired hpaired) (hplain.mono (round_replies hturn))

/-- An exchange about a conversation that is not paired leaves the world as it was. -/
theorem converse_of_unpaired (settings : Settings) (plan : Plan) (rounds : Nat)
    {state : ExecutionState} (world : World) (hpaired : ¬state.conversation.Paired) :
    (converse settings plan rounds state world).2.2 = world := by
  obtain ⟨reason, hturn⟩ := turn_of_unpaired plan world hpaired
  cases rounds <;> rw [converse, hturn]

/-- A successful turn appends one message of the model. -/
theorem turn_appends {calls : List Call}
    (hturn : turn plan state world = (.ok calls, next, later)) :
    ∃ message, message.role = .assistant ∧
      next.conversation = state.conversation ++ [message] := by
  cases turn_ok Json.inherited_true (fun _ _ => trivial) hturn with
  | intro counters hrole hsaid hnodup hfresh => exact ⟨_, hrole, rfl⟩

/-- An exchange that succeeds appends messages, the first of which is one of the model. -/
theorem converse_appends (settings : Settings) (plan : Plan) (rounds : Nat)
    (state : ExecutionState) (world : World)
    (hok : (converse settings plan rounds state world).1 = .ok ()) :
    ∃ message rest, message.role = .assistant ∧
      (converse settings plan rounds state world).2.1.conversation =
        state.conversation ++ message :: rest := by
  refine converse_induction settings plan
    (motive := fun state world outcome => outcome.1 = .ok () →
      ∃ message rest, message.role = .assistant ∧
        outcome.2.1.conversation = state.conversation ++ message :: rest)
    ?_ ?_ ?_ ?_ rounds state world hok
  · intro state world error later hturn hok
    exact nomatch hok
  · intro state world next later hturn hok
    obtain ⟨message, hrole, hnext⟩ := turn_appends hturn
    exact ⟨message, [], hrole, hnext⟩
  · intro state world next later call rest reason hturn hok
    exact nomatch hok
  · intro state world next later call rest outcome hturn hlater hok
    obtain ⟨message, hrole, hnext⟩ := turn_appends hturn
    obtain ⟨last, more, -, hlast⟩ := hlater hok
    refine ⟨message, resultMessage (dispatchAll settings later (call :: rest)).1 :: last :: more,
      hrole, ?_⟩
    rw [hlast]
    simp [afterRound, Conversation.push, hnext]

/-! ## Whole exchanges -/

theorem avoids_resolveModel (settings : Settings) (state : ExecutionState) :
    Avoids RunError.OnConversation (resolveModel settings state) := by
  unfold resolveModel
  simp only
  split
  next => exact .error id
  next name hname =>
    split
    next => exact .ok _
    next error hget =>
      split
      next => exact .ok _
      next =>
        refine .error ?_
        unfold Catalog.get at hget
        split at hget
        next => exact nomatch hget
        next =>
          cases hget
          exact id

theorem avoids_plan (settings : Settings) (state : ExecutionState)
    (registry : FunctionRegistry) (model : Model) :
    Avoids RunError.OnConversation (Exchange.plan settings state registry model) := by
  have hparams : Avoids RunError.OnConversation (params settings state model) := by
    refine Avoids.bind ?_ fun limit => .ok _
    unfold maxTokens
    split
    · exact .ok _
    · exact .ok _
    · split
      · split
        · exact .ok _
        · exact .error id
      · exact .error id
  unfold Exchange.plan
  refine hparams.bind fun params => ?_
  refine (Backend.avoids_ofProvider model.provider).bind fun backend => ?_
  simp only
  split
  · exact .throw_bind _ id
  · exact .ok _

theorem avoids_refresh (runProgram : ProgramRunner) (registry : FunctionRegistry)
    (tree : FileTree) : Avoids RunError.OnConversation (registry.refresh runProgram tree).1 := by
  unfold FunctionRegistry.refresh
  split
  · exact .error id
  · split
    · exact .error id
    · exact .ok ()

theorem avoids_set (bindings : Variables) (name : String) (value : Json) :
    Avoids RunError.OnConversation (bindings.set name value) := by
  unfold Variables.set
  split
  · exact .error id
  · split
    · exact .error id
    · exact .ok _

/-- What holds of an exchange follows from what holds where it is refused before its first request,
where the conversation with the model fails, where the reply finds no place, and where the exchange
succeeds and keeps the reply. -/
theorem run_cases (settings : Settings) (state : ExecutionState) (world : World)
    {motive : Except RunError Unit × ExecutionState × World → Prop}
    (hrefused : ∀ {error later}, later.replies = world.replies →
      later.requests = world.requests → ¬error.OnConversation → motive (.error error, state, later))
    (hfailed : ∀ {plan activeModel activeProvider later error next last},
      later.replies = world.replies → later.requests = world.requests →
      converse settings plan settings.maxToolRounds { state with activeModel, activeProvider }
        later = (.error error, next, last) → motive (.error error, next, last))
    (hlost : ∀ {plan activeModel activeProvider later error next last},
      later.replies = world.replies → later.requests = world.requests →
      converse settings plan settings.maxToolRounds { state with activeModel, activeProvider }
        later = (.ok (), next, last) → ¬error.OnConversation → motive (.error error, next, last))
    (hdone : ∀ {plan activeModel activeProvider later next last bindings},
      later.replies = world.replies → later.requests = world.requests →
      converse settings plan settings.maxToolRounds { state with activeModel, activeProvider }
        later = (.ok (), next, last) →
      next.bindings.set Variables.lastResponseName (.string (lastReply next.conversation)) =
        .ok bindings → motive (.ok (), { next with bindings }, last)) :
    motive (run settings state world) := by
  unfold run
  split
  next error hmodel => exact hrefused rfl rfl (avoids_resolveModel settings state error hmodel)
  next model hmodel =>
    have hrefresh : Avoids RunError.OnConversation (world.refreshFunctions settings).1 :=
      avoids_refresh settings.runProgram world.registry world.tree
    have hreplies := world.refreshFunctions_replies settings
    have hrequests := world.refreshFunctions_requests settings
    rcases hlater : world.refreshFunctions settings with ⟨error | _, later⟩
    all_goals rw [hlater] at hrefresh hreplies hrequests
    · exact hrefused hreplies hrequests (hrefresh error rfl)
    · simp only
      split
      next error hplan =>
        exact hrefused hreplies hrequests (avoids_plan settings state _ model error hplan)
      next plan hplan =>
        split
        next error next last hconverse => exact hfailed hreplies hrequests hconverse
        next next last hconverse =>
          split
          next error hset =>
            exact hlost hreplies hrequests hconverse (avoids_set _ _ _ error hset)
          next bindings hset => exact hdone hreplies hrequests hconverse hset

/-- Whatever stops an exchange, what it did to the state is a sequence of changes. -/
theorem run_changes {property : Json → Prop} (hinherited : Inherited property)
    (settings : Settings) (state : ExecutionState) (hworld : world.Brings property) :
    ExecutionState.Changes property state (run settings state world).2.1 := by
  have hconverse : ∀ {plan activeModel activeProvider later result next last},
      later.replies = world.replies →
      converse settings plan settings.maxToolRounds { state with activeModel, activeProvider }
        later = (result, next, last) → ExecutionState.Changes property state next := by
    intro plan activeModel activeProvider later result next last hreplies hrun
    have hlater : later.Brings property := hworld.mono (by rw [hreplies]; exact List.Subset.refl _)
    have hchanges := converse_changes hinherited settings plan settings.maxToolRounds
      { state with activeModel, activeProvider } hlater
    rw [hrun] at hchanges
    exact (ExecutionState.Changes.single (.choose activeModel activeProvider)).trans hchanges
  refine run_cases settings state world
    (motive := fun outcome => ExecutionState.Changes property state outcome.2.1) ?_ ?_ ?_ ?_
  · intro error later hreplies hrequests herror
    exact .refl state
  · intro plan activeModel activeProvider later error next last hreplies hrequests hrun
    exact hconverse hreplies hrun
  · intro plan activeModel activeProvider later error next last hreplies hrequests hrun herror
    exact hconverse hreplies hrun
  · intro plan activeModel activeProvider later next last bindings hreplies hrequests hrun hset
    exact (hconverse hreplies hrun).trans (.single (.assign (hinherited.text _) hset))

theorem run_replies (settings : Settings) (state : ExecutionState) (world : World) :
    (run settings state world).2.2.replies ⊆ world.replies := by
  have hconverse : ∀ {plan activeModel activeProvider later result next last},
      later.replies = world.replies →
      converse settings plan settings.maxToolRounds { state with activeModel, activeProvider }
        later = (result, next, last) → last.replies ⊆ world.replies := by
    intro plan activeModel activeProvider later result next last hreplies hrun
    have hsubset := converse_replies settings plan settings.maxToolRounds
      { state with activeModel, activeProvider } later
    rw [hrun, hreplies] at hsubset
    exact hsubset
  refine run_cases settings state world
    (motive := fun outcome => outcome.2.2.replies ⊆ world.replies) ?_ ?_ ?_ ?_
  · intro error later hreplies hrequests herror
    rw [hreplies]
    exact List.Subset.refl _
  · intro plan activeModel activeProvider later error next last hreplies hrequests hrun
    exact hconverse hreplies hrun
  · intro plan activeModel activeProvider later error next last hreplies hrequests hrun herror
    exact hconverse hreplies hrun
  · intro plan activeModel activeProvider later next last bindings hreplies hrequests hrun hset
    exact hconverse hreplies hrun

/-- An exchange that complains about pairing has sent nothing. -/
theorem run_requests_of_pairing (settings : Settings) (state : ExecutionState)
    (hplain : world.Plain) {error : RunError}
    (hresult : (run settings state world).1 = .error error) (hpairing : error.OnPairing) :
    (run settings state world).2.2.requests = world.requests := by
  have hconverse : ∀ {plan activeModel activeProvider later error next last},
      later.replies = world.replies → later.requests = world.requests →
      converse settings plan settings.maxToolRounds { state with activeModel, activeProvider }
        later = (.error error, next, last) → error.OnPairing → last.requests = world.requests := by
    intro plan activeModel activeProvider later error next last hreplies hrequests hrun hpairing
    by_cases hpaired : state.conversation.Paired
    · have hlater : later.Plain := hplain.mono (by rw [hreplies]; exact List.Subset.refl _)
      have havoids := converse_avoids settings plan settings.maxToolRounds
        (show { state with activeModel, activeProvider }.conversation.Paired from hpaired) hlater
      rw [hrun] at havoids
      exact absurd hpairing (havoids error rfl)
    · have hsame := converse_of_unpaired settings plan settings.maxToolRounds later
        (show ¬{ state with activeModel, activeProvider }.conversation.Paired from hpaired)
      rw [hrun] at hsame
      rw [← hrequests, ← hsame]
  refine run_cases settings state world
    (motive := fun outcome => outcome.1 = .error error → outcome.2.2.requests = world.requests)
    ?_ ?_ ?_ ?_ hresult
  · intro other later hreplies hrequests hother hsame
    exact hrequests
  · intro plan activeModel activeProvider later other next last hreplies hrequests hrun hsame
    cases hsame
    exact hconverse hreplies hrequests hrun hpairing
  · intro plan activeModel activeProvider later other next last hreplies hrequests hrun hother hsame
    cases hsame
    exact absurd hpairing.onConversation hother
  · intro plan activeModel activeProvider later next last bindings hreplies hrequests hrun hset
      hsame
    exact nomatch hsame

/-- An exchange that succeeds appends messages, the first of which is one of the model. -/
theorem run_appends (settings : Settings) (state : ExecutionState) (world : World)
    (hok : (run settings state world).1 = .ok ()) :
    ∃ message rest, message.role = .assistant ∧
      (run settings state world).2.1.conversation = state.conversation ++ message :: rest := by
  refine run_cases settings state world
    (motive := fun outcome => outcome.1 = .ok () → ∃ message rest, message.role = .assistant ∧
      outcome.2.1.conversation = state.conversation ++ message :: rest) ?_ ?_ ?_ ?_ hok
  · intro error later hreplies hrequests herror hsame
    exact nomatch hsame
  · intro plan activeModel activeProvider later error next last hreplies hrequests hrun hsame
    exact nomatch hsame
  · intro plan activeModel activeProvider later error next last hreplies hrequests hrun herror hsame
    exact nomatch hsame
  · intro plan activeModel activeProvider later next last bindings hreplies hrequests hrun hset
      hsame
    have happends := converse_appends settings plan settings.maxToolRounds
      { state with activeModel, activeProvider } later (by rw [hrun])
    rw [hrun] at happends
    exact happends

end Exchange

end PromptScript
