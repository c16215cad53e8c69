import PromptScript.Proofs.Conversation.Appending
import PromptScript.Proofs.Engine.Completion
import PromptScript.Proofs.Engine.Course
import PromptScript.Proofs.Engine.Halted

/-!
# What only grows in a run

Whatever a step does, successful or not, it goes on with the conversation and leaves the program and
the names of the session alone.  Of the rest of the state every kind of statement changes at most
its own part: an exchange the counters, an exchange and the choice of a model the active model, and
these two, assignments and function calls with a target the variables.
-/

namespace PromptScript

open Conversation (Grows)

/-!
## What exchanges count

The counters are words of 64 bits, so behind an exchange they hold the sums of what was counted as
long as these sums stay below 2 ^ 64, and do not decrease then.
-/

namespace Counters

/-- Whether no count passes the greatest word of 64 bits behind some completions. -/
structure Fits (counters : Counters) (completions : List Completion) : Prop where
  tokensIn : counters.tokensIn.toNat
    + (completions.map fun completion => completion.usage.tokensIn.toNat).sum < 2 ^ 64
  tokensOut : counters.tokensOut.toNat
    + (completions.map fun completion => completion.usage.tokensOut.toNat).sum < 2 ^ 64
  callCount : counters.callCount.toNat + completions.length < 2 ^ 64

variable {counters : Counters} {completions : List Completion}

/-- The counters hold the sums of what was counted, where these fit. -/
theorem Fits.sums (hfits : counters.Fits completions) :
    (counters.recordAll completions).tokensIn.toNat = counters.tokensIn.toNat
        + (completions.map fun completion => completion.usage.tokensIn.toNat).sum ∧
      (counters.recordAll completions).tokensOut.toNat = counters.tokensOut.toNat
        + (completions.map fun completion => completion.usage.tokensOut.toNat).sum ∧
      (counters.recordAll completions).callCount.toNat =
        counters.callCount.toNat + completions.length := by
  refine ⟨?_, ?_, ?_⟩
  · rw [toNat_recordAll Counters.tokensIn (·.usage.tokensIn) fun _ _ => rfl,
      Nat.mod_eq_of_lt hfits.tokensIn]
  · rw [toNat_recordAll Counters.tokensOut (·.usage.tokensOut) fun _ _ => rfl,
      Nat.mod_eq_of_lt hfits.tokensOut]
  · have hlength : (completions.map fun _ => (1 : UInt64).toNat).sum = completions.length := by
      simp
    rw [toNat_recordAll Counters.callCount (fun _ => 1) fun _ _ => rfl, hlength,
      Nat.mod_eq_of_lt hfits.callCount]

end Counters

/-- Whether a statement may give variables values: an exchange, the choice of a model, an
assignment, or a function call whose answer goes into a variable. -/
def Statement.Assigns (statement : Statement) (state : ExecutionState) : Prop :=
  statement.kind = .exec ∨ statement.kind = .setModel ∨ statement.kind = .setVariable ∨
    statement.kind = .callFunction ∧ ∃ invocation target,
      (state.substitute statement.payload).bind Invocation.ofText = .ok invocation ∧
        invocation.target = some target

/-- The completions that a statement reads from the replies that it takes: only an exchange takes
any, and it reads them with the backend of the model that it resolves. -/
inductive Statement.Takes (settings : Settings) (statement : Statement) (state : ExecutionState)
    (world later : World) : List Completion → Prop
  | nothing (hreplies : later.replies = world.replies) :
      Takes settings statement state world later []
  | replies {model : Model} {backend : Backend} {taken : List (Except RunError Json)}
      (hkind : statement.kind = .exec)
      (hmodel : Exchange.resolveModel settings state = .ok model)
      (hbackend : Backend.ofProvider model.provider = .ok backend)
      (hreplies : world.replies = taken ++ later.replies) :
      Takes settings statement state world later (Exchange.completions backend model taken)

/-- What a statement takes is determined by the replies that it leaves. -/
theorem Statement.Takes.unique {settings : Settings} {statement : Statement}
    {state : ExecutionState} {world later : World} {first second : List Completion}
    (hfirst : statement.Takes settings state world later first)
    (hsecond : statement.Takes settings state world later second) : first = second := by
  rcases hfirst with hreplies | ⟨hkind, hmodel, hbackend, hreplies⟩
  all_goals rcases hsecond with hothers | ⟨hkind, hagain, hbackends, hothers⟩
  · rfl
  · rw [hreplies, List.self_eq_append_left] at hothers
    rw [hothers]
    rfl
  · rw [hothers, List.self_eq_append_left] at hreplies
    rw [hreplies]
    rfl
  · obtain rfl := Except.ok.inj (hmodel.symm.trans hagain)
    obtain rfl := Except.ok.inj (hbackend.symm.trans hbackends)
    rw [List.append_cancel_right (hreplies.symm.trans hothers)]

/-- An exchange takes what its transcript says that was read. -/
theorem Exchange.Follows.takes {settings : Settings} {plan : Plan} {bound : Nat}
    {statement : Statement} {state active reached : ExecutionState} {world refreshed later : World}
    {transcript : Transcript} {result : Except RunError Unit}
    (hfollows : Follows settings plan bound active refreshed transcript result reached later)
    (hkind : statement.kind = .exec) (hmodel : resolveModel settings state = .ok plan.model)
    (hbackend : Backend.ofProvider plan.model.provider = .ok plan.backend)
    (hrefresh : world.refreshFunctions settings = (.ok (), refreshed)) :
    statement.Takes settings state world later transcript.completions := by
  obtain rfl : (world.refreshFunctions settings).2 = refreshed := by rw [hrefresh]
  have hlater : later.replies = world.replies.drop transcript.requests.length :=
    congrArg World.replies hfollows.sends.frame
  rw [← hfollows.sends.read]
  refine .replies hkind hmodel hbackend ?_
  rw [hlater]
  exact (List.take_append_drop _ world.replies).symm

/-- How a state goes on with an earlier one behind some statements, each with the state that it
found, and the completions that these took: what grows, what stays, and what changes only where a
statement of its own kind was performed. -/
structure ExecutionState.GoesOn (performed : List (ExecutionState × Statement))
    (taken : List Completion) (before after : ExecutionState) : Prop where
  conversation : Grows before.conversation after.conversation
  statements : after.statements = before.statements
  sessionId : after.sessionId = before.sessionId
  filename : after.filename = before.filename
  counters : after.counters = before.counters.recordAll taken
  uncounted : (∀ entry ∈ performed, entry.2.kind ≠ .exec) → after.counters = before.counters
  model : (∀ entry ∈ performed, entry.2.kind ≠ .exec ∧ entry.2.kind ≠ .setModel) →
    after.activeModel = before.activeModel ∧ after.activeProvider = before.activeProvider
  bindings : (∀ entry ∈ performed, ¬entry.2.Assigns entry.1) → after.bindings = before.bindings

namespace ExecutionState

variable {performed others : List (ExecutionState × Statement)} {taken further : List Completion}
  {state next last : ExecutionState} {settings : Settings} {world : World} {payload : String}

namespace GoesOn

/-- What only goes on with the conversation may do so at any place. -/
theorem of_conversation (performed : List (ExecutionState × Statement))
    {conversation : Conversation}
    (hgrows : Grows state.conversation conversation) :
    GoesOn performed [] state { state with conversation } :=
  ⟨hgrows, rfl, rfl, rfl, rfl, fun _ => rfl, fun _ => ⟨rfl, rfl⟩, fun _ => rfl⟩

theorem refl (performed : List (ExecutionState × Statement)) (state : ExecutionState) :
    GoesOn performed [] state state :=
  of_conversation performed (.refl _)

theorem of_bindings (hassigns : ∃ entry ∈ performed, entry.2.Assigns entry.1)
    (bindings : Variables) : GoesOn performed [] state { state with bindings } := by
  refine ⟨.refl _, rfl, rfl, rfl, rfl, fun _ => rfl, fun _ => ⟨rfl, rfl⟩, fun hnone => ?_⟩
  obtain ⟨entry, hentry, hassigned⟩ := hassigns
  exact absurd hassigned (hnone entry hentry)

theorem trans (hfirst : GoesOn performed taken state next)
    (hsecond : GoesOn others further next last) :
    GoesOn (performed ++ others) (taken ++ further) state last := by
  refine ⟨hfirst.conversation.trans hsecond.conversation,
    hsecond.statements.trans hfirst.statements, hsecond.sessionId.trans hfirst.sessionId,
    hsecond.filename.trans hfirst.filename, ?_, ?_, ?_, ?_⟩
  · rw [hsecond.counters, hfirst.counters, Counters.recordAll_append]
  · intro hnone
    obtain ⟨hone, htwo⟩ := List.forall_mem_append.mp hnone
    exact (hsecond.uncounted htwo).trans (hfirst.uncounted hone)
  · intro hnone
    obtain ⟨hone, htwo⟩ := List.forall_mem_append.mp hnone
    exact ⟨(hsecond.model htwo).1.trans (hfirst.model hone).1,
      (hsecond.model htwo).2.trans (hfirst.model hone).2⟩
  · intro hnone
    obtain ⟨hone, htwo⟩ := List.forall_mem_append.mp hnone
    exact (hsecond.bindings htwo).trans (hfirst.bindings hone)

/-- The position is no part of what goes on. -/
theorem move (hgoesOn : GoesOn performed taken state next) (ip : Nat) :
    GoesOn performed taken state { next with ip } :=
  { hgoesOn with }

end GoesOn

/-! ## Statements -/

/-- Whether a state differs from an earlier one at most in a conversation that goes on. -/
def Speaks (state next : ExecutionState) : Prop :=
  ∃ conversation, Grows state.conversation conversation ∧ next = { state with conversation }

theorem Speaks.goesOn (hspeaks : Speaks state next)
    (performed : List (ExecutionState × Statement)) :
    GoesOn performed [] state next := by
  obtain ⟨conversation, hgrows, rfl⟩ := hspeaks
  exact .of_conversation performed hgrows

theorem speaks_push (state : ExecutionState) (message : Message) :
    Speaks state (state.push message) :=
  ⟨_, .push _ _, rfl⟩

theorem speaks_appendBlock (state : ExecutionState) (accept : Role → Bool) (role : Role)
    (block : Block) : Speaks state (state.appendBlock accept role block) :=
  ⟨_, .appendBlock _ _ _ _, rfl⟩

theorem speaks_say {role : Role} (hsay : state.say role payload = .ok next) :
    Speaks state next := by
  simp only [say, Attempt.bind_eq_ok_iff, Attempt.pure_eq_ok_iff] at hsay
  obtain ⟨text, -, rfl⟩ := hsay
  exact speaks_push state _

theorem speaks_continueText (hcontinue : state.continueText payload = .ok next) :
    Speaks state next := by
  simp only [continueText, Attempt.bind_eq_ok_iff, Attempt.pure_eq_ok_iff] at hcontinue
  obtain ⟨text, -, rfl⟩ := hcontinue
  exact speaks_appendBlock state _ _ _

theorem speaks_writeCall (hwrite : state.writeCall payload = .ok next) : Speaks state next := by
  simp only [writeCall, Attempt.bind_eq_ok_iff, Attempt.pure_eq_ok_iff] at hwrite
  obtain ⟨text, -, head, -, arguments, -, rfl⟩ := hwrite
  exact speaks_appendBlock state _ _ _

theorem speaks_writeResult (hwrite : state.writeResult payload = .ok next) : Speaks state next := by
  simp only [writeResult, Attempt.bind_eq_ok_iff, Attempt.pure_eq_ok_iff] at hwrite
  obtain ⟨text, -, head, -, rfl⟩ := hwrite
  exact speaks_appendBlock state _ _ _

theorem speaks_includeFile (hinclude : state.includeFile settings world payload = .ok next) :
    Speaks state next := by
  simp only [includeFile, Attempt.bind_eq_ok_iff, Attempt.pure_eq_ok_iff] at hinclude
  obtain ⟨path, -, text, -, rfl⟩ := hinclude
  exact speaks_appendBlock state _ _ _

theorem speaks_attachImage (hattach : state.attachImage settings world payload = .ok next) :
    Speaks state next := by
  simp only [attachImage, Attempt.bind_eq_ok_iff, Attempt.pure_eq_ok_iff] at hattach
  obtain ⟨path, -, image, -, rfl⟩ := hattach
  exact speaks_appendBlock state _ _ _

theorem speaks_recordFailure (state : ExecutionState) (invocation : Invocation) (error : RunError) :
    Speaks state (state.recordFailure invocation error) :=
  ⟨_, (Grows.appendBlock _ _ _ _).trans (.push _ _), rfl⟩

theorem assign_eq {name : String} {value : Json} (hassign : state.assign name value = .ok next) :
    ∃ bindings, next = { state with bindings } := by
  simp only [assign, Attempt.bind_eq_ok_iff, Attempt.pure_eq_ok_iff] at hassign
  obtain ⟨bindings, -, rfl⟩ := hassign
  exact ⟨bindings, rfl⟩

theorem assignAll_eq (state : ExecutionState) (values : List (String × Json)) :
    ∃ bindings, (state.assignAll values).2 = { state with bindings } := by
  induction values generalizing state with
  | nil => exact ⟨state.bindings, rfl⟩
  | cons entry rest ih =>
      rw [assignAll]
      split
      next next hassign =>
        obtain ⟨bindings, rfl⟩ := assign_eq hassign
        exact ih _
      next => exact ⟨state.bindings, rfl⟩

/-- The choice of a model changes at most the variables and the active model. -/
theorem chooseModel_eq (catalog : Catalog) (state : ExecutionState) (payload : String) :
    ∃ bindings activeModel activeProvider, (state.chooseModel catalog payload).2 =
      { state with bindings, activeModel, activeProvider } := by
  rw [chooseModel]
  split
  next => exact ⟨_, _, _, rfl⟩
  next choice hchoice =>
    obtain ⟨bindings, hassigned⟩ := assignAll_eq state choice.values
    split
    all_goals
      rename_i later hlater
      rw [hlater] at hassigned
      obtain rfl : later = _ := hassigned
      exact ⟨_, _, _, rfl⟩

/-- A function call with a target sets it, and any other speaks. -/
theorem takeAnswer_goesOn {statement : Statement} {invocation : Invocation}
    {answer : Except RunError String} (hkind : statement.kind = .callFunction)
    (hinvocation : (state.substitute statement.payload).bind Invocation.ofText = .ok invocation)
    (htake : state.takeAnswer invocation answer = .ok next) :
    GoesOn [(state, statement)] [] state next := by
  unfold takeAnswer at htake
  split at htake
  next target text htarget =>
    obtain ⟨bindings, rfl⟩ := assign_eq htake
    refine .of_bindings ⟨_, List.mem_cons_self, ?_⟩ bindings
    exact .inr (.inr (.inr ⟨hkind, invocation, target, hinvocation, htarget⟩))
  next => exact nomatch htake
  next =>
    cases htake
    exact (speaks_appendBlock state _ _ _).goesOn _
  next =>
    cases htake
    exact (speaks_recordFailure state invocation _).goesOn _

end ExecutionState

namespace Statement

open ExecutionState (GoesOn Speaks)

variable {statement : Statement} {state : ExecutionState} {world : World}

theorem callFunction_goesOn (settings : Settings) (hkind : statement.kind = .callFunction)
    (state : ExecutionState) (world : World) :
    GoesOn [(state, statement)] [] state
      (callFunction settings state world statement.payload).2.1 := by
  rw [callFunction]
  split
  next => exact .refl _ state
  next invocation hinvocation =>
    split
    next => exact .refl _ state
    next =>
      split
      next =>
        apply Outcome.ofChange_state (.refl _ state)
        exact fun next htake => ExecutionState.takeAnswer_goesOn hkind hinvocation htake
      next => exact .refl _ state

theorem exchange_goesOn (settings : Settings) (hkind : statement.kind = .exec)
    (state : ExecutionState) (world : World) : ∃ taken,
      statement.Takes settings state world (Exchange.run settings state world).2.2 taken ∧
        GoesOn [(state, statement)] taken state (Exchange.run settings state world).2.1 := by
  rcases Exchange.run_follows settings state world with ⟨error, registry, tree, hrefused⟩ |
    ⟨plan, refreshed, transcript, reached, hmodel, hbackend, hrefresh, hfollows, hnext⟩
  · rw [hrefused]
    exact ⟨[], .nothing rfl, .refl _ state⟩
  · refine ⟨_, hfollows.takes hkind hmodel hbackend hrefresh, ?_⟩
    rw [hnext, hfollows.state]
    refine ⟨.append _ _, rfl, rfl, rfl, rfl, ?_, ?_, ?_⟩
    · exact fun hnone => absurd hkind (hnone _ List.mem_cons_self)
    · exact fun hnone => absurd hkind (hnone _ List.mem_cons_self).1
    · exact fun hnone => absurd (.inl hkind) (hnone _ List.mem_cons_self)

/-- Whatever a statement does, whether it succeeds or fails, the state goes on. -/
theorem perform_goesOn (settings : Settings) (statement : Statement) (state : ExecutionState)
    (world : World) : ∃ taken,
      statement.Takes settings state world (statement.perform settings state world).2.2 taken ∧
        GoesOn [(state, statement)] taken state (statement.perform settings state world).2.1 := by
  by_cases hexec : statement.kind = .exec
  · have hrun : statement.perform settings state world = Exchange.run settings state world := by
      simp only [perform, hexec]
    rw [hrun]
    exact exchange_goesOn settings hexec state world
  refine ⟨[], .nothing (perform_replies_eq settings hexec state world), ?_⟩
  have hspeaks : ∀ {change : Except RunError ExecutionState},
      (∀ next, change = .ok next → Speaks state next) →
        GoesOn [(state, statement)] [] state (Outcome.ofChange state world change).2.1 := by
    intro change hchange
    exact Outcome.ofChange_state (.refl _ state) fun next hnext => (hchange next hnext).goesOn _
  rw [perform]
  cases hkind : statement.kind with
  | comment => exact .refl _ state
  | halt => exact .refl _ state
  | systemMessage => exact hspeaks fun next => ExecutionState.speaks_say
  | userMessage => exact hspeaks fun next => ExecutionState.speaks_say
  | assistantMessage => exact hspeaks fun next => ExecutionState.speaks_say
  | continuationText => exact hspeaks fun next => ExecutionState.speaks_continueText
  | toolCall => exact hspeaks fun next => ExecutionState.speaks_writeCall
  | toolResult => exact hspeaks fun next => ExecutionState.speaks_writeResult
  | includeFile => exact hspeaks fun next => ExecutionState.speaks_includeFile
  | attachImage => exact hspeaks fun next => ExecutionState.speaks_attachImage
  | setVariable =>
      apply Outcome.ofChange_state (.refl _ state)
      intro next hset
      simp only [ExecutionState.setVariable, Attempt.bind_eq_ok_iff] at hset
      obtain ⟨text, -, hassign⟩ := hset
      obtain ⟨bindings, rfl⟩ := ExecutionState.assign_eq hassign
      exact .of_bindings ⟨_, List.mem_cons_self, .inr (.inr (.inl hkind))⟩ bindings
  | setModel =>
      obtain ⟨bindings, activeModel, activeProvider, hchoose⟩ :=
        ExecutionState.chooseModel_eq settings.catalog state statement.payload
      change GoesOn _ _ state (state.chooseModel settings.catalog statement.payload).2
      rw [hchoose]
      refine ⟨.refl _, rfl, rfl, rfl, rfl, fun _ => rfl, ?_, ?_⟩
      · exact fun hnone => absurd hkind (hnone _ List.mem_cons_self).2
      · exact fun hnone => absurd (.inr (.inl hkind)) (hnone _ List.mem_cons_self)
  | exec => exact absurd hkind hexec
  | callFunction => exact callFunction_goesOn settings hkind state world
  | emitOutput =>
      simp only [emit]
      split <;> exact .refl _ state
  | debugDump =>
      simp only [debug]
      split <;> exact .refl _ state
  | deleteFiles =>
      simp only [delete]
      split <;> exact .refl _ state

end Statement

/-! ## Runs -/

namespace Engine

open ExecutionState (GoesOn)

/-- Any number of steps, each in settings and a world of its own, with the statements that they
perform, the state that each of these finds, and the completions that they take. -/
inductive Passes : Engine → List (ExecutionState × Statement) → List Completion → Engine → Prop
  | done (engine : Engine) : Passes engine [] [] engine
  | idle {engine final : Engine} {performed : List (ExecutionState × Statement)}
      {taken : List Completion} (settings : Settings) (world : World)
      (hnext : engine.next? = none)
      (hlater : Passes (engine.step settings world).2.1 performed taken final) :
      Passes engine performed taken final
  | perform {engine final : Engine} {statement : Statement}
      {performed : List (ExecutionState × Statement)} {taken further : List Completion}
      (settings : Settings) (world : World) (hnext : engine.next? = some statement)
      (htakes : statement.Takes settings engine.state world (engine.step settings world).2.2 taken)
      (hlater : Passes (engine.step settings world).2.1 performed further final) :
      Passes engine ((engine.state, statement) :: performed) (taken ++ further) final

variable {engine final : Engine} {statement : Statement}
  {performed : List (ExecutionState × Statement)} {taken : List Completion}

/-- A step that performs a statement takes what the statement takes. -/
theorem step_goesOn (settings : Settings) (world : World) (hnext : engine.next? = some statement) :
    ∃ taken,
      statement.Takes settings engine.state world (engine.step settings world).2.2 taken ∧
        GoesOn [(engine.state, statement)] taken engine.state
          (engine.step settings world).2.1.state := by
  obtain ⟨hstatus, hcurrent⟩ := next?_eq_some_iff.mp hnext
  obtain ⟨taken, htakes, hgoesOn⟩ := statement.perform_goesOn settings engine.state world
  refine ⟨taken, ?_⟩
  rcases hperform : statement.perform settings engine.state world with ⟨error | _, next, later⟩
  all_goals rw [hperform] at htakes hgoesOn
  · rw [step_of_error settings hstatus hcurrent hperform]
    exact ⟨htakes, hgoesOn⟩
  · rw [step_of_ok settings hstatus hcurrent hperform]
    exact ⟨htakes, hgoesOn.move _⟩

/-- The statement that a step performs, with the state that it finds. -/
def performed? (engine : Engine) : List (ExecutionState × Statement) :=
  engine.next?.toList.map (engine.state, ·)

theorem passes_step (engine : Engine) (settings : Settings) (world : World) :
    ∃ taken, Passes engine engine.performed? taken (engine.step settings world).2.1 := by
  rw [performed?]
  cases hnext : engine.next? with
  | none => exact ⟨[], .idle settings world hnext (.done _)⟩
  | some statement =>
      obtain ⟨taken, htakes, -⟩ := step_goesOn settings world hnext
      exact ⟨taken ++ [], .perform settings world hnext htakes (.done _)⟩

theorem Passes.after_step {settings : Settings} {world : World}
    (hlater : Passes (engine.step settings world).2.1 performed taken final) :
    ∃ taken, Passes engine (engine.performed? ++ performed) taken final := by
  rw [performed?]
  cases hnext : engine.next? with
  | none => exact ⟨taken, .idle settings world hnext hlater⟩
  | some statement =>
      obtain ⟨first, htakes, -⟩ := step_goesOn settings world hnext
      exact ⟨first ++ taken, .perform settings world hnext htakes hlater⟩

theorem passes_runFor (settings : Settings) (count : Nat) (engine : Engine) (world : World) :
    ∃ performed taken, Passes engine performed taken (runFor settings count engine world).2.1 := by
  induction count generalizing engine world with
  | zero => exact ⟨[], [], .done engine⟩
  | succ count ih =>
      rw [runFor]
      split
      next =>
        rcases hstep : engine.step settings world with ⟨error | status, next, later⟩
        · obtain ⟨taken, hpasses⟩ := engine.passes_step settings world
          rw [hstep] at hpasses
          exact ⟨_, taken, hpasses⟩
        · obtain ⟨performed, taken, hlater⟩ := ih next later
          have hnext : (engine.step settings world).2.1 = next := by rw [hstep]
          rw [← hnext] at hlater
          obtain ⟨taken, hpasses⟩ := hlater.after_step
          rw [hnext] at hpasses
          exact ⟨_, taken, hpasses⟩
      next => exact ⟨[], [], .done engine⟩

/-- Whatever steps are taken, the state goes on. -/
theorem Passes.goesOn (hpasses : Passes engine performed taken final) :
    GoesOn performed taken engine.state final.state := by
  induction hpasses with
  | done engine => exact .refl [] _
  | idle settings world hnext hlater ih =>
      rw [(step_of_idle settings world hnext).1] at ih
      exact ih
  | perform settings world hnext htakes hlater ih =>
      obtain ⟨taken, hagain, hgoesOn⟩ := step_goesOn settings world hnext
      rw [htakes.unique hagain]
      exact hgoesOn.trans ih

/-- A step performs at most one statement, a run some number of them, and whatever is performed, the
state only goes on: messages stay or get further blocks at the end of the last one, the program and
the names of the session stay, and counters, active model and variables change only behind
statements that may change them.  The counters add up what was read from the replies, so they do not
decrease as long as no sum exceeds a word. -/
theorem history_only_grows (engine : Engine) :
    (∀ settings world, ∃ taken,
      Passes engine engine.performed? taken (engine.step settings world).2.1) ∧
    (∀ settings world, ∃ performed taken,
      Passes engine performed taken (engine.run settings world).2.1) ∧
    ∀ performed taken final, Passes engine performed taken final →
      GoesOn performed taken engine.state final.state ∧
      (engine.state.counters.Fits taken →
        engine.state.counters.tokensIn ≤ final.state.counters.tokensIn ∧
        engine.state.counters.tokensOut ≤ final.state.counters.tokensOut ∧
        engine.state.counters.callCount ≤ final.state.counters.callCount) := by
  refine ⟨engine.passes_step, fun settings world => passes_runFor settings _ engine world, ?_⟩
  intro performed taken final hpasses
  refine ⟨hpasses.goesOn, fun hfits => ?_⟩
  rw [hpasses.goesOn.counters]
  obtain ⟨htokensIn, htokensOut, hcallCount⟩ := hfits.sums
  simp only [UInt64.le_iff_toNat_le]
  omega

theorem history_only_grows_asking :
    (asking.step .bare answering).1 = .ok .completed ∧
      ∃ taken,
        Passes asking [(asking.state, .synthesized .exec "")] taken
          (asking.step .bare answering).2.1 ∧
        asking.state.counters.Fits taken ∧
        (asking.step .bare answering).2.1.state.counters.callCount = 1 ∧
        asking.state.counters.callCount ≤
          (asking.step .bare answering).2.1.state.counters.callCount := by
  obtain ⟨hresult, hcount⟩ : (asking.step .bare answering).1 = .ok .completed ∧
      (asking.step .bare answering).2.1.state.counters.callCount = 1 := by decide +kernel
  have hprovider : (Exchange.resolveModel .bare asking.state).map Model.provider =
      .ok "OpenAI" := by decide +kernel
  cases hmodel : Exchange.resolveModel .bare asking.state with
  | error error =>
      rw [hmodel] at hprovider
      exact nomatch hprovider
  | ok model =>
      rw [hmodel] at hprovider
      have hbackend : Backend.ofProvider model.provider = .ok (.openAi Backend.OpenAi.openAi) := by
        rw [Except.ok.inj hprovider]
        decide +kernel
      have hreplies : answering.replies =
          answering.replies ++ (asking.step .bare answering).2.2.replies := by decide +kernel
      have htakes : (Statement.synthesized .exec "").Takes .bare asking.state answering
          (asking.step .bare answering).2.2 _ := .replies rfl hmodel hbackend hreplies
      have hnext : asking.next? = some (.synthesized .exec "") := by decide +kernel
      have hread : (Backend.openAi Backend.OpenAi.openAi).parseReply
          (.object [("choices", .array [.object [("message",
            .object [("content", .string "fine")])]])]) =
          .ok (⟨.assistant, [.text "fine"]⟩, ⟨0, 0⟩) := by decide +kernel
      have hcompletions : Exchange.completions (.openAi Backend.OpenAi.openAi) model
          answering.replies = [.priced [⟨.assistant, [.text "fine"]⟩] ⟨0, 0⟩ model] := by
        simp [Exchange.completions, answering, Backend.decode, Except.bind, Except.map, hread,
          Except.toOption]
      rw [hcompletions] at htakes
      have hpasses := Passes.perform .bare answering hnext htakes (.done _)
      have hcounters : asking.state.counters.tokensIn.toNat = 0 ∧
          asking.state.counters.tokensOut.toNat = 0 ∧
          asking.state.counters.callCount.toNat = 0 := by decide +kernel
      have hfits : asking.state.counters.Fits
          ([.priced [⟨.assistant, [.text "fine"]⟩] ⟨0, 0⟩ model] ++ []) := by
        obtain ⟨htokensIn, htokensOut, hcallCount⟩ := hcounters
        constructor <;> simp [htokensIn, htokensOut, hcallCount, Completion.priced]
      exact ⟨hresult, _, hpasses, hfits, hcount,
        (((history_only_grows asking).2.2 _ _ _ hpasses).2 hfits).2.2⟩

end Engine

end PromptScript
