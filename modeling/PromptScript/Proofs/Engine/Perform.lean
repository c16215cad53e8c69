import PromptScript.Engine.Perform
import PromptScript.Proofs.Engine.Exchange

/-!
# What statements leave behind

Every statement but a written call or result is a sequence of changes, whether it succeeds or fails.
A written call or result adds its one block.  No statement touches the program or its position, and
none puts a reply in front of those that are still to come.
-/

namespace PromptScript

open Json (Inherited)

/-- The state behind a change that takes place as a whole or not at all. -/
theorem Outcome.ofChange_state {relation : ExecutionState → ExecutionState → Prop}
    {state : ExecutionState} {world : World} {change : Except RunError ExecutionState}
    (hsame : relation state state) (hchange : ∀ next, change = .ok next → relation state next) :
    relation state (Outcome.ofChange state world change).2.1 := by
  cases change with
  | ok next => exact hchange next rfl
  | error error => exact hsame

@[simp]
theorem Outcome.ofChange_world (state : ExecutionState) (world : World)
    (change : Except RunError ExecutionState) :
    (Outcome.ofChange state world change).2.2 = world := by
  cases change <;> rfl

namespace ExecutionState

variable {property : Json → Prop} {state next : ExecutionState} {settings : Settings}
  {world : World} {payload : String}

theorem change_push (state : ExecutionState) (message : Message)
    (hspoken : ∀ block ∈ message.content, block.Spoken property)
    (hcalls : Conversation.callIdsOf message.content = []) :
    Change property state (state.push message) :=
  .of_idle (Conversation.blocks_push _ _) hspoken hcalls

theorem change_appendText (state : ExecutionState) (text : String) :
    Change property state (state.appendText text) := by
  refine .of_idle (Conversation.blocks_appendBlock _ _ _ _) ?_ rfl
  intro block hblock
  rw [List.mem_singleton.mp hblock]
  trivial

theorem change_say {role : Role} (hsay : state.say role payload = .ok next) :
    Change property state next := by
  simp only [say, Attempt.bind_eq_ok_iff, Attempt.pure_eq_ok_iff] at hsay
  obtain ⟨text, -, rfl⟩ := hsay
  refine change_push state _ ?_ rfl
  intro block hblock
  rw [List.mem_singleton.mp hblock]
  trivial

theorem change_continueText (hcontinue : state.continueText payload = .ok next) :
    Change property state next := by
  simp only [continueText, Attempt.bind_eq_ok_iff, Attempt.pure_eq_ok_iff] at hcontinue
  obtain ⟨text, -, rfl⟩ := hcontinue
  exact change_appendText state text

theorem change_includeFile (hinclude : state.includeFile settings world payload = .ok next) :
    Change property state next := by
  simp only [includeFile, Attempt.bind_eq_ok_iff, Attempt.pure_eq_ok_iff] at hinclude
  obtain ⟨path, -, text, -, rfl⟩ := hinclude
  exact change_appendText state text

theorem change_attachImage (hattach : state.attachImage settings world payload = .ok next) :
    Change property state next := by
  simp only [attachImage, Attempt.bind_eq_ok_iff, Attempt.pure_eq_ok_iff] at hattach
  obtain ⟨path, -, image, -, rfl⟩ := hattach
  refine .of_idle (Conversation.blocks_appendBlock _ _ _ _) ?_ rfl
  intro block hblock
  rw [List.mem_singleton.mp hblock]
  trivial

theorem change_assign {name : String} {value : Json} (hvalue : property value)
    (hassign : state.assign name value = .ok next) : Change property state next := by
  simp only [assign, Attempt.bind_eq_ok_iff, Attempt.pure_eq_ok_iff] at hassign
  obtain ⟨bindings, hset, rfl⟩ := hassign
  exact .assign hvalue hset

/-- The value that a text stands for was read from the text or is the text. -/
theorem property_valueOfText (hinherited : Inherited property) (raw : String) :
    property (Variables.valueOfText raw) := by
  unfold Variables.valueOfText Json.parse?
  cases hparse : Json.parse raw with
  | error error => exact hinherited.text raw
  | ok value => exact hinherited.parsed hparse

theorem change_setVariable (hinherited : Inherited property)
    (hset : state.setVariable payload = .ok next) : Change property state next := by
  simp only [setVariable, Attempt.bind_eq_ok_iff] at hset
  obtain ⟨text, -, hassign⟩ := hset
  exact change_assign (property_valueOfText hinherited text) hassign

/-- Variables take their values one after another, up to the first that is refused. -/
theorem changes_assignAll (state : ExecutionState) {values : List (String × Json)}
    (hvalues : ∀ entry ∈ values, property entry.2) :
    Changes property state (state.assignAll values).2 := by
  induction values generalizing state with
  | nil => exact .refl state
  | cons entry rest ih =>
      obtain ⟨name, value⟩ := entry
      unfold assignAll
      split
      next next hassign =>
        have hchange := change_assign (hvalues _ List.mem_cons_self) hassign
        refine (Changes.single hchange).trans (ih next ?_)
        exact fun entry hentry => hvalues entry (List.mem_cons_of_mem _ hentry)
      next => exact .refl state

theorem property_of_modelChoice (hinherited : Inherited property) {choice : ModelChoice}
    (hchoice : ModelChoice.ofPayload payload = .ok choice) :
    ∀ entry ∈ choice.values, property entry.2 := by
  unfold ModelChoice.ofPayload at hchoice
  split at hchoice
  next parsed hparse =>
    simp only [pure_bind] at hchoice
    split at hchoice
    next values =>
      split at hchoice
      next model hmodel =>
        cases hchoice
        intro entry hentry
        exact hinherited.member (hinherited.parsed hparse) hentry
      next => exact nomatch hchoice
    next => exact nomatch hchoice
  next => exact nomatch hchoice

theorem changes_chooseModel (hinherited : Inherited property) (catalog : Catalog)
    (state : ExecutionState) (payload : String) :
    Changes property state (state.chooseModel catalog payload).2 := by
  unfold chooseModel
  split
  next => exact .refl state
  next choice hchoice =>
    have hvalues : ∀ entry ∈ choice.values, property entry.2 := by
      obtain ⟨text, -, hread⟩ := Attempt.bind_eq_ok_iff.mp hchoice
      exact property_of_modelChoice hinherited hread
    have hchanges := changes_assignAll state hvalues
    rcases hassigned : state.assignAll choice.values with ⟨error | _, later⟩
    all_goals rw [hassigned] at hchanges
    · exact hchanges
    · exact hchanges.trans (.single (.choose _ _))

theorem change_recordFailure (state : ExecutionState) {invocation : Invocation}
    (harguments : property invocation.arguments) (error : RunError) :
    Change property state (state.recordFailure invocation error) := by
  let id := CallIds.fresh state.conversation.callIds invocation.name
  let call : Call := ⟨id, invocation.name, invocation.arguments⟩
  refine .talk [.call call] [Exchange.failedResult call error.message] ?_ ?_ rfl ?_ ?_
  · change ((state.appendCall call).conversation.push _).blocks = _
    rw [Conversation.blocks_push]
    change (Conversation.appendBlock _ _ _ _).blocks ++ _ = _
    rw [Conversation.blocks_appendBlock]
    rfl
  · intro block hblock
    rw [List.mem_singleton.mp hblock]
    exact harguments
  · exact List.nodup_singleton id
  · intro other hother hmem
    rw [List.mem_singleton.mp hother] at hmem
    have hfresh := CallIds.fresh_not_mem state.conversation.callIds invocation.name
    exact hfresh ((Conversation.mem_callIds_iff _ _).mpr hmem)

theorem change_takeAnswer (hinherited : Inherited property) {invocation : Invocation}
    (harguments : property invocation.arguments) {answer : Except RunError String}
    (htake : state.takeAnswer invocation answer = .ok next) : Change property state next := by
  unfold takeAnswer at htake
  split at htake
  next => exact change_assign (hinherited.text _) htake
  next => exact nomatch htake
  next text hanswer =>
    cases htake
    exact change_appendText state text
  next error hanswer =>
    cases htake
    exact change_recordFailure state harguments error

end ExecutionState

namespace Invocation

variable {property : Json → Prop} {inner : List Char} {arguments : Json}

theorem property_of_pairArguments (hinherited : Inherited property)
    (hread : pairArguments inner = .ok arguments) : property arguments := by
  simp only [pairArguments, Attempt.bind_eq_ok_iff, Attempt.pure_eq_ok_iff] at hread
  obtain ⟨pairs, hmap, rfl⟩ := hread
  apply hinherited.texts
  intro entry hentry
  obtain ⟨piece, -, hpiece⟩ := Attempt.exists_of_mem_mapM hmap hentry
  split at hpiece
  next => simp at hpiece
  next key value hcut =>
    split at hpiece
    next => simp at hpiece
    next =>
      rw [Attempt.pure_eq_ok_iff] at hpiece
      subst hpiece
      exact ⟨_, rfl⟩

theorem property_of_readArguments (hinherited : Inherited property)
    (hread : readArguments inner = .ok arguments) : property arguments := by
  unfold readArguments at hread
  split at hread
  next =>
    split at hread
    next => simp at hread
    next members hparse =>
      cases hread
      exact hinherited.parsed hparse
    next => simp at hread
  next => exact property_of_pairArguments hinherited hread

/-- The arguments of a call that a script writes were read from its text or put together from
texts. -/
theorem property_arguments (hinherited : Inherited property) {text : String}
    {invocation : Invocation} (hread : ofText text = .ok invocation) :
    property invocation.arguments := by
  unfold ofText at hread
  cases hattempt : read (Text.trim text).toList with
  | error reason => simp [hattempt, Except.mapError] at hread
  | ok found =>
      simp only [hattempt, Except.mapError, Except.ok.injEq] at hread
      subst hread
      unfold read at hattempt
      split at hattempt
      next cut hopen =>
        simp only [pure_bind] at hattempt
        split at hattempt
        next inner hclose =>
          split at hattempt
          next => simp at hattempt
          next =>
            simp only [Attempt.bind_eq_ok_iff, Attempt.pure_eq_ok_iff] at hattempt
            obtain ⟨target, -, arguments, hfound, rfl⟩ := hattempt
            exact property_of_readArguments hinherited hfound
        next => simp at hattempt
      next => simp at hattempt

end Invocation

namespace Statement

variable {property : Json → Prop} {settings : Settings} {state : ExecutionState} {world : World}

theorem callFunction_changes (hinherited : Inherited property) (settings : Settings)
    (state : ExecutionState) (world : World) (payload : String) :
    state.Changes property (callFunction settings state world payload).2.1 := by
  unfold callFunction
  split
  next => exact .refl state
  next invocation hinvocation =>
    obtain ⟨text, -, hread⟩ := Attempt.bind_eq_ok_iff.mp hinvocation
    have harguments := Invocation.property_arguments hinherited hread
    split
    next => exact .refl state
    next =>
      split
      next =>
        apply Outcome.ofChange_state (.refl state)
        intro next htake
        exact .single (ExecutionState.change_takeAnswer hinherited harguments htake)
      next => exact .refl state

/-- Whatever a statement does that is no written call or result, it is a sequence of changes. -/
theorem perform_changes (hinherited : Inherited property) (settings : Settings)
    {statement : Statement} (hcall : statement.kind ≠ .toolCall)
    (hresult : statement.kind ≠ .toolResult) (state : ExecutionState)
    (hworld : world.Brings property) :
    state.Changes property (statement.perform settings state world).2.1 := by
  have hwhole : ∀ {change : Except RunError ExecutionState},
      (∀ next, change = .ok next → state.Change property next) →
        state.Changes property (Outcome.ofChange state world change).2.1 := by
    intro change hchange
    exact Outcome.ofChange_state (.refl state) fun next hnext => .single (hchange next hnext)
  unfold perform
  cases hkind : statement.kind with
  | comment => exact .refl state
  | halt => exact .refl state
  | systemMessage => exact hwhole fun next => ExecutionState.change_say
  | userMessage => exact hwhole fun next => ExecutionState.change_say
  | assistantMessage => exact hwhole fun next => ExecutionState.change_say
  | continuationText => exact hwhole fun next => ExecutionState.change_continueText
  | toolCall => exact absurd hkind hcall
  | toolResult => exact absurd hkind hresult
  | setVariable =>
      simp only
      exact hwhole fun next => ExecutionState.change_setVariable hinherited
  | includeFile => exact hwhole fun next => ExecutionState.change_includeFile
  | attachImage => exact hwhole fun next => ExecutionState.change_attachImage
  | setModel => exact ExecutionState.changes_chooseModel hinherited _ state _
  | exec => exact Exchange.run_changes hinherited settings state hworld
  | callFunction => exact callFunction_changes hinherited settings state world _
  | emitOutput =>
      simp only [emit]
      split <;> exact .refl state
  | debugDump =>
      simp only [debug]
      split <;> exact .refl state
  | deleteFiles =>
      simp only [delete]
      split <;> exact .refl state

/-- A written call or result adds one block, where it is accepted. -/
theorem perform_written (hinherited : Inherited property) (settings : Settings)
    {statement : Statement} (hkind : statement.kind = .toolCall ∨ statement.kind = .toolResult)
    (state : ExecutionState) (world : World) :
    (statement.perform settings state world).2.1 = state ∨
      (∃ call, property call.arguments ∧
        (statement.perform settings state world).2.1 = state.appendCall call) ∨
      ∃ result, (statement.perform settings state world).2.1 = state.appendResult result := by
  rcases hkind with hcall | hresult
  · unfold perform
    rw [hcall]
    simp only
    cases hwrite : state.writeCall statement.payload with
    | error error => exact .inl rfl
    | ok next =>
        simp only [ExecutionState.writeCall, Attempt.bind_eq_ok_iff, Attempt.pure_eq_ok_iff]
          at hwrite
        obtain ⟨text, -, head, -, arguments, harguments, rfl⟩ := hwrite
        refine .inr (.inl ⟨⟨head.id, head.name, arguments⟩, ?_, rfl⟩)
        unfold readCallArguments at harguments
        split at harguments
        next =>
          cases harguments
          exact hinherited.empty
        next =>
          cases hparse : Json.parse head.body with
          | error fault => simp [hparse, Except.mapError] at harguments
          | ok value =>
              simp only [hparse, Except.mapError, Except.ok.injEq] at harguments
              subst harguments
              exact hinherited.parsed hparse
  · unfold perform
    rw [hresult]
    simp only
    cases hwrite : state.writeResult statement.payload with
    | error error => exact .inl rfl
    | ok next =>
        simp only [ExecutionState.writeResult, Attempt.bind_eq_ok_iff, Attempt.pure_eq_ok_iff]
          at hwrite
        obtain ⟨text, -, head, -, rfl⟩ := hwrite
        exact .inr (.inr ⟨⟨head.id, head.name, head.body, false⟩, rfl⟩)

/-- No statement touches the program or its position. -/
theorem perform_frame (settings : Settings) (statement : Statement) (state : ExecutionState)
    (world : World) :
    (statement.perform settings state world).2.1.statements = state.statements ∧
      (statement.perform settings state world).2.1.ip = state.ip := by
  by_cases hwritten : statement.kind = .toolCall ∨ statement.kind = .toolResult
  · rcases perform_written Json.inherited_true settings hwritten state world with
      hsame | ⟨call, -, hcall⟩ | ⟨result, hresult⟩
    · rw [hsame]
      exact ⟨rfl, rfl⟩
    · rw [hcall]
      exact ⟨rfl, rfl⟩
    · rw [hresult]
      exact ⟨rfl, rfl⟩
  · rw [not_or] at hwritten
    exact (perform_changes Json.inherited_true settings hwritten.1 hwritten.2 state
      fun _ _ => trivial).frame

/-- Only an exchange takes replies. -/
theorem perform_replies_eq (settings : Settings) {statement : Statement}
    (hkind : statement.kind ≠ .exec) (state : ExecutionState) (world : World) :
    (statement.perform settings state world).2.2.replies = world.replies := by
  unfold perform
  cases hcase : statement.kind with
  | exec => exact absurd hcase hkind
  | callFunction =>
      simp only [callFunction]
      split
      next => rfl
      next =>
        have hrefresh := world.refreshFunctions_replies settings
        split
        next hlater =>
          rw [hlater] at hrefresh
          exact hrefresh
        next hlater =>
          rw [hlater] at hrefresh
          split
          next => rw [Outcome.ofChange_world, World.invoke_replies, hrefresh]
          next => exact hrefresh
  | emitOutput =>
      simp only [emit]
      split <;> rfl
  | debugDump =>
      simp only [debug]
      split <;> rfl
  | deleteFiles =>
      simp only [delete]
      split <;> rfl
  | setModel => rfl
  | comment => rfl
  | halt => rfl
  | _ => simp only [Outcome.ofChange_world]

/-- The replies that are still to come behind a statement were so before it. -/
theorem perform_replies (settings : Settings) (statement : Statement) (state : ExecutionState)
    (world : World) :
    (statement.perform settings state world).2.2.replies ⊆ world.replies := by
  by_cases hkind : statement.kind = .exec
  · have hexec : statement.perform settings state world = Exchange.run settings state world := by
      simp only [perform, hkind]
    rw [hexec]
    exact Exchange.run_replies settings state world
  · rw [perform_replies_eq settings hkind]
    exact List.Subset.refl _

end Statement

end PromptScript
