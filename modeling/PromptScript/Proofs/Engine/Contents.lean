import PromptScript.Proofs.Engine.Reachable
import PromptScript.Proofs.Timestamp.ReadBack

/-!
# Contents of reachable engines

The values that a run holds are well formed, whatever a program writes and providers reply: the
variables stand in the order of their names, and their values and the arguments of all calls have
their whole numbers in range and the members of their objects in order.
-/

namespace PromptScript

/-- What enters a run in practice: lines that are counted in 64 bits, well-formed values and
instants that can be written. -/
def Intake.wellFormed : Intake where
  statement statement := statement.line < 0x10000000000000000
  value := Json.WellFormed
  moment := Timestamp.Writable

/-- Whether the arguments of a call are well formed. -/
def Block.WellFormed : Block → Prop
  | .call request => request.arguments.WellFormed
  | .text _ | .image _ | .result _ => True

namespace ExecutionState

/-- Whether the values that a state holds are well formed. -/
structure WellFormed (state : ExecutionState) : Prop where
  ordered : Json.Ordered state.bindings.entries
  values : ∀ entry ∈ state.bindings.entries, entry.2.WellFormed
  blocks : ∀ block ∈ state.conversation.blocks, block.WellFormed

variable {state next : ExecutionState}

theorem wellFormed_initial (sessionId : String) (statements : List Statement) :
    (initial sessionId statements).WellFormed where
  ordered := by
    have hnames : Variables.closerName < Variables.openerName := by decide
    exact List.pairwise_pair.mpr hnames
  values := by
    intro entry hentry
    rcases List.mem_pair.mp hentry with rfl | rfl
    · exact .string _
    · exact .string _
  blocks := fun block hblock => nomatch hblock

namespace WellFormed

theorem of_set (hstate : state.WellFormed) {name : String} {value : Json} {bindings : Variables}
    (hvalue : value.WellFormed) (hset : state.bindings.set name value = .ok bindings) :
    { state with bindings }.WellFormed := by
  unfold Variables.set at hset
  split at hset
  next => exact nomatch hset
  next =>
    split at hset
    next => exact nomatch hset
    next =>
      cases hset
      refine ⟨hstate.ordered.insertMember, ?_, hstate.blocks⟩
      intro entry hentry
      rcases Json.mem_insertMember hentry with rfl | hold
      · exact hvalue
      · exact hstate.values entry hold

/-- A change whose values are well formed keeps well formed what a state holds. -/
theorem of_change (hstate : state.WellFormed) (hchange : Change Json.WellFormed state next) :
    next.WellFormed := by
  cases hchange with
  | talk spoken results hblocks hspoken hids hnodup hfresh =>
      refine ⟨hstate.ordered, hstate.values, ?_⟩
      intro block hblock
      rw [hblocks] at hblock
      rcases List.mem_append.mp hblock with hearlier | hresult
      · rcases List.mem_append.mp hearlier with hold | hnew
        · exact hstate.blocks block hold
        · have hvalue := hspoken block hnew
          cases block with
          | call request => exact hvalue
          | text body => trivial
          | image picture => trivial
          | result answer => trivial
      · obtain ⟨result, -, rfl⟩ := List.mem_map.mp hresult
        trivial
  | assign hvalue hset => exact hstate.of_set hvalue hset
  | choose model provider => exact ⟨hstate.ordered, hstate.values, hstate.blocks⟩

theorem of_changes (hstate : state.WellFormed) (hchanges : Changes Json.WellFormed state next) :
    next.WellFormed := by
  induction hchanges with
  | refl => exact hstate
  | tail hbefore hchange ih => exact ih.of_change hchange

theorem of_appendBlock (hstate : state.WellFormed) (accept : Role → Bool) (role : Role)
    {block : Block} (hblock : block.WellFormed) :
    (state.appendBlock accept role block).WellFormed := by
  refine ⟨hstate.ordered, hstate.values, ?_⟩
  intro other hother
  simp only [appendBlock, Conversation.blocks_appendBlock] at hother
  rcases List.mem_append.mp hother with hold | hnew
  · exact hstate.blocks other hold
  · rw [List.mem_singleton.mp hnew]
    exact hblock

/-- Every statement keeps well formed what a state holds. -/
theorem perform (hstate : state.WellFormed) (settings : Settings) (statement : Statement)
    {world : World} (hworld : world.Brings Json.WellFormed) :
    (statement.perform settings state world).2.1.WellFormed := by
  by_cases hwritten : statement.kind = .toolCall ∨ statement.kind = .toolResult
  · rcases statement.perform_written Json.inherited_wellFormed settings hwritten state world with
      hsame | ⟨call, harguments, hcall⟩ | ⟨result, hresult⟩
    · rw [hsame]
      exact hstate
    · rw [hcall]
      exact hstate.of_appendBlock _ _ harguments
    · rw [hresult]
      exact hstate.of_appendBlock _ _ trivial
  · rw [not_or] at hwritten
    exact hstate.of_changes (statement.perform_changes Json.inherited_wellFormed settings hwritten.1
      hwritten.2 state hworld)

end WellFormed

end ExecutionState

namespace Engine

/-- What a reachable engine holds is well formed, and its lines are counted in 64 bits. -/
theorem Reachable.wellFormed {engine : Engine} (hengine : Reachable .wellFormed engine) :
    engine.state.WellFormed ∧
      ∀ statement ∈ engine.state.statements, statement.line < 0x10000000000000000 := by
  refine state_induction (motive := ExecutionState.WellFormed) ?_ ?_ ?_ ?_ ?_ ?_ hengine
  · intro sessionId statements hstatements
    exact ExecutionState.wellFormed_initial sessionId statements
  · intro state filename hstate
    exact ⟨hstate.ordered, hstate.values, hstate.blocks⟩
  · intro state name value bindings hstate hvalue hset
    exact hstate.of_set hvalue hset
  · intro settings state statement world hstate hstatement hworld
    exact hstate.perform settings statement hworld
  · intro state hstate hip
    exact ⟨hstate.ordered, hstate.values, hstate.blocks⟩
  · intro state statements hstate hstatements
    exact ⟨hstate.ordered, hstate.values, hstate.blocks⟩

end Engine

end PromptScript
