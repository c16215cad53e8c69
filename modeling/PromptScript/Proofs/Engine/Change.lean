import Mathlib.Logic.Relation
import PromptScript.Engine.State
import PromptScript.Proofs.Backend.Replies
import PromptScript.Proofs.Conversation.FreshIds

/-!
# Changes of the state

Every statement but a written call or result changes the state by steps of three kinds: blocks are
added to the conversation together with the results of all calls among them, a variable takes a
value, or a model becomes the active one.  Each kind keeps calls and results paired and leaves the
program and its position alone, so whatever a statement does between its first and its last step
does so as well.
-/

namespace PromptScript

open Conversation (callIdsOf resultsOf)

namespace Conversation

@[simp]
theorem blocks_push (conversation : Conversation) (message : Message) :
    (conversation.push message).blocks = conversation.blocks ++ message.content := by
  simp [push, blocks]

@[simp]
theorem blocks_appendBlock (accept : Role → Bool) (role : Role) (block : Block)
    (conversation : Conversation) :
    (appendBlock accept role block conversation).blocks = conversation.blocks ++ [block] := by
  fun_induction appendBlock accept role block conversation with
  | case1 => rfl
  | case2 last haccept => simp [blocks]
  | case3 last hreject => simp [blocks]
  | case4 first next rest ih =>
      simp only [blocks, List.flatMap_cons, List.append_assoc] at ih ⊢
      rw [ih]

end Conversation

namespace ExecutionState

/-- One change of a state.  The property holds of every value that enters the state. -/
inductive Change (property : Json → Prop) (state : ExecutionState) : ExecutionState → Prop
  /-- Blocks are added, and behind them the results of the calls among them. -/
  | talk {conversation : Conversation} {counters : Counters} (spoken : List Block)
      (results : List CallResult)
      (hblocks : conversation.blocks =
        state.conversation.blocks ++ spoken ++ results.map Block.result)
      (hspoken : ∀ block ∈ spoken, block.Spoken property)
      (hids : results.map CallResult.id = callIdsOf spoken)
      (hnodup : (callIdsOf spoken).Nodup)
      (hfresh : ∀ id ∈ callIdsOf spoken, id ∉ callIdsOf state.conversation.blocks) :
      Change property state { state with conversation, counters }
  /-- A variable takes a value. -/
  | assign {name : String} {value : Json} {bindings : Variables} (hvalue : property value)
      (hset : state.bindings.set name value = .ok bindings) :
      Change property state { state with bindings }
  /-- A model becomes the active one. -/
  | choose (activeModel activeProvider : Option String) :
      Change property state { state with activeModel, activeProvider }

/-- Any number of changes, one after another. -/
def Changes (property : Json → Prop) : ExecutionState → ExecutionState → Prop :=
  Relation.ReflTransGen (Change property)

variable {property : Json → Prop} {state next : ExecutionState}

/-- A change keeps calls and results paired. -/
theorem Change.paired (hchange : Change property state next)
    (hpaired : state.conversation.Paired) : next.conversation.Paired := by
  cases hchange with
  | talk spoken results hblocks hspoken hids hnodup hfresh =>
      exact hpaired.of_answered hblocks (resultsOf_spoken hspoken) hids hnodup hfresh
  | assign hvalue hset => exact hpaired
  | choose model provider => exact hpaired

/-- A change leaves the program and its position alone. -/
theorem Change.frame (hchange : Change property state next) :
    next.statements = state.statements ∧ next.ip = state.ip := by
  cases hchange <;> exact ⟨rfl, rfl⟩

namespace Changes

theorem refl (state : ExecutionState) : Changes property state state :=
  Relation.ReflTransGen.refl

theorem single (hchange : Change property state next) : Changes property state next :=
  Relation.ReflTransGen.single hchange

theorem trans {last : ExecutionState} (hfirst : Changes property state next)
    (hsecond : Changes property next last) : Changes property state last :=
  Relation.ReflTransGen.trans hfirst hsecond

theorem paired (hchanges : Changes property state next)
    (hpaired : state.conversation.Paired) : next.conversation.Paired := by
  induction hchanges with
  | refl => exact hpaired
  | tail hbefore hchange ih => exact hchange.paired ih

theorem frame (hchanges : Changes property state next) :
    next.statements = state.statements ∧ next.ip = state.ip := by
  induction hchanges with
  | refl => exact ⟨rfl, rfl⟩
  | tail hbefore hchange ih =>
      obtain ⟨hstatements, hip⟩ := hchange.frame
      exact ⟨hstatements.trans ih.1, hip.trans ih.2⟩

end Changes

/-- Blocks that hold neither calls nor results can always be added. -/
theorem Change.of_idle {conversation : Conversation} {blocks : List Block}
    (hblocks : conversation.blocks = state.conversation.blocks ++ blocks)
    (hspoken : ∀ block ∈ blocks, block.Spoken property) (hcalls : callIdsOf blocks = []) :
    Change property state { state with conversation } := by
  refine .talk blocks [] (by simpa using hblocks) hspoken ?_ ?_ ?_
  · exact hcalls.symm
  · simp [hcalls]
  · simp [hcalls]

end ExecutionState

end PromptScript
