import Mathlib.Data.List.Basic
import PromptScript.Conversation.Message

/-!
# Appending to conversations

A conversation goes on where the messages before its last one stay as they are, the last one only
gains blocks at its end, and further messages stand behind it.  Both ways of appending go on with a
conversation, and so does whatever goes on with what goes on.

Every kind of block has the roles in whose messages it may stand.  A conversation in which all
blocks do so is extended by whole messages of that kind, and by a block that joins the last message
where all roles that are accepted for it may hold it.
-/

namespace PromptScript

/-! ## Conversations that go on -/

namespace Conversation

/-- Whether a conversation goes on with an earlier one. -/
def Grows (before after : Conversation) : Prop :=
  before = [] ∨ ∃ earlier last further more, before = earlier ++ [last] ∧
    after = earlier ++ { last with content := last.content ++ further } :: more

variable {before middle after : Conversation}

theorem Grows.refl (conversation : Conversation) : Grows conversation conversation := by
  rcases List.eq_nil_or_concat' conversation with rfl | ⟨earlier, last, rfl⟩
  · exact .inl rfl
  · exact .inr ⟨earlier, last, [], [], rfl, by simp⟩

theorem Grows.trans (hfirst : Grows before middle) (hsecond : Grows middle after) :
    Grows before after := by
  rcases hfirst with rfl | ⟨earlier, last, further, more, rfl, rfl⟩
  · exact .inl rfl
  rcases hsecond with hnil | ⟨others, later, beyond, behind, hmiddle, rfl⟩
  · simp at hnil
  right
  -- The message that was last then is the one that was last at first, or stands behind it.
  rcases List.eq_nil_or_concat' more with rfl | ⟨front, final, rfl⟩
  · obtain ⟨rfl, hlater⟩ := List.append_inj' hmiddle rfl
    obtain rfl := (List.cons.inj hlater).1
    exact ⟨earlier, last, further ++ beyond, behind, rfl, by simp⟩
  · rw [← List.cons_append, ← List.append_assoc] at hmiddle
    obtain ⟨rfl, hlater⟩ := List.append_inj' hmiddle rfl
    exact ⟨earlier, last, further,
      front ++ { later with content := later.content ++ beyond } :: behind, rfl, by simp⟩

theorem Grows.append (conversation : Conversation) (messages : List Message) :
    Grows conversation (conversation ++ messages) := by
  rcases List.eq_nil_or_concat' conversation with rfl | ⟨earlier, last, rfl⟩
  · exact .inl rfl
  · exact .inr ⟨earlier, last, [], messages, rfl, by simp⟩

theorem Grows.push (conversation : Conversation) (message : Message) :
    Grows conversation (conversation.push message) :=
  .append conversation [message]

theorem appendBlock_concat (accept : Role → Bool) (role : Role) (block : Block)
    (earlier : List Message) (last : Message) :
    appendBlock accept role block (earlier ++ [last]) =
      earlier ++ if accept last.role then [{ last with content := last.content ++ [block] }]
        else [last, ⟨role, [block]⟩] := by
  induction earlier with
  | nil => rfl
  | cons first rest ih =>
      obtain ⟨next, others, hrest⟩ := List.exists_cons_of_ne_nil (l := rest ++ [last]) (by simp)
      rw [List.cons_append, List.cons_append, ← ih, hrest, appendBlock]

theorem Grows.appendBlock (accept : Role → Bool) (role : Role) (block : Block)
    (conversation : Conversation) :
    Grows conversation (Conversation.appendBlock accept role block conversation) := by
  rcases List.eq_nil_or_concat' conversation with rfl | ⟨earlier, last, rfl⟩
  · exact .inl rfl
  right
  rw [appendBlock_concat]
  split
  next => exact ⟨earlier, last, [block], [], rfl, rfl⟩
  next => exact ⟨earlier, last, [], [⟨role, [block]⟩], rfl, by simp⟩

end Conversation

/-! ## The place of blocks -/

/-- Whether a block may stand in a message of the given role: a text anywhere but among results, an
image where the user speaks, a call where the model does and a result among results. -/
def Block.FitsIn (role : Role) : Block → Prop
  | .text _ => role ≠ .tool
  | .image _ => role = .user
  | .call _ => role = .assistant
  | .result _ => role = .tool

instance (role : Role) : (block : Block) → Decidable (block.FitsIn role)
  | .text _ => inferInstanceAs (Decidable (role ≠ .tool))
  | .image _ => inferInstanceAs (Decidable (role = .user))
  | .call _ => inferInstanceAs (Decidable (role = .assistant))
  | .result _ => inferInstanceAs (Decidable (role = .tool))

/-- Whether all blocks of a message may stand in it. -/
def Message.Placed (message : Message) : Prop :=
  ∀ block ∈ message.content, block.FitsIn message.role

instance (message : Message) : Decidable message.Placed :=
  inferInstanceAs (Decidable (∀ block ∈ message.content, block.FitsIn message.role))

/-- Whether every block of a conversation stands in a message that may hold it. -/
def Conversation.Placed (conversation : Conversation) : Prop :=
  ∀ message ∈ conversation, message.Placed

instance (conversation : Conversation) : Decidable conversation.Placed :=
  inferInstanceAs (Decidable (∀ message ∈ conversation, message.Placed))

theorem Message.placed_ofText {role : Role} (hrole : role ≠ .tool) (text : String) :
    (ofText role text).Placed := by
  intro block hblock
  rw [List.mem_singleton.mp hblock]
  exact hrole

namespace Conversation

variable {conversation : Conversation} {message : Message}

theorem placed_nil : Placed [] := by
  intro message hmessage
  exact absurd hmessage List.not_mem_nil

theorem Placed.push (hplaced : Placed conversation) (hmessage : message.Placed) :
    Placed (conversation.push message) := by
  intro other hother
  rcases List.mem_append.mp hother with hold | hnew
  · exact hplaced other hold
  · rw [List.mem_singleton.mp hnew]
    exact hmessage

/-- A block finds its place if the role of a new message and every role that is accepted for it may
hold it. -/
theorem Placed.appendBlock {accept : Role → Bool} {role : Role} {block : Block}
    (hplaced : Placed conversation) (hrole : block.FitsIn role)
    (haccept : ∀ other, accept other = true → block.FitsIn other) :
    Placed (appendBlock accept role block conversation) := by
  have hnew : (⟨role, [block]⟩ : Message).Placed := by
    intro other hother
    rw [List.mem_singleton.mp hother]
    exact hrole
  fun_induction Conversation.appendBlock accept role block conversation with
  | case1 => exact placed_nil.push hnew
  | case2 last hjoins =>
      have hlast := hplaced last List.mem_cons_self
      intro message hmessage
      rw [List.mem_singleton.mp hmessage]
      intro other hother
      rcases List.mem_append.mp hother with hold | hadded
      · exact hlast other hold
      · rw [List.mem_singleton.mp hadded]
        exact haccept last.role hjoins
  | case3 last hopens => exact hplaced.push hnew
  | case4 first next rest ih =>
      obtain ⟨hfirst, hrest⟩ := List.forall_mem_cons.mp hplaced
      exact List.forall_mem_cons.mpr ⟨hfirst, ih hrest⟩

end Conversation

end PromptScript
