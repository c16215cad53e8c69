import Mathlib.Data.Finset.Card
import Mathlib.Data.List.Nodup
import Mathlib.Order.Bounds.Defs
import Mathlib.Tactic.ByContra
import Mathlib.Tactic.Push
import PromptScript.Conversation.Pairing
import PromptScript.Proofs.Conversation.Ledger
import Std.Data.String.ToNat

/-!
# Fresh identifiers

The identifiers that decoded calls get are new to the conversation and differ among each other,
whatever identifiers the reply brought along.  The search for a free number ends because one more
candidate is tried than there are identifiers taken.

A call keeps its identifier if it has one that is not taken, and otherwise gets the first free
numbered one.  What is taken when a call is reached are the identifiers of the conversation and
those of the calls in front of it, so each call is settled by what stands before it.
-/

namespace PromptScript

open Conversation (callIdsOf resultsOf)

/-- The block without the identifier of its call. -/
def Block.anonymous : Block → Block
  | .call content => .call { content with id := "" }
  | .text body => .text body
  | .image picture => .image picture
  | .result answer => .result answer

/-- The message without the identifiers of its calls. -/
def Message.anonymous (message : Message) : Message :=
  { message with content := message.content.map Block.anonymous }

namespace CallIds

theorem numbered_injective (name : String) : Function.Injective (numbered name) := by
  intro left right heq
  have hchars := congrArg String.toList heq
  simp only [numbered, String.toList_append] at hchars
  exact Nat.repr_injective (String.toList_inj.mp (List.append_cancel_left hchars))

/-- Of one more candidates than there are identifiers taken, one is free. -/
theorem exists_numbered_not_mem (taken : List String) (name : String) (start : Nat) :
    ∃ offset ∈ List.range (taken.length + 1), numbered name (start + offset) ∉ taken := by
  by_contra hnone
  push Not at hnone
  let candidates := (List.range (taken.length + 1)).map fun offset => numbered name (start + offset)
  have hnodup : candidates.Nodup := by
    refine List.Nodup.map ?_ List.nodup_range
    intro left right heq
    exact Nat.add_left_cancel (numbered_injective name heq)
  have hsubset : candidates ⊆ taken := by
    intro id hid
    obtain ⟨offset, hoffset, rfl⟩ := List.mem_map.mp hid
    exact hnone offset hoffset
  have hlength := hnodup.length_le_of_subset hsubset
  simp only [candidates, List.length_map, List.length_range] at hlength
  omega

/-- The search finds the first free number beyond the count of what is taken. -/
theorem fresh_least (taken : List String) (name : String) :
    ∃ number, fresh taken name = numbered name number ∧
      IsLeast {candidate | taken.length < candidate ∧ numbered name candidate ∉ taken} number := by
  obtain ⟨offset, hoffset, hfree⟩ := exists_numbered_not_mem taken name (taken.length + 1)
  have hsome : ((List.range (taken.length + 1)).find? fun offset =>
      !taken.contains (numbered name (taken.length + 1 + offset))).isSome := by
    rw [List.find?_isSome]
    exact ⟨offset, hoffset, by simpa using hfree⟩
  obtain ⟨first, hfirst⟩ := Option.isSome_iff_exists.mp hsome
  refine ⟨taken.length + 1 + first, ?_, ?_⟩
  · simp only [fresh, List.find?_map, Function.comp_def, hfirst, Option.map_some, Option.getD_some]
  · obtain ⟨hunused, -, hearlier⟩ := List.find?_range_eq_some.mp hfirst
    constructor
    · exact ⟨by omega, by simpa using hunused⟩
    · rintro candidate ⟨hbeyond, hcandidate⟩
      by_contra hless
      have hused := hearlier (candidate - (taken.length + 1)) (by omega)
      have hsame : taken.length + 1 + (candidate - (taken.length + 1)) = candidate := by omega
      rw [hsame] at hused
      simp [hcandidate] at hused

/-- A fresh identifier is not taken. -/
theorem fresh_not_mem (taken : List String) (name : String) : fresh taken name ∉ taken := by
  obtain ⟨number, hfresh, hleast⟩ := fresh_least taken name
  rw [hfresh]
  exact hleast.1.2

/-- Taking a new identifier appends it. -/
theorem take_of_not_mem {taken : List String} {id : String} (hnew : id ∉ taken) :
    take taken id = taken ++ [id] := by
  simp [take, hnew]

/-- The identifier of a call, when some are taken. -/
inductive Gets (taken : Finset String) (call : Call) : String → Prop where
  | kept (hpresent : call.id ≠ "") (hfree : call.id ∉ taken) : Gets taken call call.id
  | replaced (number : Nat) (hunusable : call.id = "" ∨ call.id ∈ taken)
      (hleast : IsLeast {candidate | taken.card < candidate ∧
        numbered call.name candidate ∉ taken} number) : Gets taken call (numbered call.name number)

/-- The identifier that a call keeps or gets. -/
def identifier (taken : List String) (call : Call) : String :=
  if call.id.isEmpty || taken.contains call.id then fresh taken call.name else call.id

theorem gets_identifier {taken : List String} (hnodup : taken.Nodup) (call : Call) :
    Gets taken.toFinset call (identifier taken call) := by
  rw [identifier]
  split
  next hunusable =>
      obtain ⟨number, hfresh, hleast⟩ := fresh_least taken call.name
      rw [hfresh]
      refine .replaced number ?_ ?_
      · simpa using hunusable
      · simpa [List.toFinset_card_of_nodup hnodup] using hleast
  next hkept =>
      simp only [Bool.or_eq_true, String.isEmpty_iff, List.contains_iff_mem, not_or] at hkept
      exact .kept hkept.1 (by simpa using hkept.2)

theorem Gets.ne_empty {taken : Finset String} {call : Call} {id : String}
    (hgets : Gets taken call id) : id ≠ "" := by
  cases hgets with
  | kept hpresent hfree => exact hpresent
  | replaced number hunusable hleast => simp [numbered]

theorem identifier_not_mem (taken : List String) (call : Call) : identifier taken call ∉ taken := by
  rw [identifier]
  split
  next => exact fresh_not_mem taken call.name
  next hkept =>
      intro hmem
      exact hkept (by simp [hmem])

theorem assignBlocks_call (taken : List String) (call : Call) (rest : List Block) :
    assignBlocks taken (.call call :: rest) =
      (.call { call with id := identifier taken call } ::
          (assignBlocks (taken ++ [identifier taken call]) rest).1,
        (assignBlocks (taken ++ [identifier taken call]) rest).2) := by
  simp only [assignBlocks]
  rw [← identifier, take_of_not_mem (identifier_not_mem taken call)]

/-- Assigned identifiers differ among each other and from those taken before, which they join. -/
theorem assignBlocks_ids (taken : List String) (blocks : List Block) :
    (callIdsOf (assignBlocks taken blocks).1).Nodup ∧
      (∀ id ∈ callIdsOf (assignBlocks taken blocks).1, id ∉ taken) ∧
      (assignBlocks taken blocks).2 = taken ++ callIdsOf (assignBlocks taken blocks).1 := by
  induction blocks generalizing taken with
  | nil => simp [assignBlocks]
  | cons block rest ih =>
      cases block with
      | text body => simpa [assignBlocks] using ih taken
      | image picture => simpa [assignBlocks] using ih taken
      | result answer => simpa [assignBlocks] using ih taken
      | call call =>
          have hnew := identifier_not_mem taken call
          obtain ⟨hnodup, hlater, hfinal⟩ := ih (taken ++ [identifier taken call])
          rw [assignBlocks_call, Conversation.callIdsOf_call]
          refine ⟨List.nodup_cons.mpr ⟨?_, hnodup⟩, ?_, ?_⟩
          · intro hmem
            exact hlater _ hmem (by simp)
          · intro other hother
            rcases List.mem_cons.mp hother with rfl | hrest
            · exact hnew
            · intro hmem
              exact hlater other hrest (by simp [hmem])
          · simpa using hfinal

theorem assignBlocks_append (taken : List String) (first second : List Block) :
    assignBlocks taken (first ++ second) =
      ((assignBlocks taken first).1 ++ (assignBlocks (assignBlocks taken first).2 second).1,
        (assignBlocks (assignBlocks taken first).2 second).2) := by
  induction first generalizing taken with
  | nil => rfl
  | cons block rest ih => cases block <;> simp [assignBlocks, ih]

/-- Identifiers are assigned without regard to the messages in which calls stand. -/
theorem blocks_assignMessages (taken : List String) (messages : List Message) :
    (assignMessages taken messages).flatMap Message.content =
      (assignBlocks taken (messages.flatMap Message.content)).1 := by
  induction messages generalizing taken with
  | nil => rfl
  | cons message rest ih =>
      simp [assignMessages, assignBlocks_append, ih]

/-- Assigning identifiers adds and removes no result. -/
theorem results_assignBlocks (taken : List String) (blocks : List Block) :
    resultsOf (assignBlocks taken blocks).1 = resultsOf blocks := by
  induction blocks generalizing taken with
  | nil => rfl
  | cons block rest ih => cases block <;> simp [assignBlocks, ih]

theorem map_anonymous_assignBlocks (taken : List String) (blocks : List Block) :
    (assignBlocks taken blocks).1.map Block.anonymous = blocks.map Block.anonymous := by
  induction blocks generalizing taken with
  | nil => rfl
  | cons block rest ih => cases block <;> simp [assignBlocks, Block.anonymous, ih]

theorem length_assignBlocks (taken : List String) (blocks : List Block) :
    (assignBlocks taken blocks).1.length = blocks.length := by
  simpa using congrArg List.length (map_anonymous_assignBlocks taken blocks)

theorem map_anonymous_assignMessages (taken : List String) (messages : List Message) :
    (assignMessages taken messages).map Message.anonymous = messages.map Message.anonymous := by
  induction messages generalizing taken with
  | nil => rfl
  | cons message rest ih =>
      simp [assignMessages, Message.anonymous, map_anonymous_assignBlocks, ih]

/-- What a call gets is settled by the calls in front of it. -/
theorem assignBlocks_split {taken : List String} (hnodup : taken.Nodup) (front back : List Block)
    (call : Call) :
    ∃ before id after,
      (assignBlocks taken (front ++ .call call :: back)).1 =
          before ++ .call { call with id } :: after ∧
        before.length = front.length ∧ Gets (taken ++ callIdsOf before).toFinset call id := by
  obtain ⟨hdistinct, hnew, hafter⟩ := assignBlocks_ids taken front
  have hgets : Gets (taken ++ callIdsOf (assignBlocks taken front).1).toFinset call
      (identifier (assignBlocks taken front).2 call) := by
    rw [hafter]
    refine gets_identifier (hnodup.append hdistinct ?_) call
    intro id hold hid
    exact hnew id hid hold
  have hblocks := congrArg Prod.fst (assignBlocks_append taken front (.call call :: back))
  rw [assignBlocks_call] at hblocks
  exact ⟨_, _, _, hblocks, length_assignBlocks taken front, hgets⟩

theorem empty_not_mem_assignBlocks {taken : List String} (blocks : List Block)
    (hnodup : taken.Nodup) : "" ∉ callIdsOf (assignBlocks taken blocks).1 := by
  induction blocks generalizing taken with
  | nil => simp [assignBlocks]
  | cons block rest ih =>
      cases block with
      | call call =>
          have hnew : identifier taken call ∉ taken := identifier_not_mem taken call
          have hlater : (taken ++ [identifier taken call]).Nodup := by
            simpa using hnodup.concat hnew
          rw [assignBlocks_call, Conversation.callIdsOf_call, List.mem_cons, not_or]
          exact ⟨(gets_identifier hnodup call).ne_empty.symm, ih hlater⟩
      | _ => simpa [assignBlocks] using ih hnodup

/-- Calls whose identifiers are usable and differ keep them. -/
theorem assignBlocks_of_usable {taken : List String} {blocks : List Block}
    (hpresent : "" ∉ callIdsOf blocks) (hnodup : (callIdsOf blocks).Nodup)
    (hnew : ∀ id ∈ callIdsOf blocks, id ∉ taken) : (assignBlocks taken blocks).1 = blocks := by
  induction blocks generalizing taken with
  | nil => rfl
  | cons block rest ih =>
      cases block with
      | call call =>
          simp only [Conversation.callIdsOf_call, List.mem_cons, not_or, List.nodup_cons,
            forall_eq_or_imp] at hpresent hnodup hnew
          have hkept : identifier taken call = call.id := by
            simp [identifier, Ne.symm hpresent.1, hnew.1]
          rw [assignBlocks_call, hkept, ih hpresent.2 hnodup.2]
          intro id hid hmem
          rcases List.mem_append.mp hmem with hold | hlast
          · exact hnew.2 id hid hold
          · exact hnodup.1 (List.mem_singleton.mp hlast ▸ hid)
      | _ => simp [assignBlocks, ih (by simpa using hpresent) (by simpa using hnodup)
              (by simpa using hnew)]

theorem assignMessages_of_usable {taken : List String} {messages : List Message}
    (hpresent : "" ∉ callIdsOf (messages.flatMap Message.content))
    (hnodup : (callIdsOf (messages.flatMap Message.content)).Nodup)
    (hnew : ∀ id ∈ callIdsOf (messages.flatMap Message.content), id ∉ taken) :
    assignMessages taken messages = messages := by
  induction messages generalizing taken with
  | nil => rfl
  | cons message rest ih =>
      rw [List.flatMap_cons, Conversation.callIdsOf_append] at hpresent hnodup hnew
      rw [List.nodup_append] at hnodup
      simp only [List.mem_append, not_or] at hpresent
      obtain ⟨hfirst, hrest, hdisjoint⟩ := hnodup
      have hcontent := assignBlocks_of_usable hpresent.1 hfirst fun id hid =>
        hnew id (List.mem_append_left _ hid)
      have hafter := (assignBlocks_ids taken message.content).2.2
      rw [hcontent] at hafter
      simp only [assignMessages, hcontent, hafter]
      rw [ih hpresent.2 hrest]
      intro id hid hmem
      rcases List.mem_append.mp hmem with hold | hearlier
      · exact hnew id (List.mem_append_right _ hid) hold
      · exact hdisjoint id hearlier id hid rfl

end CallIds

namespace Conversation

theorem filterMap_call?_blocks (conversation : Conversation) :
    conversation.blocks.filterMap Block.call? = conversation.flatMap Message.calls := by
  rw [blocks, List.filterMap_flatMap]
  rfl

theorem nodup_eraseDups : (ids : List String) → ids.eraseDups.Nodup
  | [] => by simp
  | id :: rest => by
      rw [List.eraseDups_cons, List.nodup_cons]
      constructor
      · simp [List.mem_eraseDups]
      · exact nodup_eraseDups (rest.filter fun other => !other == id)
termination_by ids => ids.length
decreasing_by exact Nat.lt_succ_of_le (List.length_filter_le _ _)

theorem nodup_callIds (conversation : Conversation) : conversation.callIds.Nodup :=
  nodup_eraseDups _

/-- The identifiers of a conversation are those of the calls among its blocks. -/
theorem mem_callIds_iff (conversation : Conversation) (id : String) :
    id ∈ conversation.callIds ↔ id ∈ callIdsOf conversation.blocks := by
  rw [callIds, List.mem_eraseDups, callIdsOf, filterMap_call?_blocks]

/-- The blocks of messages whose calls were given identifiers that are new to a conversation. -/
theorem blocks_assign (conversation : Conversation) (messages : List Message) :
    blocks (CallIds.assign conversation messages) =
      (CallIds.assignBlocks conversation.callIds (blocks messages)).1 :=
  CallIds.blocks_assignMessages conversation.callIds messages

/-- No call of assigned messages shares its identifier with another one or with the
conversation. -/
theorem callIdsOf_assign (conversation : Conversation) (messages : List Message) :
    (callIdsOf (blocks (CallIds.assign conversation messages))).Nodup ∧
      ∀ id ∈ callIdsOf (blocks (CallIds.assign conversation messages)),
        id ∉ callIdsOf conversation.blocks := by
  obtain ⟨hnodup, hnew, -⟩ := CallIds.assignBlocks_ids conversation.callIds (blocks messages)
  rw [blocks_assign]
  refine ⟨hnodup, ?_⟩
  intro id hid hmem
  exact hnew id hid ((mem_callIds_iff conversation id).mpr hmem)

end Conversation

namespace CallIds

section Messages

variable (conversation : Conversation) (messages : List Message)

theorem empty_not_mem_assign :
    "" ∉ callIdsOf (Conversation.blocks (assign conversation messages)) := by
  rw [Conversation.blocks_assign]
  exact empty_not_mem_assignBlocks _ (conversation.nodup_callIds)

theorem assign_assign :
    assign conversation (assign conversation messages) = assign conversation messages := by
  obtain ⟨hnodup, hnew⟩ := Conversation.callIdsOf_assign conversation messages
  refine assignMessages_of_usable (empty_not_mem_assign conversation messages) hnodup ?_
  intro id hid hmem
  exact hnew id hid ((Conversation.mem_callIds_iff conversation id).mp hmem)

/-- Decoded calls get identifiers that are present, differ among each other and are new to the
conversation, and nothing else of their messages changes.  Each call keeps a usable identifier and
otherwise gets the first free one beyond those of the conversation and of the calls in front of
it, and messages whose identifiers were assigned stay as they are. -/
theorem assign_makes_ids_unique :
    (assign conversation messages).map Message.anonymous = messages.map Message.anonymous ∧
      (callIdsOf (Conversation.blocks (assign conversation messages))).Nodup ∧
      (∀ id ∈ callIdsOf (Conversation.blocks (assign conversation messages)),
        id ≠ "" ∧ id ∉ callIdsOf conversation.blocks) ∧
      (∀ front call back, Conversation.blocks messages = front ++ .call call :: back →
        ∃ before id after,
          Conversation.blocks (assign conversation messages) =
              before ++ .call { call with id } :: after ∧
            before.length = front.length ∧
            Gets (callIdsOf conversation.blocks ++ callIdsOf before).toFinset call id) ∧
      assign conversation (assign conversation messages) = assign conversation messages := by
  obtain ⟨hnodup, hnew⟩ := Conversation.callIdsOf_assign conversation messages
  refine ⟨map_anonymous_assignMessages _ messages, hnodup, ?_, ?_,
    assign_assign conversation messages⟩
  · intro id hid
    refine ⟨?_, hnew id hid⟩
    rintro rfl
    exact empty_not_mem_assign conversation messages hid
  · intro front call back hsplit
    obtain ⟨before, id, after, hblocks, hlength, hgets⟩ :=
      assignBlocks_split (conversation.nodup_callIds) front back call
    refine ⟨before, id, after, ?_, hlength, ?_⟩
    · rw [Conversation.blocks_assign, hsplit, hblocks]
    · have htaken : (callIdsOf conversation.blocks ++ callIdsOf before).toFinset =
          (conversation.callIds ++ callIdsOf before).toFinset := by
        ext other
        simp [Conversation.mem_callIds_iff]
      rw [htaken]
      exact hgets

theorem assign_makes_ids_unique_repeated :
    ∃ before id after,
      Conversation.blocks
          (assign [⟨.assistant, [.call ⟨"f-1", "f", .null⟩]⟩]
            [⟨.assistant, [.call ⟨"", "f", .null⟩, .text "Again.", .call ⟨"f-1", "f", .null⟩]⟩]) =
          before ++ .call ⟨id, "f", .null⟩ :: after ∧
        before.length = 2 ∧ Gets (["f-1"] ++ callIdsOf before).toFinset ⟨"f-1", "f", .null⟩ id :=
  (assign_makes_ids_unique [⟨.assistant, [.call ⟨"f-1", "f", .null⟩]⟩]
    [⟨.assistant, [.call ⟨"", "f", .null⟩, .text "Again.", .call ⟨"f-1", "f", .null⟩]⟩]).2.2.2.1
      [.call ⟨"", "f", .null⟩, .text "Again."] ⟨"f-1", "f", .null⟩ [] rfl

example : assign [⟨.assistant, [.call ⟨"f-1", "f", .null⟩]⟩]
    [⟨.assistant, [.call ⟨"", "f", .null⟩, .call ⟨"f-1", "f", .null⟩, .call ⟨"h", "g", .null⟩]⟩] =
      [⟨.assistant, [.call ⟨"f-2", "f", .null⟩, .call ⟨"f-3", "f", .null⟩,
        .call ⟨"h", "g", .null⟩]⟩] := by
  decide

end Messages

end CallIds

end PromptScript
