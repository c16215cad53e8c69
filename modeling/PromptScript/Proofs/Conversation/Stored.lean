import PromptScript.Conversation.Codec
import PromptScript.Proofs.Engine.Contents
import PromptScript.Proofs.Json.ReadBack
import PromptScript.Proofs.Json.WellFormed

/-!
# Stored conversations

A conversation is found again in its stored form once the members of its objects are in order.  The
stored form has the numbers of the arguments of its calls, which lie four levels deeper there than
the conversation itself.
-/

namespace PromptScript

open Json (lookup?)

/-! ## Blocks -/

namespace Block

/-- The stored form of a block is read by its type and its other fields. -/
theorem ofJson?_sorted_object (members : List (String × Json)) {tag : String}
    (hnodup : (members.map Prod.fst).Nodup) (htag : lookup? "type" members = some (.string tag)) :
    ∃ body : Json, ofJson? (Json.object members).sorted = ofTagged? tag body ∧
      body.isObject = true ∧ ∀ names, "type" ∉ names →
        body.fields? names = some (names.map fun name => (lookup? name members).map Json.sorted) := by
  obtain ⟨ordered, hsorted, hordered, hlookup⟩ := Json.sorted_object members
  have hfound : Json.uniqueMember? "type" ordered = some (some (.string tag)) := by
    rw [Json.uniqueMember?_of_nodup _ hordered.nodup, hlookup hnodup, htag]
    rfl
  refine ⟨.object (ordered.filter fun entry => entry.1 != "type"), ?_, rfl, ?_⟩
  · rw [hsorted, ofJson?]
    simp only [hfound]
  · intro names hnames
    have hfiltered : ((ordered.filter fun entry => entry.1 != "type").map Prod.fst).Nodup :=
      hordered.nodup.sublist (List.filter_sublist.map Prod.fst)
    rw [Json.fields?, Json.fieldsOfMembers?_of_nodup names hfiltered]
    congr 1
    apply List.map_congr_left
    intro name hname
    have hother : name ≠ "type" := by
      rintro rfl
      exact hnames hname
    rw [Json.lookup?_filter hother, hlookup hnodup]

/-- A block with well-formed arguments is found again in its stored form. -/
theorem ofJson?_toJson {block : Block} (hblock : block.WellFormed) :
    ofJson? block.toJson.sorted = some block := by
  cases block with
  | text body =>
      have hnames : ["type", "text"].Nodup := by decide
      obtain ⟨stored, hread, -, hfields⟩ := ofJson?_sorted_object
        [("type", .string "text"), ("text", .string body)] hnames rfl
      rw [toJson, hread, ofTagged?, if_pos rfl, hfields _ (by decide)]
      rfl
  | image picture =>
      have hnames : ["type", "path", "media_type", "data"].Nodup := by decide
      obtain ⟨stored, hread, hobject, hfields⟩ := ofJson?_sorted_object
        [("type", .string "image"), ("path", .string picture.path),
          ("media_type", .string picture.mediaType), ("data", .string picture.data)] hnames rfl
      rw [toJson, hread, ofTagged?, if_neg (by decide), if_pos rfl, if_pos hobject,
        hfields _ (by decide)]
      rfl
  | call request =>
      have hnames : ["type", "id", "name", "arguments"].Nodup := by decide
      obtain ⟨stored, hread, -, hfields⟩ := ofJson?_sorted_object
        [("type", .string "function_call"), ("id", .string request.id),
          ("name", .string request.name), ("arguments", request.arguments)] hnames rfl
      have hsame : request.arguments.sorted.sorted = request.arguments := by
        rw [Json.WellFormed.sorted_eq hblock, Json.WellFormed.sorted_eq hblock]
      rw [toJson, hread, ofTagged?, if_neg (by decide), if_neg (by decide), if_pos rfl,
        hfields _ (by decide)]
      change some (Block.call ⟨request.id, request.name, request.arguments.sorted.sorted⟩) = _
      rw [hsame]
  | result answer =>
      obtain ⟨id, name, content, isError⟩ := answer
      cases isError with
      | false =>
          have hnames : ["type", "id", "name", "content"].Nodup := by decide
          obtain ⟨stored, hread, -, hfields⟩ := ofJson?_sorted_object
            [("type", .string "function_result"), ("id", .string id), ("name", .string name),
              ("content", .string content)] hnames rfl
          change ofJson? (Json.object [("type", .string "function_result"), ("id", .string id),
            ("name", .string name), ("content", .string content)]).sorted = _
          rw [hread, ofTagged?, if_neg (by decide), if_neg (by decide), if_neg (by decide), if_pos rfl,
            hfields _ (by decide)]
          rfl
      | true =>
          have hnames : ["type", "id", "name", "content", "is_error"].Nodup := by decide
          obtain ⟨stored, hread, -, hfields⟩ := ofJson?_sorted_object
            [("type", .string "function_result"), ("id", .string id), ("name", .string name),
              ("content", .string content), ("is_error", .bool true)] hnames rfl
          change ofJson? (Json.object [("type", .string "function_result"), ("id", .string id),
            ("name", .string name), ("content", .string content), ("is_error", .bool true)]).sorted =
              _
          rw [hread, ofTagged?, if_neg (by decide), if_neg (by decide), if_neg (by decide), if_pos rfl,
            hfields _ (by decide)]
          rfl

/-- The numbers of a stored block are those of its arguments. -/
theorem eachNumber_toJson {property : Number → Prop} {block : Block}
    (harguments : ∀ request, block = .call request → request.arguments.EachNumber property) :
    block.toJson.EachNumber property := by
  cases block with
  | text body =>
      refine .object ?_
      simp [Json.EachNumber.string]
  | image picture =>
      refine .object ?_
      simp [Json.EachNumber.string]
  | call request =>
      refine .object ?_
      simp [Json.EachNumber.string, harguments request rfl]
  | result answer =>
      obtain ⟨id, name, content, isError⟩ := answer
      cases isError <;>
        · refine .object ?_
          simp [Json.EachNumber.string, Json.EachNumber.bool]

theorem nesting_toJson_le_iff {block : Block} {limit : Nat} :
    block.toJson.nesting ≤ limit + 1 ↔
      ∀ request, block = .call request → request.arguments.nesting ≤ limit := by
  cases block with
  | text body => simp [toJson, Json.nesting, Json.membersNesting]
  | image picture => simp [toJson, Json.nesting, Json.membersNesting]
  | call request => simp [toJson, Json.nesting, Json.membersNesting]
  | result answer =>
      obtain ⟨id, name, content, isError⟩ := answer
      cases isError <;> simp [toJson, Json.nesting, Json.membersNesting]

end Block

/-! ## Conversations -/

theorem Message.ofJson?_toJson (isEmptyValue : Json → Bool) {message : Message}
    (hblocks : ∀ block ∈ message.content, block.WellFormed) :
    Message.ofJson? isEmptyValue message.toJson.sorted = some message := by
  have hnames : ["role", "content"].Nodup := by decide
  have hfields := Json.fields?_sorted [("role", .string message.role.name),
    ("content", .array (message.content.map Block.toJson))] ["role", "content"] hnames
  have hcontent : (Json.sortedItems (message.content.map Block.toJson)).mapM Block.ofJson? =
      some message.content := by
    rw [Json.sortedItems_eq_map, List.map_map]
    exact Json.mapM_map_eq_some fun block hblock => Block.ofJson?_toJson (hblocks block hblock)
  rw [Message.toJson, Message.ofJson?, hfields]
  change ((Role.ofName? message.role.name).bind fun role =>
    ((Json.sortedItems (message.content.map Block.toJson)).mapM Block.ofJson?).bind fun content =>
      some (Message.mk role content)) = some message
  rw [Role.ofName?_name, hcontent]
  rfl

namespace Conversation

variable {conversation : Conversation}

/-- A conversation whose calls have well-formed arguments is found again in its stored form. -/
theorem ofJson?_toJson (isEmptyValue : Json → Bool)
    (hblocks : ∀ block ∈ conversation.blocks, block.WellFormed) :
    ofJson? isEmptyValue conversation.toJson.sorted = some conversation := by
  rw [toJson, Json.sorted, Json.sortedItems_eq_map, List.map_map]
  apply Json.mapM_map_eq_some
  intro message hmessage
  apply Message.ofJson?_toJson isEmptyValue
  intro block hblock
  exact hblocks block (List.mem_flatMap.mpr ⟨message, hmessage, hblock⟩)

/-- The calls of a conversation. -/
def calls (conversation : Conversation) : List Call :=
  conversation.flatMap Message.calls

theorem mem_calls {request : Call} :
    request ∈ conversation.calls ↔ Block.call request ∈ conversation.blocks := by
  simp only [calls, blocks, Message.calls, List.mem_flatMap, List.mem_filterMap]
  constructor
  · rintro ⟨message, hmessage, block, hblock, hcall⟩
    cases block <;> simp [Block.call?] at hcall
    subst hcall
    exact ⟨message, hmessage, hblock⟩
  · rintro ⟨message, hmessage, hblock⟩
    exact ⟨message, hmessage, _, hblock, rfl⟩

theorem eachNumber_toJson {property : Number → Prop}
    (harguments : ∀ request ∈ conversation.calls, request.arguments.EachNumber property) :
    conversation.toJson.EachNumber property := by
  refine .array ?_
  intro stored hstored
  obtain ⟨message, hmessage, rfl⟩ := List.mem_map.mp hstored
  refine .object ?_
  simp only [List.forall_mem_cons, List.not_mem_nil, false_implies, implies_true, and_true]
  refine ⟨.string _, .array ?_⟩
  intro stored hstored
  obtain ⟨block, hblock, rfl⟩ := List.mem_map.mp hstored
  apply Block.eachNumber_toJson
  rintro request rfl
  exact harguments request (mem_calls.mpr (List.mem_flatMap.mpr ⟨message, hmessage, hblock⟩))

theorem nesting_toJson_le_iff {limit : Nat} :
    conversation.toJson.nesting ≤ limit + 4 ↔
      ∀ request ∈ conversation.calls, request.arguments.nesting ≤ limit := by
  have hmessage : ∀ message : Message, message.toJson.nesting ≤ limit + 3 ↔
      ∀ block ∈ message.content, block.toJson.nesting ≤ limit + 1 := by
    intro message
    have hrole : (Json.string message.role.name).nesting ≤ limit + 2 := Nat.zero_le _
    rw [Message.toJson, Json.nesting_object_le_iff]
    simp only [List.forall_mem_cons, List.not_mem_nil, false_implies, implies_true, and_true, hrole,
      true_and]
    rw [Json.nesting_array_le_iff, List.forall_mem_map]
  rw [toJson, Json.nesting_array_le_iff, List.forall_mem_map]
  simp only [hmessage, Block.nesting_toJson_le_iff, mem_calls, blocks, List.mem_flatMap]
  constructor
  · rintro hwithin request ⟨message, hmem, hblock⟩
    exact hwithin message hmem _ hblock request rfl
  · rintro hwithin message hmem block hblock request rfl
    exact hwithin request ⟨message, hmem, hblock⟩

end Conversation

end PromptScript
