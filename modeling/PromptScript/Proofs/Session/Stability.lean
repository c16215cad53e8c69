import PromptScript.Proofs.Json.Limits
import PromptScript.Proofs.Session.ReadBack

/-!
# Storing what was read

A record that is read from a text, in whatever form its values are given there, holds what can be
stored: it lies within the reader's limits again, its costs are finite and its instants can be
written.  So the text of its stored form is read back as the same record.
-/

namespace PromptScript

open Json (Sound)

variable {depth : Nat} {value : Json}

namespace Json

theorem readText_ofList (chars : List Char) : readText (String.ofList chars) = (do
    let (value, behind) ← readValue (2 * chars.length + 3) depthLimit (Cursor.start chars)
    readEnd behind
    return value) := by
  rw [readText, String.toList_ofList]

end Json

/-! ## Statements and counters -/

theorem Statement.line_lt_of_ofJson? {statement : Statement} (hvalue : value.Sound (depth + 1))
    (hread : Statement.ofJson? value = some statement) : statement.line < 0x10000000000000000 := by
  rw [ofJson?] at hread
  obtain ⟨found, hfound, hread⟩ := Option.bind_eq_some_iff.mp hread
  split at hread
  next line kind payload =>
    obtain ⟨name, -, hread⟩ := Option.bind_eq_some_iff.mp hread
    obtain ⟨kind, -, hread⟩ := Option.bind_eq_some_iff.mp hread
    obtain ⟨count, hcount, hread⟩ := Option.bind_eq_some_iff.mp hread
    cases hread
    exact (Sound.field hvalue.parts hfound List.mem_cons_self).lt_of_asNat? hcount
  next => cases hread

theorem Counters.isFinite_of_ofJson? {counters : Counters} (hvalue : value.Sound (depth + 1))
    (hread : Counters.ofJson? value = some counters) :
    counters.costIn.isFinite = true ∧ counters.costOut.isFinite = true := by
  rw [ofJson?] at hread
  obtain ⟨found, hfound, hread⟩ := Option.bind_eq_some_iff.mp hread
  split at hread
  next tokensIn tokensOut costIn costOut callCount =>
    obtain ⟨input, -, hread⟩ := Option.bind_eq_some_iff.mp hread
    obtain ⟨output, -, hread⟩ := Option.bind_eq_some_iff.mp hread
    obtain ⟨first, hfirst, hread⟩ := Option.bind_eq_some_iff.mp hread
    obtain ⟨second, hsecond, hread⟩ := Option.bind_eq_some_iff.mp hread
    obtain ⟨count, -, hread⟩ := Option.bind_eq_some_iff.mp hread
    cases hread
    have hcosts : costIn.Sound depth ∧ costOut.Sound depth :=
      ⟨Sound.field hvalue.parts hfound (by simp), Sound.field hvalue.parts hfound (by simp)⟩
    exact ⟨hcosts.1.isFinite_of_asFloat? hfirst, hcosts.2.isFinite_of_asFloat? hsecond⟩
  next => cases hread

/-! ## Conversations -/

/-- The arguments of a call that was read are those that were given. -/
theorem Block.arguments_of_ofTagged? {tag : String} {body : Json} {request : Call}
    (hbody : Sound.Parts depth body) (hread : Block.ofTagged? tag body = some (.call request)) :
    request.arguments.Sound depth := by
  unfold ofTagged? at hread
  split at hread
  next => split at hread <;> simp at hread
  next =>
    split at hread
    next =>
      split at hread
      next => split at hread <;> simp at hread
      next => exact nomatch hread
    next =>
      split at hread
      next =>
        split at hread
        next id name arguments hfound =>
          cases hread
          have harguments : arguments.Sound depth := Sound.field hbody hfound (by simp)
          rwa [harguments.wellFormed.sorted_eq]
        next => exact nomatch hread
      next =>
        split at hread
        next => split at hread <;> simp at hread
        next => exact nomatch hread

theorem Block.arguments_of_ofJson? {request : Call} (hvalue : value.Sound (depth + 1))
    (hread : Block.ofJson? value = some (.call request)) : request.arguments.Sound depth := by
  unfold ofJson? at hread
  split at hread
  next members =>
    split at hread
    next tag _ =>
      refine arguments_of_ofTagged? ?_ hread
      intro entry hentry
      exact hvalue.member (List.mem_of_mem_filter hentry)
    next => exact nomatch hread
  next tag rest =>
    refine arguments_of_ofTagged? ?_ hread
    intro part hpart
    exact hvalue.item (List.mem_cons_of_mem _ hpart)
  next => exact nomatch hread

theorem Message.arguments_of_ofJson? {isEmptyValue : Json → Bool} {message : Message}
    {request : Call} (hvalue : value.Sound (depth + 3))
    (hread : Message.ofJson? isEmptyValue value = some message)
    (hrequest : .call request ∈ message.content) : request.arguments.Sound depth := by
  rw [ofJson?] at hread
  obtain ⟨found, hfound, hread⟩ := Option.bind_eq_some_iff.mp hread
  split at hread
  next role content =>
    obtain ⟨word, -, hread⟩ := Option.bind_eq_some_iff.mp hread
    obtain ⟨named, -, hread⟩ := Option.bind_eq_some_iff.mp hread
    obtain ⟨blocks, hblocks, hread⟩ := Option.bind_eq_some_iff.mp hread
    cases hread
    have hcontent : (Json.array content).Sound (depth + 2) :=
      Sound.field hvalue.parts hfound (by simp)
    obtain ⟨stored, hstored, hblock⟩ := Json.exists_of_mem_mapM? hblocks hrequest
    exact Block.arguments_of_ofJson? (hcontent.item hstored) hblock
  next => cases hread

theorem Conversation.arguments_of_ofJson? {isEmptyValue : Json → Bool}
    {conversation : Conversation} {request : Call} (hvalue : value.Sound (depth + 4))
    (hread : Conversation.ofJson? isEmptyValue value = some conversation)
    (hrequest : .call request ∈ conversation.blocks) : request.arguments.Sound depth := by
  obtain ⟨items, hitems, hread⟩ := Option.bind_eq_some_iff.mp hread
  obtain rfl := Json.eq_array_of_asArray? hitems
  obtain ⟨message, hmessage, hblock⟩ := List.mem_flatMap.mp hrequest
  obtain ⟨stored, hstored, hmessage⟩ := Json.exists_of_mem_mapM? hread hmessage
  exact Message.arguments_of_ofJson? (hvalue.item hstored) hmessage hblock

/-! ## Records -/

/-- What a state holds that was read among the members of a stored form. -/
theorem ExecutionState.sound_of_ofMembers? {members : List (String × Json)} {state : ExecutionState}
    (hmembers : (Json.object members).Sound 127) (hread : ofMembers? members = some state) :
    state.WellFormed ∧ (∀ statement ∈ state.statements, statement.line < 0x10000000000000000) ∧
      state.ip < 0x10000000000000000 ∧
      (∀ entry ∈ state.bindings.entries, entry.2.nesting ≤ 125) ∧
      (∀ request ∈ state.conversation.calls, request.arguments.nesting ≤ 122) ∧
      state.counters.costIn.isFinite = true ∧ state.counters.costOut.isFinite = true := by
  have hpart : ∀ {name : String} {part : Json}, Json.lookup? name members = some part →
      part.Sound 126 := fun hfound => hmembers.member (Json.lookup?_mem hfound)
  rw [ofMembers?] at hread
  obtain ⟨program, hprogram, hread⟩ := Option.bind_eq_some_iff.mp hread
  obtain ⟨items, hitems, hread⟩ := Option.bind_eq_some_iff.mp hread
  obtain ⟨identifier, -, hread⟩ := Option.bind_eq_some_iff.mp hread
  obtain ⟨sessionId, -, hread⟩ := Option.bind_eq_some_iff.mp hread
  obtain ⟨filename, -, hread⟩ := Option.bind_eq_some_iff.mp hread
  obtain ⟨pointer, hpointer, hread⟩ := Option.bind_eq_some_iff.mp hread
  obtain ⟨ip, hip, hread⟩ := Option.bind_eq_some_iff.mp hread
  obtain ⟨statements, hstatements, hread⟩ := Option.bind_eq_some_iff.mp hread
  obtain ⟨talk, htalk, hread⟩ := Option.bind_eq_some_iff.mp hread
  obtain ⟨conversation, hconversation, hread⟩ := Option.bind_eq_some_iff.mp hread
  obtain ⟨values, hvalues, hread⟩ := Option.bind_eq_some_iff.mp hread
  obtain ⟨entries, hentries, hread⟩ := Option.bind_eq_some_iff.mp hread
  obtain ⟨model, -, hread⟩ := Option.bind_eq_some_iff.mp hread
  obtain ⟨provider, -, hread⟩ := Option.bind_eq_some_iff.mp hread
  obtain ⟨stored, hstored, hread⟩ := Option.bind_eq_some_iff.mp hread
  obtain ⟨counters, hcounters, hread⟩ := Option.bind_eq_some_iff.mp hread
  cases hread
  obtain rfl := Json.eq_array_of_asArray? hitems
  obtain rfl := Json.eq_object_of_asObject? hentries
  have hprogram := hpart hprogram
  have hvariables := hpart hvalues
  have harguments : ∀ request : Call, .call request ∈ conversation.blocks →
      request.arguments.Sound 122 := by
    intro request hrequest
    exact Conversation.arguments_of_ofJson? (hpart htalk) hconversation hrequest
  have hstate : ∀ block ∈ conversation.blocks, block.WellFormed := by
    intro block hblock
    cases block with
    | call request => exact (harguments request hblock).wellFormed
    | text _ | image _ | result _ => trivial
  refine ⟨?_, ?_, (hpart hpointer).lt_of_asNat? hip, ?_, ?_, ?_⟩
  · cases hvariables.wellFormed with
    | object hordered hwellFormed => exact ⟨hordered, hwellFormed, hstate⟩
  · intro statement hstatement
    obtain ⟨item, hitem, hstatement⟩ := Json.exists_of_mem_mapM? hstatements hstatement
    exact Statement.line_lt_of_ofJson? (hprogram.item hitem) hstatement
  · exact fun entry hentry => (hvariables.member hentry).nesting
  · exact fun request hrequest => (harguments request (Conversation.mem_calls.mp hrequest)).nesting
  · exact Counters.isFinite_of_ofJson? (hpart hstored) hcounters

namespace SessionRecord

variable {record : SessionRecord}

/-- A record that is read from a text can be stored and read again. -/
theorem sound_of_parse {text : String} (hparse : parse text = .ok record) :
    record.WellFormed ∧ record.Loadable := by
  obtain ⟨members, hvalue, hread, hposition⟩ := parse_eq_ok hparse
  obtain ⟨-, hstate, ⟨created, hcreated⟩, ⟨updated, hupdated⟩⟩ := ofMembers?_eq_some hread
  obtain ⟨hwellFormed, hlines, hcounted, hvalues, harguments, hin, hout⟩ :=
    ExecutionState.sound_of_ofMembers? (Json.sound_of_parse hvalue) hstate
  exact ⟨⟨hwellFormed, hlines, hcounted, hposition, Timestamp.writable_of_parse? hcreated,
    Timestamp.writable_of_parse? hupdated⟩, ⟨hvalues, harguments, hin, hout⟩⟩

/-- Every record that is read from a text stands within its program, and the text of its stored form
is read back as the record, whatever form the first text gave it.  The binary64 numbers of the stored
form are assumed to be read back. -/
theorem stored_form_is_stable {text : String} (hparse : parse text = .ok record) :
    record.state.ip ≤ record.state.statements.length ∧
      (record.toJson.EachNumber Json.FloatReadsBack → parse record.render = .ok record) := by
  obtain ⟨hrecord, hloadable⟩ := sound_of_parse hparse
  exact ⟨hrecord.position, fun hfloats => (parse_render hrecord hfloats).1 hloadable⟩

/-- A text whose members are reordered, unknown or repeated, with arrays in the place of objects. -/
def looseText : String :=
  "\x7b\"updatedAt\": \"2024-01-01t00:59:60.5+01:00\", \"formatVersion\": 1, \"theme\": \"dark\",
  \"revision\": 2, \"status\": \x7b\"suspended\": null\x7d, \"sessionId\": \"s\",
  \"statements\": [[1, \"user_msg\", \"hi\"], \x7b\"payload\": \"\", \"kind\": \"exec\", \"line\": 0\x7d],
  \"instructionPointer\": 1, \"conversation\": [[\"user\", [[\"text\", \"hi\"]]]],
  \"variables\": \x7b\"b\": 1, \"a\": [true], \"b\": 3\x7d,
  \"cumulativeCounters\": [0, 0, 0, 0.0, 0], \"createdAt\": \"+2024-1-1 02:00:00Z\"\x7d"

/-- The record that this text gives. -/
def looseRecord : SessionRecord :=
  ⟨2, .suspended, ⟨"s", none, 1, [⟨1, .userMessage, "hi"⟩, ⟨0, .exec, ""⟩], [⟨.user, [.text "hi"]⟩],
    ⟨[("a", .array [.bool true]), ("b", .number (.int 3))]⟩, none, none, .zero⟩,
    ⟨1704074400, 0⟩, ⟨1704067199, 1500000000⟩⟩

set_option maxRecDepth 4096 in
theorem stored_form_is_stable_loose :
    parse looseText = .ok looseRecord ∧
      looseRecord.state.ip ≤ looseRecord.state.statements.length ∧
      parse looseRecord.render = .ok looseRecord := by
  have hread : Json.readText looseText = _ := Json.readText_ofList _
  have hrecord : (parse looseText).toOption = some looseRecord := by
    rw [parse, Json.parse, hread]
    decide +kernel
  have hparse : parse looseText = .ok looseRecord := by
    cases hvalue : parse looseText with
    | ok record =>
      rw [hvalue] at hrecord
      exact congrArg Except.ok (Option.some.inj hrecord)
    | error cause =>
      rw [hvalue] at hrecord
      cases hrecord
  have hstable := stored_form_is_stable hparse
  have hfloats : looseRecord.toJson.EachNumber Json.FloatReadsBack := by
    refine eachNumber_toJson (sound_of_parse hparse).1 (fun value hvalue => trivial) ?_ ?_ ?_
    · intro cost hcost hfinite
      rcases List.mem_pair.mp hcost with rfl | rfl
      · exact Engine.readsBack_zero
      · exact Engine.readsBack_zero
    · intro entry hentry
      rcases List.mem_pair.mp hentry with rfl | rfl
      · exact .array (List.forall_mem_singleton.mpr (.bool true))
      · exact .number trivial
    · exact fun request hrequest => absurd hrequest List.not_mem_nil
  exact ⟨hparse, hstable.1, hstable.2 hfloats⟩

end SessionRecord

end PromptScript
