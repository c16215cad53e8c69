import PromptScript.Engine.Basic
import PromptScript.Proofs.Conversation.Stored

/-!
# Reading stored sessions

The text of a stored session is read back as the session, unless one of its values lies too deep or
one of its costs is not finite.  The stored form puts two levels around the value of a variable and
five around the arguments of a call, and the reader takes 127 levels in all, so that a value which
was read within that limit may be stored beyond it.
-/

namespace PromptScript

open Json (lookup? FloatReadsBack)

/-! ## Statements and counters -/

theorem Statement.ofJson?_toJson (statement : Statement) :
    Statement.ofJson? statement.toJson.sorted = some statement := by
  have hnames : ["line", "kind", "payload"].Nodup := by decide
  have hfields := Json.fields?_sorted [("line", .ofNat statement.line),
    ("kind", .string statement.kind.name), ("payload", .string statement.payload)]
    ["line", "kind", "payload"] hnames
  rw [Statement.toJson, Statement.ofJson?, hfields]
  change ((StatementKind.ofName? statement.kind.name).bind fun kind =>
    some (Statement.mk statement.line kind statement.payload)) = some statement
  rw [StatementKind.ofName?_name]
  rfl

namespace Counters

variable (counters : Counters)

theorem fields?_toJson :
    counters.toJson.sorted.fields? ["tokens_in", "tokens_out", "cost_in", "cost_out", "call_count"] =
      some [some (.ofNat counters.tokensIn.toNat), some (.ofNat counters.tokensOut.toNat),
        some (Json.ofFloat counters.costIn).sorted, some (Json.ofFloat counters.costOut).sorted,
        some (.ofNat counters.callCount.toNat)] := by
  have hnames : ["tokens_in", "tokens_out", "cost_in", "cost_out", "call_count"].Nodup := by decide
  rw [toJson]
  exact Json.fields?_sorted [("tokens_in", .ofNat counters.tokensIn.toNat),
    ("tokens_out", .ofNat counters.tokensOut.toNat), ("cost_in", .ofFloat counters.costIn),
    ("cost_out", .ofFloat counters.costOut), ("call_count", .ofNat counters.callCount.toNat)]
    ["tokens_in", "tokens_out", "cost_in", "cost_out", "call_count"] hnames

/-- The cost in a stored form is read back where it is finite. -/
theorem asFloat?_ofFloat (cost : Float) :
    (Json.ofFloat cost).sorted.asFloat? = if cost.isFinite then some cost else none := by
  unfold Json.ofFloat
  split <;> rfl

theorem ofJson?_toJson : Counters.ofJson? counters.toJson.sorted =
    if counters.costIn.isFinite ∧ counters.costOut.isFinite then some counters else none := by
  rw [ofJson?, fields?_toJson]
  change ((Json.ofFloat counters.costIn).sorted.asFloat?.bind fun costIn =>
    (Json.ofFloat counters.costOut).sorted.asFloat?.bind fun costOut =>
      some (Counters.mk (.ofNat counters.tokensIn.toNat) (.ofNat counters.tokensOut.toNat) costIn
        costOut (.ofNat counters.callCount.toNat))) = _
  rw [asFloat?_ofFloat, asFloat?_ofFloat]
  by_cases hin : counters.costIn.isFinite <;> by_cases hout : counters.costOut.isFinite <;>
    simp [hin, hout]

end Counters

/-! ## States -/

namespace ExecutionState

variable {state : ExecutionState}

theorem optionalText?_sorted (text : Option String) :
    optionalText? (some (text.elim .null Json.string).sorted) = some text := by
  cases text <;> rfl

/-- A well-formed state is found again among the members of its stored form, if its costs are
finite. -/
theorem ofMembers?_of_lookup (hstate : state.WellFormed) {stored : List (String × Json)}
    (hstored : ∀ entry ∈ state.members, lookup? entry.1 stored = some entry.2.sorted) :
    ofMembers? stored =
      if state.counters.costIn.isFinite ∧ state.counters.costOut.isFinite then some state
      else none := by
  have hvariables : (Json.object state.bindings.entries).sorted = .object state.bindings.entries :=
    Json.WellFormed.sorted_eq (.object hstate.ordered hstate.values)
  have hconversation := Conversation.ofJson?_toJson Json.isNullOrEmpty hstate.blocks
  have hstatements : (Json.sortedItems (state.statements.map Statement.toJson)).mapM
      Statement.ofJson? = some state.statements := by
    rw [Json.sortedItems_eq_map, List.map_map]
    exact Json.mapM_map_eq_some fun statement _ => Statement.ofJson?_toJson statement
  simp only [members, List.forall_mem_cons, hvariables] at hstored
  obtain ⟨hid, hname, hip, hprogram, htalk, hbindings, hmodel, hprovider, hcounters, -⟩ := hstored
  rw [ofMembers?]
  simp only [hid, hname, hip, hprogram, htalk, hbindings, hmodel, hprovider, hcounters,
    optionalText?_sorted, hconversation, Counters.ofJson?_toJson, Option.bind_eq_bind,
    Option.bind_some]
  change (((Json.sortedItems (state.statements.map Statement.toJson)).mapM Statement.ofJson?).bind
    fun statements => (if state.counters.costIn.isFinite ∧ state.counters.costOut.isFinite then
      some state.counters else none).bind fun counters =>
        some { state with statements, counters }) = _
  rw [hstatements]
  split <;> rfl

end ExecutionState

/-! ## Records -/

namespace SessionRecord

/-- The members of the stored form. -/
def fields (record : SessionRecord) : List (String × Json) :=
  [("formatVersion", .ofNat formatVersion), ("revision", .ofNat record.revision.toNat),
    ("status", .string record.status.name)] ++ record.state.members
    ++ [("createdAt", .string record.createdAt.render),
      ("updatedAt", .string record.updatedAt.render)]

theorem toJson_eq (record : SessionRecord) : record.toJson = .object record.fields := rfl

/-- What a record is read from. -/
theorem ofMembers?_eq_some {members : List (String × Json)} {record : SessionRecord}
    (hread : ofMembers? members = some record) :
    (∃ count, (Json.lookup? "revision" members).bind Json.asNat? = some count ∧
      record.revision = .ofNat count) ∧
    ExecutionState.ofMembers? members = some record.state ∧
    (∃ text, Timestamp.parse? text = some record.createdAt) ∧
    ∃ text, Timestamp.parse? text = some record.updatedAt := by
  rw [ofMembers?] at hread
  obtain ⟨number, hnumber, hread⟩ := Option.bind_eq_some_iff.mp hread
  obtain ⟨count, hcount, hread⟩ := Option.bind_eq_some_iff.mp hread
  obtain ⟨named, -, hread⟩ := Option.bind_eq_some_iff.mp hread
  obtain ⟨word, -, hread⟩ := Option.bind_eq_some_iff.mp hread
  obtain ⟨status, -, hread⟩ := Option.bind_eq_some_iff.mp hread
  obtain ⟨state, hstate, hread⟩ := Option.bind_eq_some_iff.mp hread
  obtain ⟨first, -, hread⟩ := Option.bind_eq_some_iff.mp hread
  obtain ⟨created, -, hread⟩ := Option.bind_eq_some_iff.mp hread
  obtain ⟨createdAt, hcreated, hread⟩ := Option.bind_eq_some_iff.mp hread
  obtain ⟨second, -, hread⟩ := Option.bind_eq_some_iff.mp hread
  obtain ⟨updated, -, hread⟩ := Option.bind_eq_some_iff.mp hread
  obtain ⟨updatedAt, hupdated, hread⟩ := Option.bind_eq_some_iff.mp hread
  cases hread
  exact ⟨⟨count, Option.bind_eq_some_iff.mpr ⟨number, hnumber, hcount⟩, rfl⟩, hstate,
    ⟨created, hcreated⟩, ⟨updated, hupdated⟩⟩

/-- A text that is read as a record holds the members of one whose position stands within its
program. -/
theorem parse_eq_ok {text : String} {record : SessionRecord} (hparse : parse text = .ok record) :
    ∃ members, Json.parse text = .ok (.object members) ∧ ofMembers? members = some record ∧
      record.state.ip ≤ record.state.statements.length := by
  unfold parse at hparse
  split at hparse
  next value hvalue =>
    simp only [ofJson] at hparse
    split at hparse
    next => exact nomatch hparse
    next =>
      split at hparse
      next => exact nomatch hparse
      next read hread =>
        split at hparse
        next => exact nomatch hparse
        next hposition =>
          cases hparse
          obtain ⟨members, hmembers, hread⟩ := Option.bind_eq_some_iff.mp hread
          obtain rfl := Json.eq_object_of_asObject? hmembers
          exact ⟨members, hvalue, hread, Nat.not_lt.mp hposition⟩
  next => exact nomatch hparse

/-- Whether a record holds what a run holds in practice: well-formed values, numbers of 64 bits, a
position in its program and instants that can be written. -/
structure WellFormed (record : SessionRecord) : Prop where
  state : record.state.WellFormed
  lines : ∀ statement ∈ record.state.statements, statement.line < 0x10000000000000000
  counted : record.state.ip < 0x10000000000000000
  position : record.state.ip ≤ record.state.statements.length
  createdAt : record.createdAt.Writable
  updatedAt : record.updatedAt.Writable

/-- Whether no value of a record lies too deep in its stored form, and its costs are finite. -/
structure Loadable (record : SessionRecord) : Prop where
  values : ∀ entry ∈ record.state.bindings.entries, entry.2.nesting ≤ 125
  arguments : ∀ request ∈ record.state.conversation.calls, request.arguments.nesting ≤ 122
  costIn : record.state.counters.costIn.isFinite = true
  costOut : record.state.counters.costOut.isFinite = true

variable {record : SessionRecord}

/-- What is read from the stored form of a well-formed record, once it is read as JSON. -/
theorem ofJson_sorted (hrecord : record.WellFormed) :
    ofJson record.toJson.sorted =
      if record.state.counters.costIn.isFinite ∧ record.state.counters.costOut.isFinite then
        .ok record
      else .error .unreadableSession := by
  obtain ⟨stored, hsorted, -, hlookup⟩ := Json.sorted_object record.fields
  have hnodup : (record.fields.map Prod.fst).Nodup := by
    have hnames : ["formatVersion", "revision", "status", "sessionId", "filename",
      "instructionPointer", "statements", "conversation", "variables", "activeModel",
      "activeProvider", "cumulativeCounters", "createdAt", "updatedAt"].Nodup := by decide
    exact hnames
  have hstored : ∀ entry ∈ record.fields, lookup? entry.1 stored = some entry.2.sorted := by
    intro entry hentry
    rw [hlookup hnodup, Json.lookup?_of_mem hnodup hentry]
    rfl
  have hstate := ExecutionState.ofMembers?_of_lookup hrecord.state fun entry hentry =>
    hstored entry (List.mem_append_left _ (List.mem_append_right _ hentry))
  have hversion := hstored ("formatVersion", .ofNat formatVersion) (by simp [fields])
  have hrevision := hstored ("revision", .ofNat record.revision.toNat) (by simp [fields])
  have hstatus := hstored ("status", .string record.status.name) (by simp [fields])
  have hcreated := hstored ("createdAt", .string record.createdAt.render) (by simp [fields])
  have hupdated := hstored ("updatedAt", .string record.updatedAt.render) (by simp [fields])
  have hread : ofMembers? stored = if record.state.counters.costIn.isFinite ∧
      record.state.counters.costOut.isFinite then some record else none := by
    rw [ofMembers?]
    have hnumber : (Json.ofNat record.revision.toNat).sorted.asNat? =
        some record.revision.toNat := rfl
    have hname : (Json.string record.status.name).sorted.variantName? Json.isNull =
        some record.status.name := rfl
    have htext : ∀ text : String, (Json.string text).sorted.asString? = some text := fun _ => rfl
    simp only [hrevision, hstatus, hstate, hcreated, hupdated, Option.bind_eq_bind, Option.bind_some,
      hnumber, hname, htext, RunStatus.ofName?_name, Timestamp.parse?_render hrecord.createdAt,
      Timestamp.parse?_render hrecord.updatedAt, UInt64.ofNat_toNat]
    split <;> rfl
  have hfirst : (record.toJson.sorted.member? "formatVersion").bind Json.asNat? =
      some formatVersion := by
    rw [toJson_eq, hsorted, Json.member?, hversion]
    rfl
  have hobject : record.toJson.sorted.asObject?.bind ofMembers? = ofMembers? stored := by
    rw [toJson_eq, hsorted]
    rfl
  simp only [ofJson, hfirst, hobject, hread, ne_eq, not_true_eq_false, if_false]
  by_cases hfinite : record.state.counters.costIn.isFinite ∧ record.state.counters.costOut.isFinite
  · rw [if_pos hfinite, if_pos hfinite]
    exact if_neg (Nat.not_lt.mpr hrecord.position)
  · rw [if_neg hfinite, if_neg hfinite]

theorem nesting_toJson_le_iff :
    record.toJson.nesting ≤ 127 ↔
      (∀ entry ∈ record.state.bindings.entries, entry.2.nesting ≤ 125) ∧
        ∀ request ∈ record.state.conversation.calls, request.arguments.nesting ≤ 122 := by
  have hstring : ∀ text : String, (Json.string text).nesting ≤ 126 := fun _ => Nat.zero_le _
  have hnumber : ∀ value : Nat, (Json.ofNat value).nesting ≤ 126 := fun _ => Nat.zero_le _
  have htext : ∀ text : Option String, (text.elim .null Json.string).nesting ≤ 126 := by
    intro text
    cases text <;> exact Nat.zero_le _
  have hstatements : (Json.array (record.state.statements.map Statement.toJson)).nesting ≤ 126 := by
    apply Json.nesting_array_le_iff.mpr
    rw [List.forall_mem_map]
    intro statement hstatement
    simp [Statement.toJson, Json.nesting, Json.membersNesting, Json.ofNat]
  have hcost : ∀ cost : Float, (Json.ofFloat cost).nesting ≤ 125 := by
    intro cost
    unfold Json.ofFloat
    split <;> exact Nat.zero_le _
  have hcounters : record.state.counters.toJson.nesting ≤ 126 := by
    apply Json.nesting_object_le_iff.mpr
    simp [hcost, Json.nesting, Json.ofNat]
  have hconversation : record.state.conversation.toJson.nesting ≤ 126 ↔
      ∀ request ∈ record.state.conversation.calls, request.arguments.nesting ≤ 122 :=
    Conversation.nesting_toJson_le_iff
  have hvariables : (Json.object record.state.bindings.entries).nesting ≤ 126 ↔
      ∀ entry ∈ record.state.bindings.entries, entry.2.nesting ≤ 125 :=
    Json.nesting_object_le_iff
  change record.toJson.nesting ≤ 126 + 1 ↔ _
  rw [toJson_eq, Json.nesting_object_le_iff]
  simp only [fields, ExecutionState.members, List.forall_mem_append, List.forall_mem_cons,
    List.not_mem_nil, false_implies, implies_true, hstring, hnumber, htext, hstatements, hcounters,
    hconversation, hvariables, true_and, and_true]
  exact and_comm

/-- What holds of counted numbers, of finite costs and of the numbers in the values of a record holds
of each number in its stored form. -/
theorem eachNumber_toJson {property : Number → Prop} (hrecord : record.WellFormed)
    (hcounted : ∀ value : Nat, value < 0x10000000000000000 → property (.int value))
    (hcosts : ∀ cost ∈ [record.state.counters.costIn, record.state.counters.costOut],
      cost.isFinite = true → property (.float cost))
    (hvalues : ∀ entry ∈ record.state.bindings.entries, entry.2.EachNumber property)
    (harguments : ∀ request ∈ record.state.conversation.calls,
      request.arguments.EachNumber property) :
    record.toJson.EachNumber property := by
  have hnumber : ∀ value : Nat, value < 0x10000000000000000 →
      (Json.ofNat value).EachNumber property := fun value hvalue => .number (hcounted value hvalue)
  have hword : ∀ value : UInt64, (Json.ofNat value.toNat).EachNumber property :=
    fun value => hnumber value.toNat value.toNat_lt
  have htext : ∀ text : Option String, (text.elim .null Json.string).EachNumber property := by
    intro text
    cases text with
    | none => exact .null
    | some text => exact .string text
  have hcost : ∀ cost ∈ [record.state.counters.costIn, record.state.counters.costOut],
      (Json.ofFloat cost).EachNumber property := by
    intro cost hmem
    unfold Json.ofFloat
    split
    next hfinite => exact .number (hcosts cost hmem hfinite)
    next => exact .null
  have hstatements : (Json.array (record.state.statements.map Statement.toJson)).EachNumber
      property := by
    refine .array ?_
    rw [List.forall_mem_map]
    intro statement hstatement
    refine .object ?_
    simp only [List.forall_mem_cons, List.not_mem_nil, false_implies, implies_true, and_true]
    exact ⟨hnumber _ (hrecord.lines statement hstatement), .string _, .string _⟩
  have hcounters : record.state.counters.toJson.EachNumber property := by
    simp only [List.forall_mem_cons] at hcost
    refine .object ?_
    simp only [List.forall_mem_cons, List.not_mem_nil, false_implies, implies_true, and_true, hword,
      hcost]
  have hconversation : record.state.conversation.toJson.EachNumber property :=
    Conversation.eachNumber_toJson harguments
  have hvariables : (Json.object record.state.bindings.entries).EachNumber property :=
    .object hvalues
  rw [toJson_eq]
  refine .object ?_
  simp only [fields, ExecutionState.members, List.forall_mem_append, List.forall_mem_cons,
    List.not_mem_nil, false_implies, implies_true, Json.EachNumber.string, hword, htext, hstatements,
    hcounters, hconversation, hvariables, hnumber _ hrecord.counted, and_true]
  exact hnumber formatVersion (by decide)

theorem inRange_toJson (hrecord : record.WellFormed) :
    record.toJson.EachNumber Number.InRange := by
  apply eachNumber_toJson hrecord
  · intro value hvalue
    simp only [Number.InRange]
    omega
  · intro cost hcost hfinite
    trivial
  · intro entry hentry
    exact (hrecord.state.values entry hentry).eachNumber
  · intro request hrequest
    exact Json.WellFormed.eachNumber (hrecord.state.blocks _ (Conversation.mem_calls.mp hrequest))

/-- A record is loadable where its stored form lies within the reader's limit and its costs are
finite. -/
theorem loadable_iff : record.Loadable ↔ record.toJson.nesting ≤ 127 ∧
    record.state.counters.costIn.isFinite ∧ record.state.counters.costOut.isFinite := by
  rw [nesting_toJson_le_iff]
  constructor
  · rintro ⟨hvalues, harguments, hin, hout⟩
    exact ⟨⟨hvalues, harguments⟩, hin, hout⟩
  · rintro ⟨⟨hvalues, harguments⟩, hin, hout⟩
    exact ⟨hvalues, harguments, hin, hout⟩

/-- A well-formed record is read back from its text where it is loadable, and refused elsewhere. -/
theorem parse_render (hrecord : record.WellFormed)
    (hfloats : record.toJson.EachNumber FloatReadsBack) :
    (record.Loadable → parse record.render = .ok record) ∧
      (¬record.Loadable → parse record.render = .error .unreadableSession) := by
  have hnumbers := (inRange_toJson hrecord).readsBack hfloats
  obtain ⟨hreads, hfails⟩ := Json.parse_of_readable (Json.readable_indentedChars hnumbers 0)
  have hrender : record.render = String.ofList (Json.indentedChars 0 record.toJson) := rfl
  rw [loadable_iff, parse, hrender]
  constructor
  · rintro ⟨hnesting, hfinite⟩
    rw [hreads hnesting]
    simp only [ofJson_sorted hrecord]
    exact if_pos hfinite
  · intro hnot
    by_cases hnesting : record.toJson.nesting ≤ 127
    · rw [hreads hnesting]
      simp only [ofJson_sorted hrecord]
      exact if_neg fun hfinite => hnot ⟨hnesting, hfinite⟩
    · obtain ⟨error, herror⟩ := hfails (Nat.not_le.mp hnesting)
      rw [herror]

end SessionRecord

namespace Engine

variable {engine : Engine}

theorem Reachable.record_wellFormed (hengine : Reachable .wellFormed engine)
    (hlength : engine.state.statements.length < 0x10000000000000000) (record : SessionRecord)
    (hstate : record.state = engine.state) (hcreated : record.createdAt.Writable)
    (hupdated : record.updatedAt.Writable) : record.WellFormed where
  state := hstate ▸ hengine.wellFormed.1
  lines := hstate ▸ hengine.wellFormed.2
  counted := hstate ▸ Nat.lt_of_le_of_lt hengine.ip_le hlength
  position := hstate ▸ hengine.ip_le
  createdAt := hcreated
  updatedAt := hupdated

theorem readsBack_zero : Json.ReadsBack (.float 0.0) := by
  unfold Json.ReadsBack
  decide +kernel

/-- A session before its first request has only costs of zero. -/
theorem floatsReadBack_of_idle {record : SessionRecord} (hrecord : record.WellFormed)
    (hcounters : record.state.counters = .zero)
    (hvalues : ∀ entry ∈ record.state.bindings.entries, entry.2.EachNumber FloatReadsBack)
    (hconversation : record.state.conversation = []) :
    record.toJson.EachNumber FloatReadsBack := by
  refine SessionRecord.eachNumber_toJson hrecord (fun value hvalue => trivial) ?_ hvalues ?_
  · intro cost hcost hfinite
    rw [hcounters] at hcost
    rcases List.mem_pair.mp hcost with rfl | rfl
    · exact readsBack_zero
    · exact readsBack_zero
  · intro request hrequest
    rw [hconversation] at hrequest
    exact nomatch hrequest

theorem values_initial (property : Json → Prop) (hstring : ∀ text, property (.string text)) :
    ∀ entry ∈ Variables.initial.entries, property entry.2 := by
  intro entry hentry
  rcases List.mem_pair.mp hentry with rfl | rfl
  · exact hstring _
  · exact hstring _

/-- The text of a session that has not begun is read back. -/
theorem parse_render_initial {record : SessionRecord} {sessionId : String}
    {statements : List Statement} (hstate : record.state = .initial sessionId statements)
    (hlines : ∀ statement ∈ statements, statement.line < 0x10000000000000000)
    (hlength : statements.length < 0x10000000000000000) (hcreated : record.createdAt.Writable)
    (hupdated : record.updatedAt.Writable) : SessionRecord.parse record.render = .ok record := by
  have hnew : Reachable .wellFormed (new sessionId statements record.createdAt) :=
    .new sessionId hlines hcreated
  have hrecord := hnew.record_wellFormed hlength record hstate hcreated hupdated
  have hfinite : (0.0 : Float).isFinite = true := by decide +kernel
  refine (SessionRecord.parse_render hrecord ?_).1 ?_
  · exact floatsReadBack_of_idle hrecord (by rw [hstate]; rfl)
      (by rw [hstate]; exact values_initial _ .string) (by rw [hstate]; rfl)
  · refine ⟨?_, ?_, ?_, ?_⟩
    · rw [hstate]
      exact values_initial (fun value => value.nesting ≤ 125) fun text => Nat.zero_le _
    · rw [hstate]
      exact fun request hrequest => nomatch hrequest
    · rw [hstate]
      exact hfinite
    · rw [hstate]
      exact hfinite

end Engine

end PromptScript
