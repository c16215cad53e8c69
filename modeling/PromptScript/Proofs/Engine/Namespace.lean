import PromptScript.Proofs.Engine.Placement
import PromptScript.Proofs.Json.Members
import PromptScript.Proofs.Variables.Substitute

/-!
# The namespace of the engine

Nothing that a run does gives a value to a name in the namespace of the engine or to the empty name,
and a span that names something in the namespace is filled in without looking at the variables.
-/

namespace PromptScript

namespace Variables

/-- Whether a name may be given a value: it is not empty and lies outside the namespace of the
engine. -/
structure Writable (name : String) : Prop where
  named : name ≠ ""
  other : name ≠ "VM"
  outside : ¬"VM.".toList <+: name.toList

theorem writable_of_not_reserved {name : String} (hreserved : isReserved name = false)
    (hnamed : name.isEmpty = false) : Writable name := by
  refine ⟨?_, ?_, ?_⟩
  · rintro rfl
    exact absurd hnamed (by decide)
  · rintro rfl
    exact absurd hreserved (by decide)
  · rintro ⟨rest, hrest⟩
    have htext : name.toList = 'V' :: 'M' :: '.' :: rest := hrest.symm
    simp [isReserved, htext] at hreserved

theorem Writable.not_reserved {name : String} (hwritable : Writable name) :
    isReserved name = false := by
  unfold isReserved
  split
  next hname => exact absurd (String.ext hname) hwritable.other
  next rest hname => exact absurd ⟨rest, hname.symm⟩ hwritable.outside
  next => rfl

theorem Writable.set_eq {name : String} (hwritable : Writable name) (bindings : Variables)
    (value : Json) : bindings.set name value = .ok (bindings.insert name value) := by
  have hnamed : name.isEmpty = false := by simpa using hwritable.named
  rw [set, hwritable.not_reserved, hnamed]
  rfl

/-- Every other name is refused. -/
theorem exists_set_error {name : String} (hrefused : ¬Writable name) (bindings : Variables)
    (value : Json) : ∃ error, bindings.set name value = .error error := by
  by_cases hreserved : isReserved name = true
  · exact ⟨_, by rw [set, if_pos hreserved]⟩
  · by_cases hnamed : name.isEmpty = true
    · exact ⟨_, by rw [set, if_neg hreserved, if_pos hnamed]⟩
    · exact absurd (writable_of_not_reserved (Bool.eq_false_iff.mpr hreserved)
        (Bool.eq_false_iff.mpr hnamed)) hrefused

theorem writable_of_set {bindings next : Variables} {name : String} {value : Json}
    (hbindings : ∀ entry ∈ bindings.entries, Writable entry.1)
    (hset : bindings.set name value = .ok next) : ∀ entry ∈ next.entries, Writable entry.1 := by
  by_cases hwritable : Writable name
  · rw [hwritable.set_eq] at hset
    cases hset
    intro entry hentry
    rcases Json.mem_insertMember hentry with rfl | hold
    · exact hwritable
    · exact hbindings entry hold
  · obtain ⟨error, hrefused⟩ := exists_set_error hwritable bindings value
    rw [hrefused] at hset
    exact nomatch hset

theorem writable_initial : ∀ entry ∈ initial.entries, Writable entry.1 := by
  intro entry hentry
  rcases List.mem_pair.mp hentry with rfl | rfl
  all_goals exact writable_of_not_reserved (by decide) (by decide)

end Variables

open Variables (Writable)

theorem ExecutionState.Changes.writable {property : Json → Prop} {state next : ExecutionState}
    (hchanges : Changes property state next)
    (hstate : ∀ entry ∈ state.bindings.entries, Writable entry.1) :
    ∀ entry ∈ next.bindings.entries, Writable entry.1 := by
  induction hchanges with
  | refl => exact hstate
  | tail hbefore hchange ih =>
      cases hchange with
      | talk => exact ih
      | assign hvalue hset => exact Variables.writable_of_set ih hset
      | choose => exact ih

theorem Statement.perform_writable (settings : Settings) (statement : Statement)
    {state : ExecutionState} (world : World)
    (hstate : ∀ entry ∈ state.bindings.entries, Writable entry.1) :
    ∀ entry ∈ (statement.perform settings state world).2.1.bindings.entries,
      Writable entry.1 := by
  by_cases hwritten : statement.kind = .toolCall ∨ statement.kind = .toolResult
  · rcases perform_written Json.inherited_true settings hwritten state world with
      hsame | ⟨call, -, hcall⟩ | ⟨result, hresult⟩
    · rw [hsame]
      exact hstate
    · rw [hcall]
      exact hstate
    · rw [hresult]
      exact hstate
  · rw [not_or] at hwritten
    exact (perform_changes Json.inherited_true settings hwritten.1 hwritten.2 state
      fun _ _ => trivial).writable hstate

namespace Engine

variable {intake : Intake} {engine : Engine}

theorem Reachable.writable (hengine : Reachable intake engine) :
    ∀ entry ∈ engine.state.bindings.entries, Writable entry.1 := by
  refine (state_induction
    (motive := fun state => ∀ entry ∈ state.bindings.entries, Writable entry.1)
    ?_ ?_ ?_ ?_ ?_ ?_ hengine).1
  · intro sessionId statements hstatements
    exact Variables.writable_initial
  · intro state filename hstate
    exact hstate
  · intro state name value bindings hstate hvalue hset
    exact Variables.writable_of_set hstate hset
  · intro settings state statement world hstate hstatement hworld
    exact statement.perform_writable settings world hstate
  · intro state hstate hip
    exact hstate
  · intro state statements hstate hstatements
    exact hstate

/-- No reachable engine holds a variable without a name or with one in the namespace of the engine.
And whatever else its variables hold, in every text a span that names something in the namespace is
replaced by the engine's own value, or is an error where there is none: with the same delimiters,
other variables may change what stands for the spans before and behind it, but not that. -/
theorem namespace_is_never_shadowed (hengine : Reachable intake engine) :
    (∀ entry ∈ engine.state.bindings.entries, Writable entry.1) ∧
    ∀ text : String,
      (∃ spans rest, Variables.Spans engine.state.bindings.opener engine.state.bindings.closer
        text.toList spans rest) ∧
      ∀ front before member back rest,
        Variables.Spans engine.state.bindings.opener engine.state.bindings.closer text.toList
          (front ++ (before, "VM." ++ member) :: back) rest →
        ∀ bindings : Variables,
          bindings.get? Variables.openerName =
            engine.state.bindings.get? Variables.openerName →
          bindings.get? Variables.closerName =
            engine.state.bindings.get? Variables.closerName →
          bindings.substitute engine.state.namespaceValues text = do
            let first ←
              Variables.fill (bindings.resolve? engine.state.namespaceValues) front before
            match Json.lookup? member engine.state.namespaceValues with
            | none => .error (.undefinedVariable ("VM." ++ member))
            | some value =>
              let last ←
                Variables.fill (bindings.resolve? engine.state.namespaceValues) back rest
              return String.ofList (first ++ (Variables.display value).toList ++ last) := by
  refine ⟨hengine.writable, fun text => ⟨?_, ?_⟩⟩
  · exact Variables.exists_spans (Variables.opener_ne_nil _) _ _
  intro front before member back rest hspans bindings hopener hcloser
  have hsame : bindings.opener = engine.state.bindings.opener ∧
      bindings.closer = engine.state.bindings.closer := by
    simp only [Variables.opener, Variables.closer, Variables.delimiter, Variables.getText?, hopener,
      hcloser, and_self]
  rw [← hsame.1, ← hsame.2] at hspans
  rw [Variables.substitute_eq_fill bindings _ hspans, Variables.fill_append,
    Variables.resolve?_namespace]
  cases Variables.fill (bindings.resolve? engine.state.namespaceValues) front before with
  | error error => rfl
  | ok first =>
      cases Json.lookup? member engine.state.namespaceValues with
      | none => rfl
      | some value =>
          cases Variables.fill (bindings.resolve? engine.state.namespaceValues) back rest <;> rfl

theorem namespace_is_never_shadowed_asking :
    (∀ entry ∈ asking.state.bindings.entries, Writable entry.1) ∧
      asking.state.substitute "at <<VM.ip>>" = .ok "at 1" ∧
      asking.state.substitute "at << VM.model >>" = .error (.undefinedVariable "VM.model") := by
  have hengine : Reachable .any asking :=
    .step .bare (.new "s" (fun _ _ => trivial) trivial) (fun _ _ => trivial)
  obtain ⟨hwritable, hspans⟩ := namespace_is_never_shadowed hengine
  have hopener : asking.state.bindings.opener = ['<', '<'] := by decide +kernel
  have hcloser : asking.state.bindings.closer = ['>', '>'] := by decide +kernel
  have hlookup : Json.lookup? "ip" asking.state.namespaceValues = some (.ofNat 1) ∧
      Json.lookup? "model" asking.state.namespaceValues = none := by decide +kernel
  have hplain : Variables.nextSpan? ['<', '<'] ['>', '>'] [] = none := by decide
  rw [hopener, hcloser] at hspans
  have hknown : Variables.Spans ['<', '<'] ['>', '>'] "at <<VM.ip>>".toList
      ([] ++ ("at ".toList, "VM." ++ "ip") :: []) [] := by
    have hspan : Variables.nextSpan? ['<', '<'] ['>', '>'] "at <<VM.ip>>".toList =
        some ("at ".toList, "VM.ip".toList, []) := by decide +kernel
    exact .span hspan (.plain hplain)
  have hunknown : Variables.Spans ['<', '<'] ['>', '>'] "at << VM.model >>".toList
      ([] ++ ("at ".toList, "VM." ++ "model") :: []) [] := by
    have hspan : Variables.nextSpan? ['<', '<'] ['>', '>'] "at << VM.model >>".toList =
        some ("at ".toList, " VM.model ".toList, []) := by decide +kernel
    exact .span hspan (.plain hplain)
  refine ⟨hwritable, ?_, ?_⟩
  · have hfilled := (hspans _).2 _ _ _ _ _ hknown asking.state.bindings rfl rfl
    rw [hlookup.1] at hfilled
    exact hfilled
  · have hfilled := (hspans _).2 _ _ _ _ _ hunknown asking.state.bindings rfl rfl
    rw [hlookup.2] at hfilled
    exact hfilled

end Engine

end PromptScript
