import Mathlib.Data.List.Basic
import PromptScript.Proofs.Engine.Namespace
import PromptScript.Proofs.Json.WellFormed

/-!
# The choice of a model

A payload chooses a model by an object with its name, and every member of the object becomes the
value of a variable.  The members are put in one after another in the order of their names, up to
the first whose name no variable may have.  So the choice succeeds exactly if there is none, and one
that fails there leaves behind what stood in front of it.
-/

namespace PromptScript

open Json (insertAll)
open Variables (Writable)

/-- What a payload is read as: the text of an object with the name of a model among its members. -/
theorem ModelChoice.ofPayload_eq_ok_iff {payload : String} {choice : ModelChoice} :
    ofPayload payload = .ok choice ↔
      Json.parse (jsonText (Text.dropAround payload.toList)) = .ok (.object choice.values) ∧
        Json.lookup? Variables.modelName choice.values = some (.string choice.model) := by
  have htext : ∀ {found : Option Json} {model : String},
      found.bind Json.asString? = some model ↔ found = some (.string model) := by
    intro found model
    rw [Option.bind_eq_some_iff]
    constructor
    · rintro ⟨value, rfl, hvalue⟩
      cases value with
      | string text => rw [Option.some.inj hvalue]
      | _ => exact nomatch hvalue
    · rintro rfl
      exact ⟨_, rfl, rfl⟩
  obtain ⟨model, values⟩ := choice
  unfold ofPayload
  cases hparse : Json.parse (jsonText (Text.dropAround payload.toList)) with
  | error fault => simp
  | ok value =>
      cases value with
      | object members =>
          simp only [pure_bind, Except.ok.injEq, Json.object.injEq]
          split
          next other hother =>
            rw [htext] at hother
            simp only [Attempt.pure_eq_ok_iff, ModelChoice.mk.injEq]
            constructor
            · rintro ⟨rfl, rfl⟩
              exact ⟨rfl, hother⟩
            · rintro ⟨rfl, hmodel⟩
              obtain rfl : other = model := by simpa using hother.symm.trans hmodel
              exact ⟨rfl, rfl⟩
          next hnone =>
            constructor
            · intro hthrow
              exact absurd hthrow (by simp)
            · rintro ⟨rfl, hmodel⟩
              rw [← htext] at hmodel
              exact absurd hmodel (by rw [Variables.modelName, hnone]; simp)
      | _ => simp

namespace ExecutionState

/-- Whether a payload chooses a model along with the values of variables: with its spans filled in
it is the text of an object, with or without the braces, and the model is one of the members. -/
def Chooses (state : ExecutionState) (payload model : String) (values : List (String × Json)) :
    Prop :=
  ∃ text, state.substitute payload = .ok text ∧
    Json.parse (ModelChoice.jsonText (Text.dropAround text.toList)) = .ok (.object values) ∧
    Json.lookup? Variables.modelName values = some (.string model)

variable {state : ExecutionState} {catalog : Catalog} {payload model : String}
  {values front back : List (String × Json)} {refused : String × Json}

theorem chooses_iff {choice : ModelChoice} :
    (state.substitute payload).bind ModelChoice.ofPayload = .ok choice ↔
      state.Chooses payload choice.model choice.values := by
  simp only [Chooses, ← ModelChoice.ofPayload_eq_ok_iff]
  exact Attempt.bind_eq_ok_iff

/-- No name stands twice among the members of an object that was read. -/
theorem Chooses.nodup (hchooses : state.Chooses payload model values) :
    (values.map Prod.fst).Nodup := by
  obtain ⟨text, -, hparse, -⟩ := hchooses
  cases Json.wellFormed_of_parse hparse with
  | object hordered hmembers => exact hordered.nodup

theorem Chooses.nodup_front (hchooses : state.Chooses payload model (front ++ refused :: back)) :
    (front.map Prod.fst).Nodup := by
  have hall := hchooses.nodup
  rw [List.map_append] at hall
  exact hall.of_append_left

theorem Chooses.unique {other : String} {others : List (String × Json)}
    (hchooses : state.Chooses payload model values)
    (hother : state.Chooses payload other others) : other = model ∧ others = values := by
  have hfirst : (state.substitute payload).bind ModelChoice.ofPayload = .ok ⟨model, values⟩ :=
    chooses_iff.mpr hchooses
  have hsecond : (state.substitute payload).bind ModelChoice.ofPayload = .ok ⟨other, others⟩ :=
    chooses_iff.mpr hother
  rw [hfirst, Except.ok.injEq, ModelChoice.mk.injEq] at hsecond
  exact ⟨hsecond.1.symm, hsecond.2.symm⟩

/-! ## Members -/

theorem assignAll_of_writable (state : ExecutionState)
    (hvalues : ∀ entry ∈ values, Writable entry.1) :
    state.assignAll values =
      (.ok (), { state with bindings := ⟨insertAll state.bindings.entries values⟩ }) := by
  induction values generalizing state with
  | nil => rfl
  | cons entry rest ih =>
      have hassign : state.assign entry.1 entry.2 =
          .ok { state with bindings := state.bindings.insert entry.1 entry.2 } := by
        rw [assign, (hvalues entry List.mem_cons_self).set_eq]
        rfl
      rw [assignAll, hassign]
      exact ih _ fun later hlater => hvalues later (List.mem_cons_of_mem _ hlater)

/-- The first name that is refused ends the assignments, and what stands in front of it stays. -/
theorem assignAll_of_refused (state : ExecutionState) (back : List (String × Json))
    (hfront : ∀ entry ∈ front, Writable entry.1) (hrefused : ¬Writable refused.1) :
    ∃ error, state.assignAll (front ++ refused :: back) =
      (.error error, { state with bindings := ⟨insertAll state.bindings.entries front⟩ }) := by
  induction front generalizing state with
  | nil =>
      obtain ⟨error, hset⟩ := Variables.exists_set_error hrefused state.bindings refused.2
      refine ⟨error, ?_⟩
      rw [List.nil_append, assignAll, assign, hset]
      rfl
  | cons entry rest ih =>
      have hassign : state.assign entry.1 entry.2 =
          .ok { state with bindings := state.bindings.insert entry.1 entry.2 } := by
        rw [assign, (hfront entry List.mem_cons_self).set_eq]
        rfl
      rw [List.cons_append, assignAll, hassign]
      exact ih _ fun later hlater => hfront later (List.mem_cons_of_mem _ hlater)

/-- Either all names are accepted, or there is a first one that is refused. -/
theorem exists_refused (hvalues : ¬∀ entry ∈ values, Writable entry.1) :
    ∃ front refused back, values = front ++ refused :: back ∧
      (∀ entry ∈ front, Writable entry.1) ∧ ¬Writable refused.1 := by
  induction values with
  | nil => exact absurd (List.forall_mem_nil _) hvalues
  | cons entry rest ih =>
      by_cases hentry : Writable entry.1
      · obtain ⟨front, refused, back, rfl, hfront, hrefused⟩ :=
          ih fun hrest => hvalues (List.forall_mem_cons.mpr ⟨hentry, hrest⟩)
        exact ⟨entry :: front, refused, back, rfl, List.forall_mem_cons.mpr ⟨hentry, hfront⟩,
          hrefused⟩
      · exact ⟨[], entry, rest, rfl, List.forall_mem_nil _, hentry⟩

/-! ## Choices -/

theorem chooseModel_of_writable (catalog : Catalog) (hchooses : state.Chooses payload model values)
    (hvalues : ∀ entry ∈ values, Writable entry.1) :
    state.chooseModel catalog payload = (.ok (), { state with
      bindings := ⟨insertAll state.bindings.entries values⟩
      activeModel := some model
      activeProvider := (catalog.get? model).map Model.provider }) := by
  have hchoice : (state.substitute payload).bind ModelChoice.ofPayload = .ok ⟨model, values⟩ :=
    chooses_iff.mpr hchooses
  rw [chooseModel, hchoice]
  simp only [assignAll_of_writable state hvalues]
  rfl

theorem chooseModel_of_refused (catalog : Catalog)
    (hchooses : state.Chooses payload model (front ++ refused :: back))
    (hfront : ∀ entry ∈ front, Writable entry.1) (hrefused : ¬Writable refused.1) :
    ∃ error, state.chooseModel catalog payload =
      (.error error, { state with bindings := ⟨insertAll state.bindings.entries front⟩ }) := by
  have hchoice : (state.substitute payload).bind ModelChoice.ofPayload =
      .ok ⟨model, front ++ refused :: back⟩ := chooses_iff.mpr hchooses
  obtain ⟨error, hassigned⟩ := assignAll_of_refused state back hfront hrefused
  refine ⟨error, ?_⟩
  rw [chooseModel, hchoice]
  simp only [hassigned]

theorem chooseModel_of_unread (catalog : Catalog)
    (hunread : ∀ model values, ¬state.Chooses payload model values) :
    ∃ error, state.chooseModel catalog payload = (.error error, state) := by
  rw [chooseModel]
  split
  next error herror => exact ⟨error, rfl⟩
  next choice hchoice => exact absurd (chooses_iff.mp hchoice) (hunread _ _)

/-- Members of an object that was read change a variable exactly if one of them has another value
than the variable of its name. -/
theorem exists_changed_iff (hnodup : (values.map Prod.fst).Nodup) (bindings : Variables) :
    (∃ name, (⟨insertAll bindings.entries values⟩ : Variables).get? name ≠ bindings.get? name) ↔
      ∃ entry ∈ values, bindings.get? entry.1 ≠ some entry.2 := by
  simp only [Variables.get?, Json.lookup?_insertAll _ hnodup]
  constructor
  · rintro ⟨name, hchanged⟩
    cases hfound : Json.lookup? name values with
    | none =>
        rw [hfound] at hchanged
        exact absurd rfl hchanged
    | some value =>
        refine ⟨(name, value), Json.lookup?_mem hfound, ?_⟩
        rw [hfound] at hchanged
        exact hchanged.symm
  · rintro ⟨entry, hentry, hother⟩
    refine ⟨entry.1, ?_⟩
    rw [Json.lookup?_of_mem hnodup hentry]
    exact hother.symm

end ExecutionState

namespace Statement

/-- The choice of a model succeeds exactly if its payload is an object with the name of a model and
without a name that no variable may have.  Then every member is the value of its variable, other
variables keep theirs, and the model is active with the provider that the catalog has for it.  A
choice that fails never touches the active model, and it leaves a variable changed exactly if a
member with another value than the variable of its name stands in front of the first name that is
refused. -/
theorem model_choice_is_whole_iff (settings : Settings) {statement : Statement}
    (hkind : statement.kind = .setModel) (state : ExecutionState) (world : World) :
    ((statement.perform settings state world).1 = .ok () ↔
      ∃ model values, state.Chooses statement.payload model values ∧
        ∀ entry ∈ values, Writable entry.1) ∧
    (∀ next later, statement.perform settings state world = (.ok (), next, later) →
      later = world ∧
      ∃ model values, state.Chooses statement.payload model values ∧
        next = { state with
          bindings := next.bindings
          activeModel := some model
          activeProvider := (settings.catalog.get? model).map Model.provider } ∧
        ∀ name, next.bindings.get? name =
          (Json.lookup? name values).or (state.bindings.get? name)) ∧
    ∀ error next later, statement.perform settings state world = (.error error, next, later) →
      later = world ∧
      next = { state with bindings := next.bindings } ∧
      ((∃ name, next.bindings.get? name ≠ state.bindings.get? name) ↔
        ∃ model front refused back,
          state.Chooses statement.payload model (front ++ refused :: back) ∧
          (∀ entry ∈ front, Writable entry.1) ∧ ¬Writable refused.1 ∧
          ∃ entry ∈ front, state.bindings.get? entry.1 ≠ some entry.2) := by
  have hperform : statement.perform settings state world =
      ((state.chooseModel settings.catalog statement.payload).1,
        (state.chooseModel settings.catalog statement.payload).2, world) := by
    simp only [perform, hkind]
  rw [hperform]
  by_cases hread : ∃ model values, state.Chooses statement.payload model values
  · obtain ⟨model, values, hchooses⟩ := hread
    by_cases hvalues : ∀ entry ∈ values, Writable entry.1
    · rw [ExecutionState.chooseModel_of_writable settings.catalog hchooses hvalues]
      refine ⟨iff_of_true rfl ⟨model, values, hchooses, hvalues⟩, ?_, ?_⟩
      · intro next later houtcome
        cases houtcome
        exact ⟨rfl, model, values, hchooses, rfl,
          fun name => Json.lookup?_insertAll name hchooses.nodup _⟩
      · intro error next later houtcome
        cases houtcome
    · obtain ⟨front, refused, back, rfl, hfront, hrefused⟩ :=
        ExecutionState.exists_refused hvalues
      obtain ⟨error, hchoice⟩ :=
        ExecutionState.chooseModel_of_refused settings.catalog hchooses hfront hrefused
      rw [hchoice]
      refine ⟨?_, ?_, ?_⟩
      · refine iff_of_false (by simp) ?_
        rintro ⟨other, others, hother, hall⟩
        obtain ⟨-, rfl⟩ := hchooses.unique hother
        exact hvalues hall
      · intro next later houtcome
        cases houtcome
      · intro reason next later houtcome
        cases houtcome
        refine ⟨rfl, rfl, ?_⟩
        constructor
        · intro hchanged
          obtain ⟨entry, hentry, hother⟩ :=
            (ExecutionState.exists_changed_iff hchooses.nodup_front _).mp hchanged
          exact ⟨model, front, refused, back, hchooses, hfront, hrefused, entry, hentry, hother⟩
        · rintro ⟨other, first, stopped, rest, hother, hfirst, hstopped, hdiffers⟩
          -- However its members are split, the choice ends in the same state.
          obtain ⟨reason, hagain⟩ :=
            ExecutionState.chooseModel_of_refused settings.catalog hother hfirst hstopped
          have hsame := congrArg (fun outcome => outcome.2.bindings) (hchoice.symm.trans hagain)
          rw [hsame]
          exact (ExecutionState.exists_changed_iff hother.nodup_front _).mpr hdiffers
  · push Not at hread
    obtain ⟨error, hchoice⟩ := ExecutionState.chooseModel_of_unread settings.catalog hread
    rw [hchoice]
    refine ⟨?_, ?_, ?_⟩
    · refine iff_of_false (by simp) ?_
      rintro ⟨model, values, hchooses, -⟩
      exact hread model values hchooses
    · intro next later houtcome
      cases houtcome
    · intro reason next later houtcome
      cases houtcome
      refine ⟨rfl, rfl, iff_of_false ?_ ?_⟩
      · rintro ⟨name, hchanged⟩
        exact hchanged rfl
      · rintro ⟨model, front, refused, back, hchooses, -⟩
        exact hread _ _ hchooses

/-- A choice with a name of the engine's namespace behind another one. -/
def overreaching : Statement :=
  .synthesized .setModel "\"A\": true, \"VM\": true, \"model\": \"gpt-4o\""

theorem model_choice_is_whole_iff_overreaching :
    (overreaching.perform .bare (.initial "s" []) .bare).1 = .error (.readOnlyVariable "VM") ∧
      ∃ name, (overreaching.perform .bare (.initial "s" []) .bare).2.1.bindings.get? name ≠
        Variables.initial.get? name := by
  have hresult : (overreaching.perform .bare (.initial "s" []) .bare).1 =
      .error (.readOnlyVariable "VM") := by decide +kernel
  have hchooses : (ExecutionState.initial "s" []).Chooses overreaching.payload "gpt-4o"
      ([("A", .bool true)] ++ ("VM", .bool true) :: [("model", .string "gpt-4o")]) :=
    ⟨overreaching.payload, by decide +kernel, by decide +kernel, by decide⟩
  have hfront : ∀ entry ∈ [("A", Json.bool true)], Writable entry.1 := by
    intro entry hentry
    rw [List.mem_singleton.mp hentry]
    exact Variables.writable_of_not_reserved (by decide) (by decide)
  have hrefused : ¬Writable "VM" := fun hwritable => hwritable.other rfl
  rcases hperform : overreaching.perform .bare (.initial "s" []) .bare with ⟨result, next, later⟩
  rw [hperform] at hresult
  obtain rfl : result = _ := hresult
  obtain ⟨-, -, hchanged⟩ :=
    (model_choice_is_whole_iff .bare rfl (.initial "s" []) .bare).2.2 _ next later hperform
  exact ⟨rfl, hchanged.mpr ⟨"gpt-4o", _, _, _, hchooses, hfront, hrefused, _, List.mem_cons_self,
    by decide⟩⟩

end Statement

end PromptScript
