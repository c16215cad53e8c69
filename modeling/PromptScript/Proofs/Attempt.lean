import Mathlib.Data.List.Basic
import Mathlib.Data.List.Forall2

/-!
# Attempts

Computations that may fail, taken apart: what a sequence of attempts gave, which element of a list
an attempt came from, which errors an attempt cannot end with, and on which condition it succeeds.
-/

namespace PromptScript.Attempt

section Results

variable {ε α β : Type}

@[simp]
theorem bind_eq_ok_iff {attempt : Except ε α} {next : α → Except ε β} {result : β} :
    (attempt >>= next) = .ok result ↔ ∃ value, attempt = .ok value ∧ next value = .ok result := by
  cases attempt with
  | error error =>
      constructor
      · intro hbind
        exact nomatch hbind
      · rintro ⟨value, hvalue, -⟩
        exact nomatch hvalue
  | ok value =>
      constructor
      · intro hbind
        exact ⟨value, rfl, hbind⟩
      · rintro ⟨other, hother, hnext⟩
        cases hother
        exact hnext

@[simp]
theorem map_eq_ok_iff {attempt : Except ε α} {change : α → β} {result : β} :
    attempt.map change = .ok result ↔ ∃ value, attempt = .ok value ∧ change value = result := by
  cases attempt <;> simp [Except.map]

@[simp]
theorem functor_map_eq_ok_iff {attempt : Except ε α} {change : α → β} {result : β} :
    change <$> attempt = .ok result ↔ ∃ value, attempt = .ok value ∧ change value = result :=
  map_eq_ok_iff

@[simp]
theorem pure_eq_ok_iff {value result : α} :
    (pure value : Except ε α) = .ok result ↔ value = result := by
  simp [pure, Except.pure]

@[simp]
theorem throw_eq_ok_iff {error : ε} {result : α} :
    (throw error : Except ε α) = .ok result ↔ False := by
  simp [throw, throwThe, MonadExceptOf.throw]

/-- Attempts on a list succeed exactly if each of them does, and give the results in order. -/
theorem mapM_eq_ok_iff {attempt : α → Except ε β} {inputs : List α} {results : List β} :
    inputs.mapM attempt = .ok results ↔
      List.Forall₂ (fun input result => attempt input = .ok result) inputs results := by
  induction inputs generalizing results with
  | nil =>
      rw [List.mapM_nil, pure_eq_ok_iff, List.forall₂_nil_left_iff]
      exact eq_comm
  | cons input rest ih =>
      simp only [List.mapM_cons, bind_eq_ok_iff, pure_eq_ok_iff, List.forall₂_cons_left_iff, ih]
      constructor
      · rintro ⟨first, hfirst, later, hlater, rfl⟩
        exact ⟨first, later, hfirst, hlater, rfl⟩
      · rintro ⟨first, later, hfirst, hlater, rfl⟩
        exact ⟨first, hfirst, later, hlater, rfl⟩

theorem mapM_map_of_ok {γ : Type} {attempt : α → Except ε β} (change : β → γ) {inputs : List α}
    {results : List β} (hmap : inputs.mapM attempt = .ok results) :
    inputs.mapM (fun input => (attempt input).map change) = .ok (results.map change) := by
  rw [mapM_eq_ok_iff] at hmap ⊢
  rw [List.forall₂_map_right_iff]
  refine hmap.imp ?_
  intro input result hresult
  exact map_eq_ok_iff.mpr ⟨result, hresult, rfl⟩

/-- Every result of a list of attempts comes from one of them. -/
theorem exists_of_mem_mapM {attempt : α → Except ε β} {inputs : List α} {results : List β}
    (hmap : inputs.mapM attempt = .ok results) {result : β} (hresult : result ∈ results) :
    ∃ input ∈ inputs, attempt input = .ok result := by
  rw [mapM_eq_ok_iff] at hmap
  induction hmap with
  | nil => exact absurd hresult List.not_mem_nil
  | cons hfirst hrest ih =>
      rcases List.mem_cons.mp hresult with rfl | hlater
      · exact ⟨_, List.mem_cons_self, hfirst⟩
      · obtain ⟨source, hsource, hattempt⟩ := ih hlater
        exact ⟨source, List.mem_cons_of_mem _ hsource, hattempt⟩

/-- What is read from the results of attempts is what the inputs stand for, if that holds of
each. -/
theorem mapM_flatMap_of_ok {γ δ : Type} (parts : β → List δ) (read : δ → Option γ)
    (form : α → List γ) {attempt : α → Except ε β} {inputs : List α} {results : List β}
    (hmap : inputs.mapM attempt = .ok results)
    (hread : ∀ input result, attempt input = .ok result →
      (parts result).mapM read = some (form input)) :
    (results.flatMap parts).mapM read = some (inputs.flatMap form) := by
  rw [mapM_eq_ok_iff] at hmap
  induction hmap with
  | nil => rfl
  | cons hfirst hrest ih =>
      rw [List.flatMap_cons, List.mapM_append, hread _ _ hfirst, ih]
      rfl

theorem mapM_filterMap_of_ok {γ : Type} (read : β → Option γ) (select : α → Option γ)
    {attempt : α → Except ε β} {inputs : List α} {results : List β}
    (hmap : inputs.mapM attempt = .ok results)
    (hread : ∀ input result, attempt input = .ok result →
      ∃ value, select input = some value ∧ read result = some value) :
    results.mapM read = some (inputs.filterMap select) := by
  have hsingle := mapM_flatMap_of_ok (fun result => [result]) read
    (fun input => (select input).toList) hmap ?_
  · rwa [List.flatMap_singleton', ← List.filterMap_eq_flatMap_toList] at hsingle
  · intro input result hresult
    obtain ⟨value, hselect, hvalue⟩ := hread input result hresult
    rw [List.mapM_cons, hvalue, hselect]
    rfl

theorem mapM_of_ok {γ : Type} (read : β → Option γ) (form : α → γ) {attempt : α → Except ε β}
    {inputs : List α} {results : List β} (hmap : inputs.mapM attempt = .ok results)
    (hread : ∀ input result, attempt input = .ok result → read result = some (form input)) :
    results.mapM read = some (inputs.map form) := by
  rw [← List.filterMap_eq_map]
  exact mapM_filterMap_of_ok read (some ∘ form) hmap
    fun input result hresult => ⟨form input, rfl, hread input result hresult⟩

theorem flatMap_of_ok {γ : Type} (parts : β → List γ) (form : α → List γ)
    {attempt : α → Except ε β} {inputs : List α} {results : List β}
    (hmap : inputs.mapM attempt = .ok results)
    (hparts : ∀ input result, attempt input = .ok result → parts result = form input) :
    results.flatMap parts = inputs.flatMap form := by
  rw [mapM_eq_ok_iff] at hmap
  induction hmap with
  | nil => rfl
  | cons hfirst hrest ih => rw [List.flatMap_cons, List.flatMap_cons, hparts _ _ hfirst, ih]

end Results

/-- Whether an attempt ends with no error of a kind. -/
def Avoids {ε α : Type} (kind : ε → Prop) (attempt : Except ε α) : Prop :=
  ∀ error, attempt = .error error → ¬kind error

namespace Avoids

variable {ε α β : Type} {kind : ε → Prop}

theorem ok (value : α) : Avoids kind (.ok value : Except ε α) := by
  intro error herror
  exact nomatch herror

theorem error {error : ε} (herror : ¬kind error) : Avoids kind (.error error : Except ε α) := by
  intro other hother
  cases hother
  exact herror

theorem throw_bind {error : ε} (next : α → Except ε β) (herror : ¬kind error) :
    Avoids kind ((throw error : Except ε α) >>= next) :=
  Avoids.error herror

theorem bind {attempt : Except ε α} {next : α → Except ε β} (hattempt : Avoids kind attempt)
    (hnext : ∀ value, Avoids kind (next value)) : Avoids kind (attempt >>= next) := by
  intro error herror
  cases attempt with
  | error first =>
      cases herror
      exact hattempt error rfl
  | ok value => exact hnext value error herror

theorem map {attempt : Except ε α} (change : α → β) (hattempt : Avoids kind attempt) :
    Avoids kind (attempt.map change) := by
  intro error herror
  cases attempt with
  | error first =>
      cases herror
      exact hattempt error rfl
  | ok value => exact nomatch herror

theorem mapM {attempt : α → Except ε β} (hattempt : ∀ input, Avoids kind (attempt input))
    (inputs : List α) : Avoids kind (inputs.mapM attempt) := by
  induction inputs with
  | nil =>
      rw [List.mapM_nil]
      exact ok []
  | cons input rest ih =>
      rw [List.mapM_cons]
      apply (hattempt input).bind
      intro first
      apply ih.bind
      intro later
      exact ok (first :: later)

end Avoids

/-- Whether an attempt succeeds exactly on a condition, and otherwise ends with an error of a
kind. -/
def Admits {ε α : Type} (kind : ε → Prop) (condition : Prop) : Except ε α → Prop
  | .ok _ => condition
  | .error error => ¬condition ∧ kind error

namespace Admits

variable {ε α β : Type} {kind : ε → Prop} {condition : Prop} {attempt : Except ε α}

theorem exists_ok (hadmits : Admits kind condition attempt) (hcondition : condition) :
    ∃ value, attempt = .ok value := by
  cases attempt with
  | ok value => exact ⟨value, rfl⟩
  | error error => exact absurd hcondition hadmits.1

theorem exists_error (hadmits : Admits kind condition attempt) (hcondition : ¬condition) :
    ∃ error, attempt = .error error ∧ kind error := by
  cases attempt with
  | ok value => exact absurd hadmits hcondition
  | error error => exact ⟨error, rfl, hadmits.2⟩

theorem exists_ok_iff (hadmits : Admits kind condition attempt) :
    (∃ value, attempt = .ok value) ↔ condition := by
  refine ⟨?_, hadmits.exists_ok⟩
  rintro ⟨value, rfl⟩
  exact hadmits

theorem map (change : α → β) (hadmits : Admits kind condition attempt) :
    Admits kind condition (attempt.map change) := by
  cases attempt <;> exact hadmits

/-- What follows an attempt and always succeeds does not change when the whole succeeds. -/
theorem bind_ok {next : α → Except ε β} (hadmits : Admits kind condition attempt)
    (hnext : ∀ value, ∃ result, next value = .ok result) :
    Admits kind condition (attempt >>= next) := by
  cases attempt with
  | error error => exact hadmits
  | ok value =>
      obtain ⟨result, hresult⟩ := hnext value
      change Admits kind condition (next value)
      rw [hresult]
      exact hadmits

theorem mapM {attempt : α → Except ε β} {condition : α → Prop} {inputs : List α}
    (hadmits : ∀ input ∈ inputs, Admits kind (condition input) (attempt input)) :
    Admits kind (∀ input ∈ inputs, condition input) (inputs.mapM attempt) := by
  induction inputs with
  | nil =>
      intro input hinput
      exact absurd hinput List.not_mem_nil
  | cons input rest ih =>
      obtain ⟨hinput, hrest⟩ := List.forall_mem_cons.mp hadmits
      have hlater := ih hrest
      rw [List.mapM_cons]
      simp only [List.forall_mem_cons]
      cases hfirst : attempt input with
      | error error =>
          rw [hfirst] at hinput
          exact ⟨fun hboth => hinput.1 hboth.1, hinput.2⟩
      | ok first =>
          rw [hfirst] at hinput
          cases hothers : rest.mapM attempt with
          | error error =>
              rw [hothers] at hlater
              exact ⟨fun hboth => hlater.1 hboth.2, hlater.2⟩
          | ok later =>
              rw [hothers] at hlater
              exact ⟨hinput, hlater⟩

end Admits

end PromptScript.Attempt
