import PromptScript.Proofs.Decimal.Magnitude
import PromptScript.Proofs.Json.ReadBack
import PromptScript.Proofs.Json.WellFormed

/-!
# Limits of what is read

Every number that a text is read as is finite, and its arrays and objects lie within the reader's
limit of depth, also when its members have been put in order.
-/

namespace PromptScript

/-- Whether a number is whole or finite. -/
def Number.Finite : Number → Prop
  | .int _ => True
  | .float value => value.isFinite = true

namespace Json

open Magnitude

/-! ## Powers of ten -/

/-- Every power of ten that a significand is scaled by is finite, and not less than one. -/
theorem powerOfTen_normal {power : Nat} (hpower : power ≤ 308) :
    (powerOfTen power).isFinite = true ∧ Beyond 0 (powerOfTen power).toModel.unpack := by
  by_cases hsmall : power ≤ 22
  · have hall : ∀ power ≤ 22,
        (powerOfTen power).isFinite = true ∧ Beyond 0 (powerOfTen power).toModel.unpack := by
      decide +kernel
    exact hall power hsmall
  · by_cases hgreatest : power = 308
    · rw [hgreatest]
      decide +kernel
    · have hscientific : powerOfTen power = .ofModel (Float.Model.ofScientific 1 power) := by
        rw [powerOfTen, Float.ofScientific, dif_neg (by omega)]
        rfl
      have hplace : (10 ^ power).log2 < 1020 := by
        refine log2_lt_of_lt_two_pow (by decide) ?_
        calc
          10 ^ power ≤ 10 ^ 307 := Nat.pow_le_pow_right (by decide) (by omega)
          _ < 2 ^ 1020 := by decide +kernel
      obtain ⟨hmoderate, hbeyond⟩ := ofScientific_normal 1 power (by decide)
        (by omega) (by rw [Nat.one_mul]; omega)
      rw [hscientific]
      exact ⟨hmoderate.isFinite, beyond_mono hbeyond (by omega)⟩

theorem moderate_div_powerOfTen {limit : Int} {x : Float} {power : Nat} (hpower : power ≤ 308)
    (hx : Moderate limit x) (hlow : -1000 ≤ limit) (hhigh : limit ≤ 900) :
    Moderate (limit + 1) (x / powerOfTen power) :=
  hx.div (powerOfTen_normal hpower).2 (by omega) (by omega) (by omega)

/-- Each step of a division by a large power of ten moves the first digit by one at most. -/
theorem moderate_scaleDown {limit : Int} (fuel : Nat) {x : Float} {exponent : Nat}
    (hx : Moderate limit x) (hlow : -1000 ≤ limit) (hhigh : limit + fuel ≤ 900) :
    Moderate (limit + fuel) (scaleDown fuel x exponent) := by
  induction fuel generalizing limit x exponent with
  | zero => exact hx.mono (by omega)
  | succ fuel ih =>
      have hdivided : ∀ power ≤ 308, Moderate (limit + 1) (x / powerOfTen power) :=
        fun power hpower => moderate_div_powerOfTen hpower hx hlow (by omega)
      rw [scaleDown]
      split
      next hpower => exact (hdivided exponent hpower).mono (by omega)
      next =>
        split
        next => exact hx.mono (by omega)
        next =>
          have hrest := hdivided 308 (Nat.le_refl 308)
          exact (ih hrest (by omega) (by omega)).mono (by omega)

theorem isFinite_of_scaled? {significand : Nat} {exponent : Int} {x : Float}
    (hscaled : scaled? significand exponent = some x) : x.isFinite = true := by
  have hsignificand := moderate_toFloat (UInt64.ofNat significand)
  simp only [scaled?] at hscaled
  split at hscaled
  next power =>
    split at hscaled
    next hpower =>
      split at hscaled
      next => exact nomatch hscaled
      next hproduct =>
        cases hscaled
        exact isFinite_mul hsignificand.isFinite (powerOfTen_normal hpower).1 (by simpa using hproduct)
    next =>
      split at hscaled
      next =>
        cases hscaled
        exact hsignificand.isFinite
      next => exact nomatch hscaled
  next below =>
    cases hscaled
    exact (moderate_scaleDown 4 hsignificand (by decide) (by decide)).isFinite

theorem ofNumerals_finite : OfNumerals Number.Finite where
  whole positive significand hsignificand := by
    unfold wholeNumber
    split
    next => trivial
    next =>
      split
      next => trivial
      next => exact isFinite_neg (moderate_toFloat _).isFinite
  scaled positive significand exponent x hscaled := by
    have hfinite := isFinite_of_scaled? hscaled
    cases positive
    · exact isFinite_neg hfinite
    · exact hfinite
  zero positive := by
    have hzero : (0.0 : Float).isFinite = true := by decide +kernel
    cases positive
    · exact isFinite_neg hzero
    · exact hzero

theorem hereditary_nesting : Hereditary fun depth value => value.nesting ≤ depth - 1 where
  null _ := Nat.zero_le _
  bool _ _ := Nat.zero_le _
  string _ _ := Nat.zero_le _
  number _ {_ _ _ _} _ := Nat.zero_le _
  array {depth items} hdepth hitems := by
    rw [Nat.add_sub_cancel, ← Nat.sub_add_cancel hdepth, nesting_array_le_iff]
    exact hitems
  object {depth members} hdepth hmembers := by
    rw [Nat.add_sub_cancel, ← Nat.sub_add_cancel hdepth, nesting_object_le_iff]
    exact hmembers

/-! ## Parts of what is read -/

theorem exists_of_mem_mapM? {α β : Type} {read : α → Option β} {inputs : List α} {results : List β}
    (hread : inputs.mapM read = some results) {result : β} (hresult : result ∈ results) :
    ∃ input ∈ inputs, read input = some result := by
  induction inputs generalizing results with
  | nil =>
      cases hread
      exact nomatch hresult
  | cons input rest ih =>
      rw [List.mapM_cons] at hread
      obtain ⟨first, hfirst, hread⟩ := Option.bind_eq_some_iff.mp hread
      obtain ⟨later, hlater, hread⟩ := Option.bind_eq_some_iff.mp hread
      cases hread
      rcases List.mem_cons.mp hresult with rfl | hmem
      · exact ⟨input, List.mem_cons_self, hfirst⟩
      · obtain ⟨source, hsource, hfound⟩ := ih hlater hmem
        exact ⟨source, List.mem_cons_of_mem input hsource, hfound⟩

/-- What holds of a value that was read with room for so many levels. -/
structure Sound (depth : Nat) (value : Json) : Prop where
  wellFormed : value.WellFormed
  finite : value.EachNumber Number.Finite
  nesting : value.nesting ≤ depth

theorem sound_of_parse {text : String} {value : Json} (hparse : parse text = .ok value) :
    value.Sound 127 where
  wellFormed := wellFormed_of_parse hparse
  finite := ofNumerals_finite.hereditary.of_parse hparse
  nesting := hereditary_nesting.of_parse hparse

namespace Sound

variable {depth : Nat} {value part : Json} {items : List Json} {members : List (String × Json)}

theorem item (hvalue : (array items).Sound (depth + 1)) (hpart : part ∈ items) :
    part.Sound depth where
  wellFormed := inherited_wellFormed.item hvalue.wellFormed hpart
  finite := by
    cases hvalue.finite with
    | array hitems => exact hitems part hpart
  nesting := nesting_array_le_iff.mp hvalue.nesting part hpart

theorem member (hvalue : (object members).Sound (depth + 1)) {name : String}
    (hpart : (name, part) ∈ members) : part.Sound depth where
  wellFormed := inherited_wellFormed.member hvalue.wellFormed hpart
  finite := by
    cases hvalue.finite with
    | object hmembers => exact hmembers (name, part) hpart
  nesting := nesting_object_le_iff.mp hvalue.nesting (name, part) hpart

/-- The parts of a value are sound one level deeper. -/
def Parts (depth : Nat) : Json → Prop
  | .array items => ∀ part ∈ items, part.Sound depth
  | .object members => ∀ entry ∈ members, entry.2.Sound depth
  | _ => True

theorem parts (hvalue : value.Sound (depth + 1)) : Parts depth value := by
  cases value with
  | array items => exact fun part hpart => hvalue.item hpart
  | object members => exact fun entry hentry => hvalue.member hentry
  | _ => trivial

theorem field {names : List String} {found : List (Option Json)} (hvalue : Parts depth value)
    (hfound : value.fields? names = some found) (hpart : some part ∈ found) : part.Sound depth := by
  cases value with
  | array items =>
      simp only [fields?, fieldsOfItems?, Option.ite_none_right_eq_some, Option.some.injEq] at hfound
      obtain ⟨-, rfl⟩ := hfound
      obtain ⟨index, -, hitem⟩ := List.mem_map.mp hpart
      exact hvalue part (List.mem_of_getElem? hitem)
  | object members =>
      obtain ⟨name, -, hunique⟩ := exists_of_mem_mapM? hfound hpart
      simp only [uniqueMember?] at hunique
      split at hunique
      next => cases hunique
      next entry held hfilter =>
        cases hunique
        have hmem : (entry, part) ∈ members.filter fun entry => entry.1 == name :=
          hfilter ▸ List.mem_singleton_self _
        exact hvalue (entry, part) (List.mem_of_mem_filter hmem)
      next => cases hunique
  | _ => cases hfound

/-- A count that is read fits 64 bits. -/
theorem lt_of_asNat? {count : Nat} (hvalue : value.Sound depth) (hcount : value.asNat? = some count) :
    count < 0x10000000000000000 := by
  unfold asNat? at hcount
  split at hcount
  next =>
    cases hcount
    cases hvalue.wellFormed with
    | number hrange =>
        exact Int.ofNat_lt.mp (Int.lt_of_le_of_lt hrange.2 (by decide))
  next => exact nomatch hcount

/-- A cost that is read is finite, also where it is given as a whole number. -/
theorem isFinite_of_asFloat? {cost : Float} (hvalue : value.Sound depth)
    (hcost : value.asFloat? = some cost) : cost.isFinite = true := by
  unfold asFloat? at hcost
  split at hcost
  next =>
    cases hcost
    cases hvalue.wellFormed with
    | number hrange =>
        simp only [Number.InRange] at hrange
        exact isFinite_ofInt (by omega) (by omega)
  next =>
    cases hcost
    cases hvalue.finite with
    | number hfinite => exact hfinite
  next => cases hcost

end Sound

end Json

end PromptScript
