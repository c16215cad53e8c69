import PromptScript.Proofs.Text.Trim
import PromptScript.Proofs.Timestamp.Calendar

/-!
# Reading written instants

Every instant that can be written is read back from its written form.
-/

namespace PromptScript.Timestamp

/-! ## Numbers with zeros in front -/

theorem digitsValue_eq (digits : List Char) : digitsValue digits = Nat.ofDigitChars 10 digits 0 := by
  rw [digitsValue, Nat.ofDigitChars_eq_foldl]
  simp only [Nat.mul_comm 10]

section Padded

variable {width value : Nat}

theorem isDigit_of_mem_padded {c : Char} (hc : c ∈ padded width value) : c.isDigit = true := by
  rcases List.mem_append.mp hc with hzero | hdigit
  · rw [(List.mem_replicate.mp hzero).2]
    rfl
  · exact Nat.isDigit_of_mem_toDigits (by decide) (by decide) hdigit

theorem padded_ne_nil (width value : Nat) : padded width value ≠ [] :=
  List.append_ne_nil_of_right_ne_nil _ Nat.toDigits_ne_nil

theorem length_padded (hwidth : 0 < width) (hvalue : value < 10 ^ width) :
    (padded width value).length = width := by
  have hdigits : (Nat.toDigits 10 value).length ≤ width :=
    (Nat.length_toDigits_le_iff (by decide) hwidth).mpr hvalue
  simp only [padded, List.length_append, List.length_replicate]
  omega

theorem digitsValue_padded (width value : Nat) : digitsValue (padded width value) = value := by
  rw [digitsValue_eq, padded, Nat.ofDigitChars_append, Nat.ofDigitChars_replicate_zero, Nat.mul_zero,
    Nat.ofDigitChars_ten_toDigits]

theorem takeWhile_isDigit_padded (width value : Nat) {rest : List Char}
    (hrest : ∀ c ∈ rest.head?, c.isDigit = false) :
    (padded width value ++ rest).takeWhile Char.isDigit = padded width value := by
  rw [List.takeWhile_append_of_pos fun c hc => isDigit_of_mem_padded hc]
  cases rest with
  | nil => simp
  | cons c more => simp [hrest c rfl]

theorem readDigits?_padded (hwidth : 0 < width) (hvalue : value < 10 ^ width) (rest : List Char) :
    readDigits? width (padded width value ++ rest) = some (value, rest) := by
  have hlength := length_padded hwidth hvalue
  have htaken : ((padded width value ++ rest).take width).takeWhile Char.isDigit =
      padded width value := by
    rw [List.take_left' hlength]
    have hall : ∀ c ∈ ([] : List Char).head?, c.isDigit = false := fun c hc => nomatch hc
    rw [← List.append_nil (padded width value)]
    exact (takeWhile_isDigit_padded width value hall).trans (List.append_nil _).symm
  simp only [readDigits?, htaken, List.isEmpty_iff, padded_ne_nil, if_false, digitsValue_padded,
    List.drop_left]

/-- All digits are read where the number of characters is no limit. -/
theorem readDigits?_of_wide (width value : Nat) {rest : List Char}
    (hrest : ∀ c ∈ rest.head?, c.isDigit = false) :
    readDigits? (padded width value ++ rest).length (padded width value ++ rest) =
      some (value, rest) := by
  simp only [readDigits?, List.take_length, takeWhile_isDigit_padded width value hrest,
    List.isEmpty_iff, padded_ne_nil, if_false, digitsValue_padded, List.drop_left]

end Padded

/-! ## Parts of an instant -/

section Parts

variable {rest : List Char}

theorem dropLeading_padded (width value : Nat) (rest : List Char) :
    Text.dropLeading (padded width value ++ rest) = padded width value ++ rest := by
  obtain ⟨c, more, hpadded⟩ := List.exists_cons_of_ne_nil (padded_ne_nil width value)
  have hdigit : c.isDigit = true :=
    isDigit_of_mem_padded (by rw [hpadded]; exact List.mem_cons_self)
  rw [hpadded, List.cons_append]
  exact Text.dropLeading_of_head (Text.isBlank_of_isDigit hdigit)

theorem readPart?_padded {low high value : Nat} (hlow : low ≤ value) (hhigh : value ≤ high)
    (hvalue : value < 100) (rest : List Char) :
    readPart? low high (padded 2 value ++ rest) = some (value, rest) := by
  have hread : readDigits? 2 (padded 2 value ++ rest) = some (value, rest) :=
    readDigits?_padded (by decide) hvalue rest
  simp only [readPart?, dropLeading_padded, hread, Option.bind_eq_bind, Option.bind_some,
    if_pos (And.intro hlow hhigh)]

theorem readMark?_cons {mark : Char} (hblank : Text.isBlank mark = false) (rest : List Char) :
    readMark? mark (mark :: rest) = some rest := by
  simp only [readMark?, Text.dropLeading_of_head hblank, if_true]

theorem readYear?_yearChars (year : Int) (rest : List Char) :
    readYear? (yearChars year ++ '-' :: rest) = some (year, '-' :: rest) := by
  have hmark : ∀ c ∈ ('-' :: rest).head?, c.isDigit = false := by
    rintro c ⟨⟩
    rfl
  unfold yearChars
  split
  next hshort =>
    have hdrop := dropLeading_padded 4 year.toNat ('-' :: rest)
    obtain ⟨c, more, hpadded⟩ := List.exists_cons_of_ne_nil (padded_ne_nil 4 year.toNat)
    have hdigit : c.isDigit = true :=
      isDigit_of_mem_padded (by rw [hpadded]; exact List.mem_cons_self)
    have hread : readDigits? 4 (padded 4 year.toNat ++ '-' :: rest) =
        some (year.toNat, '-' :: rest) := readDigits?_padded (by decide) (by omega) _
    rw [hpadded, List.cons_append] at hdrop hread ⊢
    simp only [readYear?, hdrop]
    split
    next hminus =>
      cases hminus
      exact absurd hdigit (by decide)
    next hplus =>
      cases hplus
      exact absurd hdigit (by decide)
    next =>
      rw [hread, Option.map_some, Int.toNat_of_nonneg hshort.1]
  next hlong =>
    have hread := readDigits?_of_wide 4 year.natAbs hmark
    by_cases hnegative : year < 0
    · have hvalue : -(year.natAbs : Int) = year := by omega
      have hdrop : Text.dropLeading ('-' :: (padded 4 year.natAbs ++ '-' :: rest)) =
          '-' :: (padded 4 year.natAbs ++ '-' :: rest) := Text.dropLeading_of_head (by decide)
      rw [if_pos hnegative, List.cons_append]
      simp only [readYear?, hdrop, hread, Option.map_some, hvalue]
    · have hvalue : (year.natAbs : Int) = year := by omega
      have hdrop : Text.dropLeading ('+' :: (padded 4 year.natAbs ++ '-' :: rest)) =
          '+' :: (padded 4 year.natAbs ++ '-' :: rest) := Text.dropLeading_of_head (by decide)
      rw [if_neg hnegative, List.cons_append]
      simp only [readYear?, hdrop, hread, Option.map_some, hvalue]

theorem readFraction?_padded (width value : Nat) (hwidth : 0 < width) (hnine : width ≤ 9)
    (hvalue : value < 10 ^ width) :
    readFraction? ('.' :: (padded width value ++ ['Z'])) =
      some (value * 10 ^ (9 - width), ['Z']) := by
  have hmark : ∀ c ∈ ['Z'].head?, c.isDigit = false := by
    rintro c ⟨⟩
    rfl
  have hlength := length_padded hwidth hvalue
  have hkept : (padded width value).take 9 = padded width value :=
    List.take_of_length_le (by omega)
  simp only [readFraction?, takeWhile_isDigit_padded width value hmark, List.isEmpty_iff,
    padded_ne_nil, if_false, hkept, digitsValue_padded, hlength, List.drop_left' hlength]
  rfl

theorem readFraction?_fractionChars {nanoseconds : Nat} (hnanoseconds : nanoseconds < 1000000000) :
    readFraction? (fractionChars nanoseconds ++ ['Z']) = some (nanoseconds, ['Z']) := by
  by_cases hnone : nanoseconds = 0
  · rw [hnone]
    rfl
  by_cases hthree : nanoseconds % 1000000 = 0
  · have hvalue : nanoseconds / 1000000 * 10 ^ (9 - 3) = nanoseconds :=
      Nat.div_mul_cancel (Nat.dvd_of_mod_eq_zero hthree)
    rw [fractionChars, if_neg hnone, if_pos hthree, List.cons_append,
      readFraction?_padded 3 _ (by decide) (by decide) (by omega), hvalue]
  by_cases hsix : nanoseconds % 1000 = 0
  · have hvalue : nanoseconds / 1000 * 10 ^ (9 - 6) = nanoseconds :=
      Nat.div_mul_cancel (Nat.dvd_of_mod_eq_zero hsix)
    rw [fractionChars, if_neg hnone, if_neg hthree, if_pos hsix, List.cons_append,
      readFraction?_padded 6 _ (by decide) (by decide) (by omega), hvalue]
  · rw [fractionChars, if_neg hnone, if_neg hthree, if_neg hsix, List.cons_append,
      readFraction?_padded 9 _ (by decide) (by decide) hnanoseconds, Nat.sub_self, Nat.pow_zero,
      Nat.mul_one]

end Parts

/-! ## Instants -/

/-- An instant that can be written: its year lies within the limits, and only the last second of a
minute is followed by a leap second. -/
structure Writable (instant : Timestamp) : Prop where
  year : minYear ≤ (dateOfDays (instant.seconds / 86400)).1 ∧
    (dateOfDays (instant.seconds / 86400)).1 ≤ maxYear
  fraction : instant.nanoseconds < 1000000000 ∨
    instant.seconds % 60 = 59 ∧ instant.nanoseconds < 2000000000

theorem daysInMonth_le (year : Int) (month : Nat) : daysInMonth year month ≤ 31 := by
  unfold daysInMonth
  split
  · split <;> decide
  · split <;> decide

section Clock

variable {instant : Timestamp} {inDay leap : Nat}

/-- The clock of an instant, with a leap second written as the sixtieth second, gives back its
second of the day. -/
theorem clock_seconds (hwritable : instant.Writable)
    (hinDay : (instant.seconds % 86400).toNat = inDay)
    (hleap : instant.nanoseconds / 1000000000 = leap) :
    ((inDay / 3600 : Nat) : Int) * 3600 + ((inDay / 60 % 60 : Nat) : Int) * 60 +
        ((if inDay % 60 + leap = 60 then 59 else inDay % 60 + leap : Nat) : Int) =
      instant.seconds % 86400 := by
  have hfraction := hwritable.fraction
  split <;> omega

/-- The sixtieth second gives back the nanoseconds of a leap second. -/
theorem clock_nanoseconds (hwritable : instant.Writable)
    (hinDay : (instant.seconds % 86400).toNat = inDay)
    (hleap : instant.nanoseconds / 1000000000 = leap) :
    instant.nanoseconds % 1000000000 + (if inDay % 60 + leap = 60 then 1000000000 else 0) =
      instant.nanoseconds := by
  have hfraction := hwritable.fraction
  split <;> omega

theorem toList_render {year : Int} {month day : Nat}
    (hparts : dateOfDays (instant.seconds / 86400) = (year, month, day))
    (hinDay : (instant.seconds % 86400).toNat = inDay)
    (hleap : instant.nanoseconds / 1000000000 = leap) :
    instant.render.toList = yearChars year ++ '-' :: (padded 2 month ++ '-' ::
      (padded 2 day ++ 'T' :: (padded 2 (inDay / 3600) ++ ':' :: (padded 2 (inDay / 60 % 60) ++ ':' ::
        (padded 2 (inDay % 60 + leap) ++
          (fractionChars (instant.nanoseconds % 1000000000) ++ ['Z'])))))) := by
  simp only [render, hparts, hinDay, hleap, String.toList_ofList, List.append_assoc,
    List.cons_append]

end Clock

/-- The text of an instant is read back as the instant. -/
theorem parse?_render {instant : Timestamp} (hwritable : instant.Writable) :
    parse? instant.render = some instant := by
  obtain ⟨hmin, hmax⟩ := hwritable.year
  have hfraction := hwritable.fraction
  have hdate := daysOfDate_dateOfDays (instant.seconds / 86400)
  obtain ⟨hmonth, hdecember, hday, hlast⟩ := dateOfDays_mem (instant.seconds / 86400)
  rcases hparts : dateOfDays (instant.seconds / 86400) with ⟨year, month, day⟩
  rw [hparts] at hmin hmax hdate hmonth hdecember hday hlast
  simp only at hmin hmax hdate hmonth hdecember hday hlast
  have hlength := daysInMonth_le year month
  generalize hinDay : (instant.seconds % 86400).toNat = inDay
  generalize hleap : instant.nanoseconds / 1000000000 = leap
  have hsecond := clock_seconds hwritable hinDay hleap
  have hwhole : daysOfDate year month day * 86400 + instant.seconds % 86400 - 0 =
      instant.seconds := by omega
  have hleapSecond := clock_nanoseconds hwritable hinDay hleap
  have hmonths := readPart?_padded hmonth hdecember (by omega)
  have hdays := readPart?_padded hday (hlast.trans hlength) (by omega)
  have hhours : ∀ rest, readPart? 0 23 (padded 2 (inDay / 3600) ++ rest) =
      some (inDay / 3600, rest) := readPart?_padded (Nat.zero_le _) (by omega) (by omega)
  have hminutes : ∀ rest, readPart? 0 59 (padded 2 (inDay / 60 % 60) ++ rest) =
      some (inDay / 60 % 60, rest) := readPart?_padded (Nat.zero_le _) (by omega) (by omega)
  have hseconds : ∀ rest, readPart? 0 60 (padded 2 (inDay % 60 + leap) ++ rest) =
      some (inDay % 60 + leap, rest) := readPart?_padded (Nat.zero_le _) (by omega) (by omega)
  have hdash : ∀ rest, readMark? '-' ('-' :: rest) = some rest := readMark?_cons (by decide)
  have hcolon : ∀ rest, readMark? ':' (':' :: rest) = some rest := readMark?_cons (by decide)
  have hnanoseconds := readFraction?_fractionChars (Nat.mod_lt instant.nanoseconds (by decide))
  rw [parse?, toList_render hparts hinDay hleap]
  refine Option.bind_eq_some_iff.mpr ⟨_, readYear?_yearChars year _, ?_⟩
  refine Option.bind_eq_some_iff.mpr ⟨_, hdash _, ?_⟩
  refine Option.bind_eq_some_iff.mpr ⟨_, hmonths _, ?_⟩
  refine Option.bind_eq_some_iff.mpr ⟨_, hdash _, ?_⟩
  refine Option.bind_eq_some_iff.mpr ⟨_, hdays _, ?_⟩
  refine Option.bind_eq_some_iff.mpr ⟨_, rfl, ?_⟩
  refine Option.bind_eq_some_iff.mpr ⟨_, hhours _, ?_⟩
  refine Option.bind_eq_some_iff.mpr ⟨_, hcolon _, ?_⟩
  refine Option.bind_eq_some_iff.mpr ⟨_, hminutes _, ?_⟩
  refine Option.bind_eq_some_iff.mpr ⟨_, hcolon _, ?_⟩
  refine Option.bind_eq_some_iff.mpr ⟨_, hseconds _, ?_⟩
  refine Option.bind_eq_some_iff.mpr ⟨_, hnanoseconds, ?_⟩
  refine Option.bind_eq_some_iff.mpr ⟨(0, []), rfl, ?_⟩
  have hblank : ¬(!Text.isBlankText []) = true := by decide
  have hcalendar : ¬(daysInMonth year month < day ∨ year < minYear ∨ maxYear < year) := by omega
  have hoffset : ¬((0 : Int) ≤ -86400 ∨ 86400 ≤ (0 : Int)) := by decide
  have hutc : ¬(year < minYear ∨ maxYear < year) := by omega
  simp only [hsecond, hwhole, hparts, hleapSecond, if_neg hblank, if_neg hcalendar, if_neg hoffset,
    if_neg hutc]

/-! ## Instants that are read -/

section Reading

variable {text rest : List Char}

theorem digitsValue_lt {digits : List Char} (hdigits : ∀ d ∈ digits, d.isDigit = true) :
    digitsValue digits < 10 ^ digits.length := by
  have hread : ∀ (digits : List Char) (value : Nat), (∀ d ∈ digits, d.isDigit = true) →
      digits.foldl (fun value d => value * 10 + (d.toNat - '0'.toNat)) value <
        (value + 1) * 10 ^ digits.length := by
    intro digits
    induction digits with
    | nil =>
        intro value _
        simp
    | cons d rest ih =>
        intro value hdigits
        obtain ⟨hfirst, hrest⟩ := List.forall_mem_cons.mp hdigits
        simp only [Char.isDigit, Bool.and_eq_true, decide_eq_true_eq] at hfirst
        have hhigh : d.toNat ≤ 57 := hfirst.2
        have hzero : '0'.toNat = 48 := rfl
        have hnext : value * 10 + (d.toNat - '0'.toNat) + 1 ≤ (value + 1) * 10 := by omega
        rw [List.foldl_cons, List.length_cons, Nat.pow_succ']
        calc
          _ < (value * 10 + (d.toNat - '0'.toNat) + 1) * 10 ^ rest.length := ih _ hrest
          _ ≤ (value + 1) * 10 * 10 ^ rest.length := Nat.mul_le_mul_right _ hnext
          _ = (value + 1) * (10 * 10 ^ rest.length) := Nat.mul_assoc _ _ _
  have hall := hread digits 0 hdigits
  rwa [Nat.zero_add, Nat.one_mul] at hall

/-- A fraction is read to the nanosecond and lies below one second. -/
theorem readFraction?_lt {fraction : Nat} (hread : readFraction? text = some (fraction, rest)) :
    fraction < 1000000000 := by
  unfold readFraction? at hread
  split at hread
  next digits =>
    simp only at hread
    split at hread
    next => exact nomatch hread
    next =>
      cases hread
      generalize hkept : (digits.takeWhile Char.isDigit).take 9 = kept
      have hlength : kept.length ≤ 9 := by
        rw [← hkept]
        exact List.length_take_le 9 _
      have hdigits : ∀ d ∈ kept, d.isDigit = true := by
        rw [← hkept]
        intro d hd
        have hmem := List.mem_of_mem_take hd
        exact List.all_eq_true.mp List.all_takeWhile d hmem
      calc
        digitsValue kept * Nat.pow 10 (9 - kept.length) <
            10 ^ kept.length * 10 ^ (9 - kept.length) :=
          Nat.mul_lt_mul_of_pos_right (digitsValue_lt hdigits) (Nat.pow_pos (by decide))
        _ = 10 ^ 9 := by rw [← Nat.pow_add, Nat.add_sub_cancel' hlength]
  next =>
    cases hread
    decide

/-- An offset is a whole number of minutes. -/
theorem readOffset?_mod {offset : Int} (hread : readOffset? text = some (offset, rest)) :
    offset % 60 = 0 := by
  have hsigned : ∀ {sign : Char} {text : List Char},
      readOffset?.signed sign text = some (offset, rest) → offset % 60 = 0 := by
    intro sign text hsigned
    have hbody : ∀ negative : Bool, ((readTwo? text).bind fun first =>
        (readTwo? (first.2.dropWhile fun c => c == ':' || Text.isBlank c)).bind fun second =>
          if second.1 < 60 then
            some (if negative then -((first.1 : Int) * 3600 + second.1 * 60)
              else (first.1 : Int) * 3600 + second.1 * 60, second.2)
          else none) = some (offset, rest) → offset % 60 = 0 := by
      intro negative hbody
      obtain ⟨first, -, hbody⟩ := Option.bind_eq_some_iff.mp hbody
      obtain ⟨second, -, hbody⟩ := Option.bind_eq_some_iff.mp hbody
      simp only [Option.ite_none_right_eq_some, Option.some.injEq, Prod.mk.injEq] at hbody
      obtain ⟨-, rfl, -⟩ := hbody
      split <;> omega
    unfold readOffset?.signed at hsigned
    simp only [Option.bind_eq_bind] at hsigned
    split at hsigned
    next => exact hbody false hsigned
    next =>
      split at hsigned
      next => exact hbody true hsigned
      next => cases hsigned
  unfold readOffset? at hread
  split at hread
  next => cases hread; rfl
  next => cases hread; rfl
  next =>
    split at hread
    next => cases hread; rfl
    next => exact hsigned hread
  next => cases hread

/-- What is read behind a date is read behind a mark that may stand there. -/
theorem exists_time_of_eq_some {α : Type} {readClock : List Char → Option α} {result : α}
    (hread : (match text with
      | 'T' :: time => (some time).bind readClock
      | 't' :: time => (some time).bind readClock
      | ' ' :: time => (some time).bind readClock
      | _ => none.bind readClock) = some result) : ∃ time, readClock time = some result := by
  split at hread
  · exact ⟨_, hread⟩
  · exact ⟨_, hread⟩
  · exact ⟨_, hread⟩
  · exact nomatch hread

/-- Every instant that is read can be written. -/
theorem writable_of_parse? {text : String} {instant : Timestamp} (hparse : parse? text = some instant) :
    instant.Writable := by
  rw [parse?] at hparse
  obtain ⟨⟨year, afterYear⟩, -, hparse⟩ := Option.bind_eq_some_iff.mp hparse
  obtain ⟨monthText, -, hparse⟩ := Option.bind_eq_some_iff.mp hparse
  obtain ⟨⟨month, afterMonth⟩, -, hparse⟩ := Option.bind_eq_some_iff.mp hparse
  obtain ⟨dayText, -, hparse⟩ := Option.bind_eq_some_iff.mp hparse
  obtain ⟨⟨day, afterDay⟩, -, hparse⟩ := Option.bind_eq_some_iff.mp hparse
  obtain ⟨time, hparse⟩ := exists_time_of_eq_some hparse
  obtain ⟨⟨hour, afterHour⟩, -, hparse⟩ := Option.bind_eq_some_iff.mp hparse
  obtain ⟨minuteText, -, hparse⟩ := Option.bind_eq_some_iff.mp hparse
  obtain ⟨⟨minute, afterMinute⟩, -, hparse⟩ := Option.bind_eq_some_iff.mp hparse
  obtain ⟨secondText, -, hparse⟩ := Option.bind_eq_some_iff.mp hparse
  obtain ⟨⟨second, afterSecond⟩, -, hparse⟩ := Option.bind_eq_some_iff.mp hparse
  obtain ⟨⟨fraction, afterFraction⟩, hfraction, hparse⟩ := Option.bind_eq_some_iff.mp hparse
  obtain ⟨⟨offset, last⟩, hoffset, hparse⟩ := Option.bind_eq_some_iff.mp hparse
  have hless := readFraction?_lt hfraction
  have hminutes := readOffset?_mod hoffset
  simp only [Option.ite_none_left_eq_some, Option.some.injEq] at hparse
  obtain ⟨-, -, -, hyear, rfl⟩ := hparse
  obtain ⟨hmin, hmax⟩ := not_or.mp hyear
  refine ⟨⟨Int.not_lt.mp hmin, Int.not_lt.mp hmax⟩, ?_⟩
  by_cases hleap : second = 60
  · refine .inr ⟨?_, ?_⟩
    · simp only [hleap, if_true]
      omega
    · simp only [hleap, if_true]
      omega
  · refine .inl ?_
    simp only [hleap, if_false]
    exact hless

end Reading

end PromptScript.Timestamp
