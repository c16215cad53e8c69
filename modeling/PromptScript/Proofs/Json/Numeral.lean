import PromptScript.Json.Printer
import PromptScript.Proofs.Json.WellFormed

/-!
# Reading written numbers

A numeral is read the same way wherever it stands, as long as what follows cannot belong to it.  A
whole number of 64 bits is read as itself; for a binary64 number this is a property of the number,
because the reader computes it with one rounding more than the shortest decimal allows for.
-/

namespace PromptScript.Json

open Cursor (isSpace)

/-! ## Cursors -/

namespace Cursor

@[simp]
theorem rest_past (cursor : Cursor) (c : Char) (rest : List Char) :
    (cursor.past c rest).rest = rest := by
  unfold past
  split <;> rfl

@[simp]
theorem rest_advance (cursor : Cursor) : cursor.advance.rest = cursor.rest.tail := by
  unfold advance
  split
  next hrest => simp [hrest]
  next c rest hrest => simp [hrest]

@[simp]
theorem rest_advanceOver (cursor : Cursor) (read : List Char) :
    (cursor.advanceOver read).rest = cursor.rest.drop read.length := by
  induction read generalizing cursor with
  | nil => rfl
  | cons c rest ih => rw [advanceOver, ih, rest_advance, List.drop_tail, List.length_cons]

@[simp]
theorem rest_skipSpace (cursor : Cursor) :
    cursor.skipSpace.rest = cursor.rest.dropWhile isSpace := by
  have hfrom : ∀ (text : List Char) (cursor : Cursor), cursor.rest = text →
      (cursor.skipSpaceFrom text).rest = text.dropWhile isSpace := by
    intro text
    induction text with
    | nil =>
        intro cursor hrest
        exact hrest
    | cons c rest ih =>
        intro cursor hrest
        by_cases hspace : isSpace c
        · rw [skipSpaceFrom, if_pos hspace, ih _ (rest_past cursor c rest),
            List.dropWhile_cons_of_pos hspace]
        · rw [skipSpaceFrom, if_neg hspace, List.dropWhile_cons_of_neg hspace, hrest]
  exact hfrom cursor.rest cursor rfl

end Cursor

/-! ## Numerals in front of other texts -/

/-- Whether a text consists of blanks. -/
def Blanks (text : List Char) : Prop :=
  ∀ c ∈ text, isSpace c = true

theorem blanks_nil : Blanks [] := fun _ hc => nomatch hc

/-- Whether a text does not go on with a numeral that stands in front of it. -/
def EndsNumeral (tail : List Char) : Prop :=
  ∀ c ∈ tail.head?, c.isDigit = false ∧ c ≠ '.' ∧ c ≠ 'e' ∧ c ≠ 'E'

theorem Blanks.endsNumeral {tail : List Char} (hblanks : Blanks tail) : EndsNumeral tail := by
  intro c hc
  have hspace := hblanks c (List.mem_of_mem_head? hc)
  simp only [isSpace, Bool.or_eq_true, beq_iff_eq] at hspace
  rcases hspace with ((rfl | rfl) | rfl) | rfl <;> decide

/-- Whether two cursors stand in front of the same text, with a tail of its own behind each. -/
structure Cursor.Shares (text tail other : List Char) (near far : Cursor) : Prop where
  near_rest : near.rest = text ++ tail
  far_rest : far.rest = text ++ other

/-- Whether a second attempt gives the value that the first one gives, and both stop at the same
place of a text that their cursors share. -/
def Repeats {α : Type} (text tail other : List Char) (near far : Except ReadError (α × Cursor)) :
    Prop :=
  ∀ value behind, near = .ok (value, behind) →
    ∃ left beyond, far = .ok (value, beyond) ∧ left <:+ text ∧
      Cursor.Shares left tail other behind beyond

section Repetition

variable {text left tail other : List Char} {near far : Cursor} {c : Char}

theorem Repeats.mono {α : Type} {near far : Except ReadError (α × Cursor)}
    (hrepeats : Repeats left tail other near far) (hleft : left <:+ text) :
    Repeats text tail other near far := by
  intro value behind hread
  obtain ⟨later, beyond, hfar, hlater, hshares⟩ := hrepeats value behind hread
  exact ⟨later, beyond, hfar, hlater.trans hleft, hshares⟩

theorem Cursor.Shares.advance (hshares : Cursor.Shares (c :: text) tail other near far) :
    Cursor.Shares text tail other near.advance far.advance where
  near_rest := by simp [hshares.near_rest]
  far_rest := by simp [hshares.far_rest]

theorem takeWhile_append_of_head {p : Char → Bool} (text : List Char)
    (htail : ∀ c ∈ tail.head?, p c = false) :
    (text ++ tail).takeWhile p = text.takeWhile p := by
  induction text with
  | nil =>
      cases tail with
      | nil => rfl
      | cons c rest => simp [htail c rfl]
  | cons c rest ih =>
      rw [List.cons_append, List.takeWhile_cons, List.takeWhile_cons, ih]

theorem takeDigits_of_ends {cursor : Cursor} (hends : EndsNumeral tail)
    (hrest : cursor.rest = text ++ tail) :
    (takeDigits cursor).1 = text.takeWhile Char.isDigit ∧
      (takeDigits cursor).2.rest = text.drop (text.takeWhile Char.isDigit).length ++ tail := by
  have hdigits : (text ++ tail).takeWhile Char.isDigit = text.takeWhile Char.isDigit :=
    takeWhile_append_of_head text fun c hc => (hends c hc).1
  simp only [takeDigits, Cursor.rest_advanceOver, hrest, hdigits, true_and]
  exact List.drop_append_of_le_length (List.takeWhile_prefix _).length_le

theorem takeDigits_repeats (hblanks : Blanks tail) (hends : EndsNumeral other)
    (hshares : Cursor.Shares text tail other near far) :
    (takeDigits far).1 = (takeDigits near).1 ∧
      ∃ left, left <:+ text ∧
        Cursor.Shares left tail other (takeDigits near).2 (takeDigits far).2 := by
  obtain ⟨hnear, hbehind⟩ := takeDigits_of_ends hblanks.endsNumeral hshares.near_rest
  obtain ⟨hfar, hbeyond⟩ := takeDigits_of_ends hends hshares.far_rest
  exact ⟨hfar.trans hnear.symm, _, List.drop_suffix _ _, hbehind, hbeyond⟩

theorem finishFloat_repeats (hshares : Cursor.Shares text tail other near far) (positive : Bool)
    (significand : Nat) (exponent : Int) :
    Repeats text tail other (finishFloat near positive significand exponent)
      (finishFloat far positive significand exponent) := by
  intro number behind hread
  unfold finishFloat at hread ⊢
  cases hscaled : scaled? significand exponent with
  | none => simp [hscaled] at hread
  | some x =>
      simp only [hscaled, Except.ok.injEq, Prod.mk.injEq] at hread ⊢
      obtain ⟨rfl, rfl⟩ := hread
      exact ⟨text, far, ⟨rfl, rfl⟩, List.suffix_rfl, hshares⟩

/-- What is read of an exponent behind its sign. -/
def readPower (up : Bool) (cursor : Cursor) (positive : Bool) (significand : Nat) (scale : Int) :
    Except ReadError (Number × Cursor) :=
  match cursor.rest with
  | [] => cursor.fail .eofInValue
  | c :: _ =>
    if !c.isDigit then cursor.failNext .invalidNumber
    else
      match exponentValue 0 0 (takeDigits cursor).1 with
      | .ok power =>
        finishFloat (takeDigits cursor).2 positive significand
          (if up then scale + power else scale - power)
      | .error read =>
        if significand ≠ 0 && up then
          (cursor.advanceOver ((takeDigits cursor).1.take read)).fail .numberOutOfRange
        else .ok (.float (if positive then 0.0 else -0.0), (takeDigits cursor).2)

theorem readExponent_eq (cursor : Cursor) (positive : Bool) (significand : Nat) (scale : Int) :
    readExponent cursor positive significand scale =
      readPower (cursor.rest.head? ≠ some '-')
        (if cursor.rest.head? = some '+' ∨ cursor.rest.head? = some '-' then cursor.advance
          else cursor) positive significand scale := by
  unfold readExponent
  split
  next up unsigned hsign =>
    split at hsign
    next text hrest =>
      cases hsign
      simp only [hrest, List.head?_cons, true_or, if_true]
      rfl
    next text hrest =>
      cases hsign
      simp only [hrest, List.head?_cons, or_true, if_true]
      rfl
    next hplus hminus =>
      cases hsign
      have hnoplus : cursor.rest.head? ≠ some '+' := by
        intro hhead
        obtain ⟨text, hrest⟩ := List.head?_eq_some_iff.mp hhead
        exact hplus text hrest
      have hnominus : cursor.rest.head? ≠ some '-' := by
        intro hhead
        obtain ⟨text, hrest⟩ := List.head?_eq_some_iff.mp hhead
        exact hminus text hrest
      rw [decide_eq_true hnominus, if_neg (not_or.mpr ⟨hnoplus, hnominus⟩)]
      rfl

theorem readPower_repeats (hblanks : Blanks tail) (hends : EndsNumeral other)
    (hshares : Cursor.Shares text tail other near far) (up positive : Bool) (significand : Nat)
    (scale : Int) :
    Repeats text tail other (readPower up near positive significand scale)
      (readPower up far positive significand scale) := by
  obtain ⟨hdigits, left, hleft, hbehind⟩ := takeDigits_repeats hblanks hends hshares
  intro number behind hread
  unfold readPower at hread ⊢
  cases text with
  | nil =>
      rw [hshares.near_rest, List.nil_append] at hread
      split at hread
      next => simp at hread
      next c more => simp [(hblanks.endsNumeral c rfl).1] at hread
  | cons c text =>
      simp only [hshares.near_rest, hshares.far_rest, List.cons_append, hdigits] at hread ⊢
      split at hread
      next => simp at hread
      next hdigit =>
        rw [if_neg hdigit]
        split at hread
        next power hpower =>
          exact (finishFloat_repeats hbehind _ _ _).mono hleft number behind hread
        next read hpower =>
          split at hread
          next => simp at hread
          next hzero =>
            rw [if_neg hzero]
            cases hread
            exact ⟨left, _, rfl, hleft, hbehind⟩

/-- An exponent cannot end in front of its digits. -/
theorem readExponent_of_blanks {cursor : Cursor} (hblanks : Blanks cursor.rest) (positive : Bool)
    (significand : Nat) (scale : Int) (result : Number × Cursor) :
    readExponent cursor positive significand scale ≠ .ok result := by
  have hunsigned : ∀ sign, isSpace sign = false → cursor.rest.head? ≠ some sign := by
    intro sign hsign hhead
    rw [hblanks sign (List.mem_of_mem_head? hhead)] at hsign
    cases hsign
  intro hread
  rw [readExponent_eq, if_neg (not_or.mpr ⟨hunsigned '+' rfl, hunsigned '-' rfl⟩), readPower]
    at hread
  split at hread
  next => simp at hread
  next c more hrest =>
    rw [hrest] at hblanks
    simp [(hblanks.endsNumeral c rfl).1] at hread

theorem readExponent_repeats (hblanks : Blanks tail) (hends : EndsNumeral other)
    (hshares : Cursor.Shares text tail other near far) (positive : Bool) (significand : Nat)
    (scale : Int) :
    Repeats text tail other (readExponent near positive significand scale)
      (readExponent far positive significand scale) := by
  cases text with
  | nil =>
      intro number behind hread
      have hnear : Blanks near.rest := by rwa [hshares.near_rest, List.nil_append]
      exact absurd hread (readExponent_of_blanks hnear positive significand scale _)
  | cons c text =>
      have hhead : near.rest.head? = some c := by rw [hshares.near_rest]; rfl
      have hsame : far.rest.head? = some c := by rw [hshares.far_rest]; rfl
      rw [readExponent_eq, readExponent_eq, hhead, hsame]
      split
      next =>
        exact (readPower_repeats hblanks hends hshares.advance _ positive significand scale).mono
          (List.suffix_cons c text)
      next => exact readPower_repeats hblanks hends hshares _ positive significand scale

theorem readFloatEnd_of_ends {cursor : Cursor} (hends : EndsNumeral cursor.rest)
    (positive : Bool) (significand : Nat) (scale : Int) :
    readFloatEnd cursor positive significand scale =
      finishFloat cursor positive significand scale := by
  unfold readFloatEnd
  split
  next hrest => exact absurd rfl (hends 'e' (by rw [hrest]; rfl)).2.2.1
  next hrest => exact absurd rfl (hends 'E' (by rw [hrest]; rfl)).2.2.2
  next => rfl

theorem readFloatEnd_repeats (hblanks : Blanks tail) (hends : EndsNumeral other)
    (hshares : Cursor.Shares text tail other near far) (positive : Bool) (significand : Nat)
    (scale : Int) :
    Repeats text tail other (readFloatEnd near positive significand scale)
      (readFloatEnd far positive significand scale) := by
  have hfloat := finishFloat_repeats hshares positive significand scale
  cases text with
  | nil =>
      have hnear : EndsNumeral near.rest := by
        rw [hshares.near_rest]
        exact hblanks.endsNumeral
      have hbeyond : EndsNumeral far.rest := by rwa [hshares.far_rest]
      rw [readFloatEnd_of_ends hnear, readFloatEnd_of_ends hbeyond]
      exact hfloat
  | cons c text =>
      have hexponent := (readExponent_repeats hblanks hends hshares.advance positive significand
        scale).mono (List.suffix_cons c text)
      unfold readFloatEnd
      rw [hshares.near_rest, hshares.far_rest, List.cons_append, List.cons_append]
      split <;> split <;> simp_all

theorem readFraction_repeats (hblanks : Blanks tail) (hends : EndsNumeral other)
    (hshares : Cursor.Shares text tail other near far) (positive : Bool) (significand : Nat)
    (scale : Int) :
    Repeats text tail other (readFraction near positive significand scale)
      (readFraction far positive significand scale) := by
  obtain ⟨hdigits, left, hleft, hbehind⟩ := takeDigits_repeats hblanks hends hshares
  intro number behind hread
  simp only [readFraction, hdigits] at hread ⊢
  split at hread
  next => split at hread <;> simp at hread
  next hsome =>
    rw [if_neg hsome]
    exact (readFloatEnd_repeats hblanks hends hbehind _ _ _).mono hleft number behind hread

theorem readWholeEnd_of_ends {cursor : Cursor} (hends : EndsNumeral cursor.rest)
    (positive : Bool) (significand dropped : Nat) :
    readWholeEnd cursor positive significand dropped =
      if dropped = 0 then .ok (wholeNumber positive significand, cursor)
      else finishFloat cursor positive significand dropped := by
  unfold readWholeEnd
  split
  next hrest => exact absurd rfl (hends '.' (by rw [hrest]; rfl)).2.1
  next hrest => exact absurd rfl (hends 'e' (by rw [hrest]; rfl)).2.2.1
  next hrest => exact absurd rfl (hends 'E' (by rw [hrest]; rfl)).2.2.2
  next => rfl

theorem readWholeEnd_repeats (hblanks : Blanks tail) (hends : EndsNumeral other)
    (hshares : Cursor.Shares text tail other near far) (positive : Bool)
    (significand dropped : Nat) :
    Repeats text tail other (readWholeEnd near positive significand dropped)
      (readWholeEnd far positive significand dropped) := by
  have hwhole : Repeats text tail other
      (if dropped = 0 then .ok (wholeNumber positive significand, near)
        else finishFloat near positive significand dropped)
      (if dropped = 0 then .ok (wholeNumber positive significand, far)
        else finishFloat far positive significand dropped) := by
    split
    next =>
      intro number behind hread
      cases hread
      exact ⟨text, far, rfl, List.suffix_rfl, hshares⟩
    next => exact finishFloat_repeats hshares positive significand dropped
  cases text with
  | nil =>
      have hnear : EndsNumeral near.rest := by
        rw [hshares.near_rest]
        exact hblanks.endsNumeral
      have hbeyond : EndsNumeral far.rest := by rwa [hshares.far_rest]
      rw [readWholeEnd_of_ends hnear, readWholeEnd_of_ends hbeyond]
      exact hwhole
  | cons c text =>
      have hfraction := (readFraction_repeats hblanks hends hshares.advance positive significand
        dropped).mono (List.suffix_cons c text)
      have hexponent := (readExponent_repeats hblanks hends hshares.advance positive significand
        dropped).mono (List.suffix_cons c text)
      unfold readWholeEnd
      rw [hshares.near_rest, hshares.far_rest, List.cons_append, List.cons_append]
      split <;> split <;> simp_all

/-- A numeral that begins with a zero has no further digit in its whole part. -/
theorem readNumber_of_zero {cursor : Cursor} (hzero : cursor.rest.head? = some '0')
    (positive : Bool) (hnext : ∀ c ∈ cursor.rest.tail.head?, c.isDigit = false) :
    readNumber positive cursor = readWholeEnd cursor.advance positive 0 0 := by
  obtain ⟨text, hrest⟩ := List.head?_eq_some_iff.mp hzero
  unfold readNumber
  cases text with
  | nil =>
      rw [hrest]
      simp [takeDigits, hrest, accumulate, Cursor.advanceOver]
  | cons second more =>
      have hsecond : second.isDigit = false := hnext second (by rw [hrest]; rfl)
      simp only [hrest, hsecond]
      rfl

theorem readNumber_of_nonzero {cursor : Cursor} {c : Char} (hhead : cursor.rest.head? = some c)
    (hnonzero : c ≠ '0') (positive : Bool) :
    readNumber positive cursor =
      if !c.isDigit then cursor.failNext .invalidNumber
      else readWholeEnd (takeDigits cursor).2 positive (accumulate 0 (takeDigits cursor).1).1
        (accumulate 0 (takeDigits cursor).1).2 := by
  obtain ⟨text, hrest⟩ := List.head?_eq_some_iff.mp hhead
  unfold readNumber
  rw [hrest]
  split
  next hnil => exact nomatch hnil
  next hzero =>
    cases hzero
    exact absurd rfl hnonzero
  next hcons =>
    cases hcons
    rfl

/-- A numeral is read the same way in front of every text that does not go on with it. -/
theorem readNumber_repeats (hblanks : Blanks tail) (hends : EndsNumeral other)
    (hshares : Cursor.Shares text tail other near far) (positive : Bool) :
    Repeats text tail other (readNumber positive near) (readNumber positive far) := by
  intro number behind hread
  cases text with
  | nil =>
      rw [readNumber, hshares.near_rest, List.nil_append] at hread
      split at hread
      next => simp at hread
      next => exact absurd (hblanks '0' List.mem_cons_self) (by decide)
      next c more _ => simp [(hblanks.endsNumeral c rfl).1] at hread
  | cons c text =>
      have hnear : near.rest.head? = some c := by rw [hshares.near_rest]; rfl
      have hbeyond : far.rest.head? = some c := by rw [hshares.far_rest]; rfl
      by_cases hzero : c = '0'
      · subst hzero
        have hnext : ∀ d ∈ (text ++ tail).head?, d.isDigit = false := by
          intro d hd
          obtain ⟨more, hmore⟩ := List.head?_eq_some_iff.mp hd
          cases hdigit : d.isDigit with
          | false => rfl
          | true => simp [readNumber, hshares.near_rest, hmore, hdigit] at hread
        have hlater : ∀ d ∈ (text ++ other).head?, d.isDigit = false := by
          intro d hd
          cases text with
          | nil => exact (hends d hd).1
          | cons e more => exact hnext d hd
        rw [readNumber_of_zero hnear positive (by rwa [hshares.near_rest])] at hread
        rw [readNumber_of_zero hbeyond positive (by rwa [hshares.far_rest])]
        exact (readWholeEnd_repeats hblanks hends hshares.advance positive 0 0).mono
          (List.suffix_cons '0' text) number behind hread
      · rw [readNumber_of_nonzero hnear hzero] at hread
        rw [readNumber_of_nonzero hbeyond hzero]
        obtain ⟨hdigits, left, hleft, hdone⟩ := takeDigits_repeats hblanks hends hshares
        split at hread
        next => simp at hread
        next hdigit =>
          rw [if_neg hdigit, hdigits]
          have hwhole := readWholeEnd_repeats hblanks hends hdone positive
          exact (hwhole _ _).mono hleft number behind hread

end Repetition

/-! ## Numerals as values -/

/-- Whether a text goes on with a numeral, if with anything. -/
def BeginsNumeral (text : List Char) : Prop :=
  ∃ c ∈ text.head?, c = '-' ∨ c.isDigit = true

/-- Reads a number with its sign. -/
def readNumeral (cursor : Cursor) : Except ReadError (Number × Cursor) :=
  if cursor.rest.head? = some '-' then readNumber false cursor.advance
  else readNumber true cursor

theorem readNumeral_repeats {text tail other : List Char} {near far : Cursor}
    (hblanks : Blanks tail) (hends : EndsNumeral other) (hshares : Cursor.Shares text tail other near far)
    (hbegins : BeginsNumeral text) :
    Repeats text tail other (readNumeral near) (readNumeral far) := by
  obtain ⟨c, hhead, -⟩ := hbegins
  obtain ⟨more, rfl⟩ := List.head?_eq_some_iff.mp hhead
  have hnear : near.rest.head? = some c := by rw [hshares.near_rest]; rfl
  have hfar : far.rest.head? = some c := by rw [hshares.far_rest]; rfl
  unfold readNumeral
  rw [hnear, hfar]
  split
  next =>
    exact (readNumber_repeats hblanks hends hshares.advance false).mono (List.suffix_cons c more)
  next => exact readNumber_repeats hblanks hends hshares true

/-- A value that is a number is read from a numeral. -/
theorem readNumeral_of_readValue {fuel depth : Nat} {cursor behind : Cursor} {number : Number}
    (hread : readValue (fuel + 1) depth cursor = .ok (.number number, behind)) :
    BeginsNumeral cursor.skipSpace.rest ∧ readNumeral cursor.skipSpace = .ok (number, behind) := by
  simp only [readValue] at hread
  split at hread
  next => simp at hread
  next => simp at hread
  next => simp at hread
  next => simp at hread
  next text hrest =>
    simp only [Attempt.bind_eq_ok_iff, Attempt.pure_eq_ok_iff, Prod.mk.injEq, Prod.exists,
      Json.number.injEq] at hread
    obtain ⟨_, _, hnumber, rfl, rfl⟩ := hread
    rw [readNumeral, hrest, List.head?_cons, if_pos rfl]
    exact ⟨⟨'-', rfl, .inl rfl⟩, hnumber⟩
  next => simp at hread
  next => split at hread <;> simp at hread
  next => split at hread <;> simp at hread
  next c text _ _ _ hminus _ _ _ hrest =>
    split at hread
    next hdigit =>
      simp only [Attempt.bind_eq_ok_iff, Attempt.pure_eq_ok_iff, Prod.mk.injEq, Prod.exists,
        Json.number.injEq] at hread
      obtain ⟨_, _, hnumber, rfl, rfl⟩ := hread
      have hunsigned : ¬some c = some '-' := by
        rintro ⟨⟩
        exact hminus rfl
      rw [readNumeral, hrest, List.head?_cons, if_neg hunsigned]
      exact ⟨⟨c, rfl, .inr hdigit⟩, hnumber⟩
    next => simp at hread

/-- Where the text goes on with a numeral, the value is its number. -/
theorem readValue_of_readNumeral (fuel depth : Nat) {cursor behind : Cursor} {number : Number}
    (hbegins : BeginsNumeral cursor.skipSpace.rest)
    (hnumber : readNumeral cursor.skipSpace = .ok (number, behind)) :
    readValue (fuel + 1) depth cursor = .ok (.number number, behind) := by
  obtain ⟨c, hhead, hsign⟩ := hbegins
  obtain ⟨text, hrest⟩ := List.head?_eq_some_iff.mp hhead
  rw [readNumeral, hrest, List.head?_cons] at hnumber
  rcases hsign with rfl | hdigit
  · rw [if_pos rfl] at hnumber
    simp only [readValue, hrest, hnumber]
    rfl
  · have hunsigned : ¬some c = some '-' := by
      rintro ⟨⟩
      exact absurd hdigit (by decide)
    rw [if_neg hunsigned] at hnumber
    simp only [readValue, hrest]
    split
    next hnil => cases hnil
    rotate_right
    next hcons =>
      cases hcons
      rw [if_pos hdigit, hnumber]
      rfl
    all_goals
      next hcons =>
        cases hcons
        exact absurd hdigit (by decide)

/-- A value is a number where the text goes on with a numeral, which then is that number. -/
theorem readValue_eq_number_iff {fuel depth : Nat} {cursor behind : Cursor} {number : Number} :
    readValue (fuel + 1) depth cursor = .ok (.number number, behind) ↔
      BeginsNumeral cursor.skipSpace.rest ∧
        readNumeral cursor.skipSpace = .ok (number, behind) :=
  ⟨readNumeral_of_readValue, fun h => readValue_of_readNumeral fuel depth h.1 h.2⟩

theorem sorted_eq_number_iff {value : Json} {number : Number} :
    value.sorted = .number number ↔ value = .number number := by
  cases value <;> simp [sorted, ofMembers]

theorem readEnd_eq_ok_iff {cursor : Cursor} :
    readEnd cursor = .ok () ↔ cursor.rest.dropWhile isSpace = [] := by
  simp only [readEnd, Cursor.rest_skipSpace, List.isEmpty_iff]
  split
  next hend => simp [hend]
  next hmore => simp [hmore]

theorem parse_eq_number_iff {text : List Char} {number : Number} :
    parse (String.ofList text) = .ok (.number number) ↔
      BeginsNumeral (Cursor.start text).skipSpace.rest ∧
        ∃ behind, readNumeral (Cursor.start text).skipSpace = .ok (number, behind) ∧
          behind.rest.dropWhile isSpace = [] := by
  simp only [parse, readText, String.toList_ofList, Attempt.map_eq_ok_iff, Attempt.bind_eq_ok_iff,
    Attempt.pure_eq_ok_iff, Prod.exists]
  constructor
  · rintro ⟨_, ⟨value, behind, hread, _, hend, rfl⟩, hsorted⟩
    rw [sorted_eq_number_iff.mp hsorted] at hread
    obtain ⟨hbegins, hnumber⟩ := readValue_eq_number_iff.mp hread
    exact ⟨hbegins, behind, hnumber, readEnd_eq_ok_iff.mp hend⟩
  · rintro ⟨hbegins, behind, hnumber, hend⟩
    exact ⟨_, ⟨_, behind, readValue_eq_number_iff.mpr ⟨hbegins, hnumber⟩, (),
      readEnd_eq_ok_iff.mpr hend, rfl⟩, rfl⟩

/-! ## Written numbers -/

/-- Whether the text of a number is read as the number again. -/
def ReadsBack (number : Number) : Prop :=
  parse (render (.number number)) = .ok (.number number)

/-- Appending digits that stay within 64 bits reaches their value and drops none. -/
theorem accumulate_eq {significand : Nat} {digits : List Char}
    (hfits : Nat.ofDigitChars 10 digits significand ≤ maxSignificand) :
    accumulate significand digits = (Nat.ofDigitChars 10 digits significand, 0) := by
  induction digits generalizing significand with
  | nil => rfl
  | cons d rest ih =>
      have hnext : significand * 10 + (d.toNat - '0'.toNat) ≤
          Nat.ofDigitChars 10 rest (significand * 10 + (d.toNat - '0'.toNat)) := by
        rw [Nat.ofDigitChars_eq_ofDigitChars_zero]
        exact Nat.le_trans (Nat.le_mul_of_pos_left _ (Nat.pow_pos (by decide)))
          (Nat.le_add_right _ _)
      rw [Nat.ofDigitChars_cons, Nat.mul_comm 10] at hfits ⊢
      rw [accumulate, if_pos (Nat.le_trans hnext hfits), ih hfits]

/-- The decimal digits of a positive number do not begin with a zero. -/
theorem head?_toDigits_ne {n : Nat} (hpos : 0 < n) : (Nat.toDigits 10 n).head? ≠ some '0' := by
  induction n using Nat.strongRecOn with
  | ind n ih =>
      by_cases hsmall : n < 10
      · have hdigits : ∀ n < 10, 0 < n → n.digitChar ≠ '0' := by decide
        rw [Nat.toDigits_of_lt_base hsmall, List.head?_cons, ne_eq, Option.some.injEq]
        exact hdigits n hsmall hpos
      · have hmore : 10 ≤ n := Nat.not_lt.mp hsmall
        have hfewer := ih (n / 10) (by omega) (by omega)
        obtain ⟨first, more, hdigits⟩ := List.exists_cons_of_ne_nil
          (Nat.toDigits_ne_nil (n := n / 10) (b := 10))
        rw [Nat.toDigits_of_base_le (by decide) hmore, hdigits, List.cons_append]
        rw [hdigits] at hfewer
        exact hfewer

/-- The digits of a number of 64 bits are read as the number. -/
theorem readNumber_toDigits {n : Nat} (hfits : n ≤ maxSignificand) (positive : Bool)
    {cursor : Cursor} (hrest : cursor.rest = Nat.toDigits 10 n) :
    ∃ behind, readNumber positive cursor = .ok (wholeNumber positive n, behind) ∧
      behind.rest = [] := by
  have hdigit : ∀ c ∈ cursor.rest, c.isDigit = true := by
    intro c hc
    rw [hrest] at hc
    exact Nat.isDigit_of_mem_toDigits (by decide) (by decide) hc
  have hall : cursor.rest.takeWhile Char.isDigit = cursor.rest :=
    calc
      cursor.rest.takeWhile Char.isDigit = (cursor.rest ++ []).takeWhile Char.isDigit := by
        rw [List.append_nil]
      _ = cursor.rest ++ [] := List.takeWhile_append_of_pos hdigit
      _ = cursor.rest := List.append_nil _
  have hdigits : (takeDigits cursor).1 = Nat.toDigits 10 n := hall.trans hrest
  have hbehind : (takeDigits cursor).2.rest = [] := by
    rw [takeDigits, Cursor.rest_advanceOver, hall, List.drop_length]
  have hvalue : Nat.ofDigitChars 10 (Nat.toDigits 10 n) 0 = n := Nat.ofDigitChars_ten_toDigits
  have hends : EndsNumeral [] := fun c hc => nomatch hc
  by_cases hzero : n = 0
  · subst hzero
    have hempty : cursor.advance.rest = [] := by simp [hrest]
    rw [readNumber_of_zero (by rw [hrest]; rfl) positive (by rw [hrest]; exact fun c hc => nomatch hc),
      readWholeEnd_of_ends (by rwa [hempty]), if_pos rfl]
    exact ⟨_, rfl, hempty⟩
  · obtain ⟨c, more, hcons⟩ := List.exists_cons_of_ne_nil
      (Nat.toDigits_ne_nil (n := n) (b := 10))
    have hnonzero := head?_toDigits_ne (Nat.pos_of_ne_zero hzero)
    rw [hcons, List.head?_cons, ne_eq, Option.some.injEq] at hnonzero
    have hfirst : c.isDigit = true := hdigit c (by rw [hrest, hcons]; exact List.mem_cons_self)
    rw [readNumber_of_nonzero (by rw [hrest, hcons]; rfl) hnonzero positive, hfirst, hdigits,
      accumulate_eq (by rwa [hvalue]), hvalue]
    refine ⟨_, ?_, hbehind⟩
    exact (readWholeEnd_of_ends (by rwa [hbehind]) positive n 0).trans (if_pos rfl)

theorem dropWhile_isSpace_of_begins {text : List Char} (hbegins : BeginsNumeral text) :
    text.dropWhile isSpace = text := by
  obtain ⟨c, hhead, hc⟩ := hbegins
  obtain ⟨more, rfl⟩ := List.head?_eq_some_iff.mp hhead
  apply List.dropWhile_cons_of_neg
  intro hspace
  simp only [isSpace, Bool.or_eq_true, beq_iff_eq] at hspace
  rcases hspace with ((rfl | rfl) | rfl) | rfl <;> exact absurd hc (by decide)

/-- Digits are read back as the number that they are the digits of. -/
theorem readsBack_ofNat {n : Nat} (hfits : n ≤ maxSignificand) : ReadsBack (.int (.ofNat n)) := by
  have hdigit : ∀ c ∈ Nat.toDigits 10 n, c.isDigit = true := fun c hc =>
    Nat.isDigit_of_mem_toDigits (by decide) (by decide) hc
  obtain ⟨c, more, hcons⟩ := List.exists_cons_of_ne_nil (Nat.toDigits_ne_nil (n := n) (b := 10))
  have hfirst : c.isDigit = true := hdigit c (by rw [hcons]; exact List.mem_cons_self)
  have hhead : (Nat.toDigits 10 n).head? = some c := by rw [hcons]; rfl
  have hbegins : BeginsNumeral (Nat.toDigits 10 n) := ⟨c, hhead, .inr hfirst⟩
  have hrest : (Cursor.start (Nat.toDigits 10 n)).skipSpace.rest = Nat.toDigits 10 n := by
    rw [Cursor.rest_skipSpace]
    exact dropWhile_isSpace_of_begins hbegins
  have hunsigned : ¬some c = some '-' := by
    rintro ⟨⟩
    exact absurd hfirst (by decide)
  obtain ⟨behind, hnumber, hend⟩ := readNumber_toDigits hfits true hrest
  have htext : chars (.number (.int (.ofNat n))) = Nat.toDigits 10 n := Nat.toList_repr
  rw [ReadsBack, render, htext, parse_eq_number_iff, hrest]
  refine ⟨hbegins, behind, ?_, by rw [hend]; rfl⟩
  rw [readNumeral, hrest, hhead, if_neg hunsigned, hnumber]
  rfl

/-- Digits behind a minus sign are read back as the negative number where it fits 64 bits. -/
theorem readsBack_negSucc {n : Nat} (hrange : Number.InRange (.int (.negSucc n))) :
    ReadsBack (.int (.negSucc n)) := by
  have hlimit : maxSignificand = 0xffffffffffffffff := rfl
  simp only [Number.InRange] at hrange
  have hfits : n + 1 ≤ maxSignificand := by omega
  have hwhole : wholeNumber false (n + 1) = .int (.negSucc n) := by
    rw [wholeNumber, if_neg (by decide), if_pos ⟨by omega, by omega⟩]
    rfl
  have hbegins : BeginsNumeral ('-' :: Nat.toDigits 10 (n + 1)) := ⟨'-', rfl, .inl rfl⟩
  have hrest : (Cursor.start ('-' :: Nat.toDigits 10 (n + 1))).skipSpace.rest =
      '-' :: Nat.toDigits 10 (n + 1) := by
    rw [Cursor.rest_skipSpace]
    exact dropWhile_isSpace_of_begins hbegins
  have hnext : (Cursor.start ('-' :: Nat.toDigits 10 (n + 1))).skipSpace.advance.rest =
      Nat.toDigits 10 (n + 1) := by
    rw [Cursor.rest_advance, hrest, List.tail_cons]
  obtain ⟨behind, hnumber, hend⟩ := readNumber_toDigits hfits false hnext
  have htext : chars (.number (.int (.negSucc n))) = '-' :: Nat.toDigits 10 (n + 1) := by
    calc
      chars (.number (.int (.negSucc n))) = ("-" ++ (n + 1).repr).toList := rfl
      _ = '-' :: Nat.toDigits 10 (n + 1) := by
        rw [String.toList_append, Nat.toList_repr]
        rfl
  rw [ReadsBack, render, htext, parse_eq_number_iff, hrest]
  refine ⟨hbegins, behind, ?_, by rw [hend]; rfl⟩
  rw [readNumeral, hrest, List.head?_cons, if_pos rfl, hnumber, hwhole]

/-- Whole numbers that fit 64 bits are read back. -/
theorem readsBack_int {value : Int} (hrange : Number.InRange (.int value)) :
    ReadsBack (.int value) := by
  cases value with
  | ofNat n =>
      apply readsBack_ofNat
      have hlimit : maxSignificand = 0xffffffffffffffff := rfl
      simp only [Number.InRange, Int.ofNat_eq_natCast] at hrange
      omega
  | negSucc n => exact readsBack_negSucc hrange

end PromptScript.Json
