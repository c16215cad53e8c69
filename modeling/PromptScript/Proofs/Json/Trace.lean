import PromptScript.Proofs.Json.ReadBack
import PromptScript.Proofs.Json.WellFormed

/-!
# Following the reader

What a reader that succeeds on a written value has read, whatever its numbers are.  The text of a
binary64 number need not be read as that number, but it consists of characters of numerals, so the
reader either stops behind it or among characters behind which nothing goes on.  So an object that is
read has the names of the written one, and the values that are read back.
-/

namespace PromptScript.Json

open Cursor (isSpace)

/-- Whether a character belongs to numerals. -/
def isNumeralChar (c : Char) : Bool :=
  c.isDigit || c == '-' || c == '+' || c == '.' || c == 'e' || c == 'E'

/-- Whether all characters belong to numerals. -/
def AllNumeral (text : List Char) : Prop :=
  ∀ c ∈ text, isNumeralChar c = true

theorem isNumeralChar_of_isDigit {c : Char} (hdigit : c.isDigit = true) :
    isNumeralChar c = true := by
  simp [isNumeralChar, hdigit]

theorem isBlank_of_isNumeralChar {c : Char} (hc : isNumeralChar c = true) :
    Text.isBlank c = false := by
  simp only [isNumeralChar, Bool.or_eq_true, beq_iff_eq] at hc
  rcases hc with ((((hdigit | rfl) | rfl) | rfl) | rfl) | rfl
  · exact Text.isBlank_of_isDigit hdigit
  all_goals decide

/-! ## Characters of numbers -/

/-- Whether a cursor reaches another one over characters of numerals. -/
def Cursor.Passes (cursor behind : Cursor) : Prop :=
  ∃ used, cursor.rest = used ++ behind.rest ∧ AllNumeral used

section Numbers

variable {cursor behind last : Cursor} {number : Number} {positive : Bool} {significand : Nat}
  {scale : Int}

theorem Cursor.Passes.refl (cursor : Cursor) : cursor.Passes cursor :=
  ⟨[], rfl, fun _ hc => nomatch hc⟩

theorem Cursor.Passes.trans (hfirst : cursor.Passes behind) (hsecond : behind.Passes last) :
    cursor.Passes last := by
  obtain ⟨used, hused, hchars⟩ := hfirst
  obtain ⟨more, hmore, hlater⟩ := hsecond
  refine ⟨used ++ more, by rw [hused, hmore, List.append_assoc], ?_⟩
  intro c hc
  rcases List.mem_append.mp hc with hfirst | hsecond
  · exact hchars c hfirst
  · exact hlater c hsecond

theorem Cursor.passes_advance {c : Char} {text : List Char} (hrest : cursor.rest = c :: text)
    (hc : isNumeralChar c = true) : cursor.Passes cursor.advance := by
  refine ⟨[c], by simp [hrest], ?_⟩
  intro d hd
  rwa [List.mem_singleton.mp hd]

theorem passes_takeDigits (cursor : Cursor) : cursor.Passes (takeDigits cursor).2 := by
  refine ⟨cursor.rest.takeWhile Char.isDigit, ?_, ?_⟩
  · have hprefix := List.takeWhile_prefix Char.isDigit (l := cursor.rest)
    simpa [takeDigits] using (List.prefix_iff_eq_append.mp hprefix).symm
  · intro c hc
    exact isNumeralChar_of_isDigit (List.mem_takeWhile_imp hc)

theorem finishFloat_passes
    (hread : finishFloat cursor positive significand scale = .ok (number, behind)) :
    cursor.Passes behind := by
  unfold finishFloat at hread
  split at hread
  next =>
    cases hread
    exact .refl _
  next => simp at hread

theorem readPower_passes {up : Bool}
    (hread : readPower up cursor positive significand scale = .ok (number, behind)) :
    cursor.Passes behind := by
  have hdigits := passes_takeDigits cursor
  unfold readPower at hread
  split at hread
  next => simp at hread
  next =>
    split at hread
    next => simp at hread
    next =>
      split at hread
      next => exact hdigits.trans (finishFloat_passes hread)
      next =>
        split at hread
        next => simp at hread
        next =>
          cases hread
          exact hdigits

theorem readExponent_passes
    (hread : readExponent cursor positive significand scale = .ok (number, behind)) :
    cursor.Passes behind := by
  rw [readExponent_eq] at hread
  refine .trans ?_ (readPower_passes hread)
  split
  next hsign =>
    rcases hsign with hplus | hminus
    · obtain ⟨text, hrest⟩ := List.head?_eq_some_iff.mp hplus
      exact Cursor.passes_advance hrest rfl
    · obtain ⟨text, hrest⟩ := List.head?_eq_some_iff.mp hminus
      exact Cursor.passes_advance hrest rfl
  next => exact .refl _

theorem readFloatEnd_passes
    (hread : readFloatEnd cursor positive significand scale = .ok (number, behind)) :
    cursor.Passes behind := by
  unfold readFloatEnd at hread
  split at hread
  next hrest => exact (Cursor.passes_advance hrest rfl).trans (readExponent_passes hread)
  next hrest => exact (Cursor.passes_advance hrest rfl).trans (readExponent_passes hread)
  next => exact finishFloat_passes hread

theorem readFraction_passes
    (hread : readFraction cursor positive significand scale = .ok (number, behind)) :
    cursor.Passes behind := by
  simp only [readFraction] at hread
  split at hread
  next => split at hread <;> simp at hread
  next => exact (passes_takeDigits cursor).trans (readFloatEnd_passes hread)

theorem readWholeEnd_passes {dropped : Nat}
    (hread : readWholeEnd cursor positive significand dropped = .ok (number, behind)) :
    cursor.Passes behind := by
  unfold readWholeEnd at hread
  split at hread
  next hrest => exact (Cursor.passes_advance hrest rfl).trans (readFraction_passes hread)
  next hrest => exact (Cursor.passes_advance hrest rfl).trans (readExponent_passes hread)
  next hrest => exact (Cursor.passes_advance hrest rfl).trans (readExponent_passes hread)
  next =>
    split at hread
    next =>
      cases hread
      exact .refl _
    next => exact finishFloat_passes hread

theorem readNumber_passes (hread : readNumber positive cursor = .ok (number, behind)) :
    cursor.Passes behind := by
  simp only [readNumber] at hread
  split at hread
  next => simp at hread
  next hrest =>
    split at hread
    next => simp at hread
    next => exact (Cursor.passes_advance hrest rfl).trans (readWholeEnd_passes hread)
  next =>
    split at hread
    next => simp at hread
    next => exact (passes_takeDigits cursor).trans (readWholeEnd_passes hread)

end Numbers

/-! ## Texts of numbers -/

section Texts

variable {first second text digits : List Char} {c : Char}

theorem AllNumeral.nil : AllNumeral [] := fun _ hc => nomatch hc

theorem AllNumeral.cons (hc : isNumeralChar c = true) (htext : AllNumeral text) :
    AllNumeral (c :: text) :=
  List.forall_mem_cons.mpr ⟨hc, htext⟩

theorem AllNumeral.append (hfirst : AllNumeral first) (hsecond : AllNumeral second) :
    AllNumeral (first ++ second) :=
  List.forall_mem_append.mpr ⟨hfirst, hsecond⟩

theorem allNumeral_toDigits (n : Nat) : AllNumeral (Nat.toDigits 10 n) := fun _ hc =>
  isNumeralChar_of_isDigit (Nat.isDigit_of_mem_toDigits (by decide) (by decide) hc)

theorem allNumeral_zeros (count : Nat) : AllNumeral (List.replicate count '0') := by
  intro c hc
  rw [(List.mem_replicate.mp hc).2]
  rfl

theorem allNumeral_placePoint (hdigits : AllNumeral digits) (whole : Int) :
    AllNumeral (Decimal.placePoint digits whole) := by
  unfold Decimal.placePoint
  split
  next => exact .cons rfl (.cons rfl (.append (allNumeral_zeros _) hdigits))
  next =>
    have hwhole : AllNumeral (digits.take whole.toNat) := fun c hc =>
      hdigits c (List.mem_of_mem_take hc)
    refine .append (hwhole.append (allNumeral_zeros _)) (.cons rfl ?_)
    split
    next => exact .cons rfl .nil
    next => exact fun c hc => hdigits c (List.mem_of_mem_drop hc)

theorem allNumeral_render (x : Float) : AllNumeral (Decimal.render numberStyle x).toList := by
  have hsign : AllNumeral (if Decimal.isNegative x then ['-'] else []) := by
    split
    next => exact .cons rfl .nil
    next => exact .nil
  simp only [Decimal.render]
  split
  next =>
    rw [String.toList_ofList]
    exact hsign.append (.cons rfl (.cons rfl (.cons rfl .nil)))
  next =>
    rw [String.toList_ofList]
    apply hsign.append
    have hdigits := allNumeral_toDigits (Decimal.shortest (Decimal.magnitude x)).digits
    split
    next => exact allNumeral_placePoint hdigits _
    next =>
      refine .append ?_ (.cons rfl (.append ?_ (allNumeral_toDigits _)))
      · split
        next hmantissa =>
          rw [hmantissa] at hdigits
          obtain ⟨hfirst, hrest⟩ := List.forall_mem_cons.mp hdigits
          exact .cons hfirst (.cons rfl hrest)
        next => exact hdigits
      · split
        next => exact .cons rfl .nil
        next => exact .cons rfl .nil

theorem allNumeral_numberText (number : Number) : AllNumeral (numberText number).toList := by
  cases number with
  | float x => exact allNumeral_render x
  | int value =>
      cases value with
      | ofNat n =>
          have htext : (numberText (.int (.ofNat n))).toList = Nat.toDigits 10 n := Nat.toList_repr
          rw [htext]
          exact allNumeral_toDigits n
      | negSucc n =>
          have htext : (numberText (.int (.negSucc n))).toList = '-' :: Nat.toDigits 10 (n + 1) := by
            calc
              (numberText (.int (.negSucc n))).toList = ("-" ++ (n + 1).repr).toList := rfl
              _ = '-' :: Nat.toDigits 10 (n + 1) := by
                rw [String.toList_append, Nat.toList_repr]
                rfl
          rw [htext]
          exact .cons rfl (allNumeral_toDigits (n + 1))

theorem numberText_ne_nil (number : Number) : (numberText number).toList ≠ [] := by
  cases number with
  | float x =>
      simp only [numberText, Decimal.render]
      split
      next => simp
      next =>
        rw [String.toList_ofList]
        intro hnil
        have hbody := (List.append_eq_nil_iff.mp hnil).2
        split at hbody
        next =>
          unfold Decimal.placePoint at hbody
          split at hbody <;> simp at hbody
        next => simp at hbody
  | int value =>
      cases value with
      | ofNat n =>
          have htext : (numberText (.int (.ofNat n))).toList = Nat.toDigits 10 n := Nat.toList_repr
          rw [htext]
          exact Nat.toDigits_ne_nil
      | negSucc n =>
          have htext : numberText (.int (.negSucc n)) = "-" ++ (n + 1).repr := rfl
          simp [htext]

end Texts

/-! ## Behind values -/

/-- Whether a text does not go on with characters of numerals. -/
def Parts (tail : List Char) : Prop :=
  ∀ c ∈ tail.head?, isNumeralChar c = false

/-- Whether a cursor stands in front of a text, up to blanks, or in front of a character of a
numeral. -/
def Cursor.Leaves (cursor : Cursor) (tail : List Char) : Prop :=
  cursor.Faces tail ∨ ∃ c ∈ cursor.rest.head?, isNumeralChar c = true

section Behind

variable {cursor behind : Cursor} {text tail gap : List Char} {c : Char} {first : Bool}

theorem parts_gap (hgap : Blanks gap) (hmark : isNumeralChar c = false) :
    Parts (gap ++ c :: tail) := by
  intro d hd
  cases gap with
  | nil =>
      cases hd
      exact hmark
  | cons blank more =>
      cases hd
      have hspace := hgap d List.mem_cons_self
      simp only [isSpace, Bool.or_eq_true, beq_iff_eq] at hspace
      rcases hspace with ((rfl | rfl) | rfl) | rfl <;> rfl

theorem parts_separated (pieces : List (List Char)) (hgap : Blanks gap)
    (hmark : isNumeralChar c = false) :
    Parts (pieces.flatMap (',' :: ·) ++ (gap ++ c :: tail)) := by
  cases pieces with
  | nil => exact parts_gap hgap hmark
  | cons next later => exact parts_gap blanks_nil rfl

theorem Parts.endsNumeral (hparts : Parts tail) : EndsNumeral tail := by
  intro c hc
  have hother := hparts c hc
  simp only [isNumeralChar, Bool.or_eq_false_iff, beq_eq_false_iff_ne] at hother
  exact ⟨hother.1.1.1.1.1, hother.1.1.2, hother.1.2, hother.2⟩

/-- Who passes over characters of numerals in front of a text of such characters does not come
further than its end. -/
theorem Cursor.Passes.leaves (hpasses : cursor.Passes behind) (hrest : cursor.rest = text ++ tail)
    (htext : AllNumeral text) (htail : Parts tail) : behind.Leaves tail := by
  obtain ⟨used, hused, hchars⟩ := hpasses
  rcases List.append_eq_append_iff.mp (hrest.symm.trans hused) with
    ⟨beyond, hbeyond, hlater⟩ | ⟨left, hleft, hlater⟩
  · cases beyond with
    | nil => exact .inl (.of_rest hlater.symm)
    | cons c more =>
        have hnone := htail c (by rw [hlater]; rfl)
        have hsome := hchars c (by rw [hbeyond]; exact List.mem_append_right _ List.mem_cons_self)
        exact absurd hsome (by rw [hnone]; exact Bool.false_ne_true)
  · cases left with
    | nil => exact .inl (.of_rest hlater)
    | cons c more =>
        have hc := htext c (by rw [hleft]; exact List.mem_append_right _ List.mem_cons_self)
        exact .inr ⟨c, by rw [hlater]; rfl, hc⟩

theorem skipSpace_of_numeral (hhead : c ∈ cursor.rest.head?) (hc : isNumeralChar c = true) :
    ∃ more, cursor.skipSpace.rest = c :: more := by
  obtain ⟨more, hrest⟩ := List.head?_eq_some_iff.mp hhead
  refine ⟨more, ?_⟩
  rw [Cursor.rest_skipSpace, hrest]
  apply List.dropWhile_cons_of_neg
  intro hspace
  simp only [isSpace, Bool.or_eq_true, beq_iff_eq] at hspace
  rcases hspace with ((rfl | rfl) | rfl) | rfl <;> exact absurd hc (by decide)

/-- Where an array goes on, the cursor stands behind the item. -/
theorem Cursor.Leaves.of_nextItem {next : Option Cursor × Cursor} (hleaves : cursor.Leaves tail)
    (hnext : nextItem false cursor = .ok next) : cursor.Faces tail := by
  rcases hleaves with hfaces | ⟨c, hhead, hc⟩
  · exact hfaces
  · obtain ⟨more, hrest⟩ := skipSpace_of_numeral hhead hc
    rcases nextItem_cases hnext with ⟨_, hclose, -⟩ | ⟨hfirst, -⟩ | ⟨-, _, _, _, hcomma, -⟩
    · cases hrest.symm.trans hclose
      exact absurd hc (by decide)
    · cases hfirst
    · cases hrest.symm.trans hcomma
      exact absurd hc (by decide)

/-- Where an object goes on, the cursor stands behind the member. -/
theorem Cursor.Leaves.of_nextMember {next : Option Cursor × Cursor} (hleaves : cursor.Leaves tail)
    (hnext : nextMember false cursor = .ok next) : cursor.Faces tail := by
  rcases hleaves with hfaces | ⟨c, hhead, hc⟩
  · exact hfaces
  · obtain ⟨more, hrest⟩ := skipSpace_of_numeral hhead hc
    rcases nextMember_cases hnext with ⟨_, hclose, -⟩ | ⟨hfirst, -⟩ | ⟨-, _, _, hcomma, -⟩
    · cases hrest.symm.trans hclose
      exact absurd hc (by decide)
    · cases hfirst
    · cases hrest.symm.trans hcomma
      exact absurd hc (by decide)

end Behind

/-! ## Values -/

/-- Whether what was read is the written value, if that is a number which is read back. -/
def Keeps (written read : Json) : Prop :=
  ∀ number, written = .number number → ReadsBack number → read = written

/-- Whether every reading of a text where it stands for a value ends behind the text. -/
structure Traceable (value : Json) (text : List Char) : Prop where
  begins : ∃ c more, text.dropWhile isSpace = c :: more ∧ c ≠ ']'
  leads {fuel depth : Nat} {cursor last : Cursor} {tail : List Char} {read : Json}
    (htail : Parts tail) (hfaces : cursor.Faces (text ++ tail))
    (hread : readValue fuel depth cursor = .ok (read, last)) :
    Keeps value read ∧ last.Leaves tail

theorem readValue_zero_ne (depth : Nat) (cursor : Cursor) (result : Json × Cursor) :
    readValue 0 depth cursor ≠ .ok result := by
  simp [readValue]

/-- Three values are written as words. -/
theorem traceable_word {value : Json} {first : Char} {word : List Char} (hletter : first ≠ ']')
    (hblank : isSpace first = false) (hvalue : ∀ number, value ≠ .number number)
    (hword : ∀ (fuel depth : Nat) (cursor : Cursor) (more : List Char),
      cursor.skipSpace.rest = first :: more → readValue (fuel + 1) depth cursor = do
        return (value, ← readWord cursor.skipSpace.advance word)) :
    Traceable value (first :: word) where
  begins := ⟨first, word, List.dropWhile_cons_of_neg (by simp [hblank]), hletter⟩
  leads := by
    intro fuel depth cursor last tail read htail hfaces hread
    refine ⟨fun number hnumber => absurd hnumber (hvalue number), ?_⟩
    cases fuel with
    | zero => exact absurd hread (readValue_zero_ne depth cursor _)
    | succ fuel =>
        have hnext : cursor.skipSpace.rest = first :: (word ++ tail) :=
          hfaces.skipSpace (List.dropWhile_cons_of_neg (by simp [hblank]))
        have hrest : cursor.skipSpace.advance.rest = word ++ tail := by
          rw [Cursor.rest_advance, hnext, List.tail_cons]
        obtain ⟨behind, hbehind, htail⟩ := readWord_append hrest
        rw [hword fuel depth cursor _ hnext, hbehind] at hread
        cases hread
        exact .inl (.of_rest htail)

theorem traceable_null : Traceable .null "null".toList := by
  change Traceable .null ['n', 'u', 'l', 'l']
  apply traceable_word (by decide) (by decide) (by simp)
  intro fuel depth cursor more hnext
  simp only [readValue, hnext]

theorem traceable_true : Traceable (.bool true) "true".toList := by
  change Traceable (.bool true) ['t', 'r', 'u', 'e']
  apply traceable_word (by decide) (by decide) (by simp)
  intro fuel depth cursor more hnext
  simp only [readValue, hnext]

theorem traceable_false : Traceable (.bool false) "false".toList := by
  change Traceable (.bool false) ['f', 'a', 'l', 's', 'e']
  apply traceable_word (by decide) (by decide) (by simp)
  intro fuel depth cursor more hnext
  simp only [readValue, hnext]

theorem traceable_string (text : String) : Traceable (.string text) (quoted text) where
  begins := ⟨'"', _, rfl, by decide⟩
  leads := by
    intro fuel depth cursor last tail read htail hfaces hread
    refine ⟨fun number hnumber => (nomatch hnumber), ?_⟩
    cases fuel with
    | zero => exact absurd hread (readValue_zero_ne depth cursor _)
    | succ fuel =>
        have hnext := hfaces.skipSpace rfl
        have hrest : cursor.skipSpace.advance.rest = text.toList.flatMap escape ++ '"' :: tail := by
          rw [Cursor.rest_advance, hnext]
          simp
        obtain ⟨behind, hstring, hbehind⟩ := readString_escape hrest
        simp only [readValue, hnext, hstring] at hread
        cases hread
        exact .inl (.of_rest hbehind)

/-- Where the text goes on with a character of a numeral, a value that is read is a number. -/
theorem readValue_passes {fuel depth : Nat} {cursor last : Cursor} {read : Json} {c : Char}
    {more : List Char} (hnext : cursor.skipSpace.rest = c :: more) (hc : isNumeralChar c = true)
    (hread : readValue fuel depth cursor = .ok (read, last)) : cursor.skipSpace.Passes last := by
  cases fuel with
  | zero => exact absurd hread (readValue_zero_ne depth cursor _)
  | succ fuel =>
      simp only [readValue, hnext] at hread
      split at hread
      next hrest => cases hrest
      next hrest =>
        cases hrest
        exact absurd hc (by decide)
      next hrest =>
        cases hrest
        exact absurd hc (by decide)
      next hrest =>
        cases hrest
        exact absurd hc (by decide)
      next hrest =>
        simp only [Attempt.bind_eq_ok_iff, Attempt.pure_eq_ok_iff, Prod.mk.injEq, Prod.exists] at hread
        obtain ⟨number, behind, hnumber, -, rfl⟩ := hread
        exact (Cursor.passes_advance (hnext.trans hrest) rfl).trans (readNumber_passes hnumber)
      next hrest =>
        cases hrest
        exact absurd hc (by decide)
      next hrest =>
        cases hrest
        exact absurd hc (by decide)
      next hrest =>
        cases hrest
        exact absurd hc (by decide)
      next =>
        split at hread
        next =>
          simp only [Attempt.bind_eq_ok_iff, Attempt.pure_eq_ok_iff, Prod.mk.injEq,
            Prod.exists] at hread
          obtain ⟨number, behind, hnumber, -, rfl⟩ := hread
          exact readNumber_passes hnumber
        next => simp at hread

theorem traceable_number (number : Number) :
    Traceable (.number number) (numberText number).toList := by
  have hall := allNumeral_numberText number
  obtain ⟨c, more, htext⟩ := List.exists_cons_of_ne_nil (numberText_ne_nil number)
  have hc : isNumeralChar c = true := hall c (by rw [htext]; exact List.mem_cons_self)
  have hblank : ¬isSpace c = true := by
    intro hspace
    simp only [isSpace, Bool.or_eq_true, beq_iff_eq] at hspace
    rcases hspace with ((rfl | rfl) | rfl) | rfl <;> exact absurd hc (by decide)
  have hdrop : (numberText number).toList.dropWhile isSpace = c :: more := by
    rw [htext, List.dropWhile_cons_of_neg hblank]
  refine ⟨⟨c, more, hdrop, ?_⟩, ?_⟩
  · rintro rfl
    exact absurd hc (by decide)
  · intro fuel depth cursor last tail read htail hfaces hread
    have hnext : cursor.skipSpace.rest = c :: (more ++ tail) :=
      hfaces.skipSpace (dropWhile_append_of_begins hdrop tail)
    constructor
    · intro other hother hback
      cases hother
      cases fuel with
      | zero => exact absurd hread (readValue_zero_ne depth cursor _)
      | succ fuel =>
          obtain ⟨behind, hback, -⟩ :=
            readValue_of_readsBack fuel depth hback htail.endsNumeral hfaces
          rw [hread] at hback
          cases hback
          rfl
    · -- a numeral that is not read back may be left in its middle, but not behind its end
      refine (readValue_passes hnext hc hread).leaves ?_ hall htail
      rw [hnext, htext, List.cons_append]

/-- Blanks in front of a text change nothing. -/
theorem Traceable.padded {value : Json} {text gap : List Char} (hgap : Blanks gap)
    (htext : Traceable value text) : Traceable value (gap ++ text) where
  begins := by
    rw [dropWhile_gap hgap]
    exact htext.begins
  leads := by
    intro fuel depth cursor last tail read htail hfaces hread
    rw [List.append_assoc] at hfaces
    exact htext.leads htail (hfaces.trans (dropWhile_gap hgap)) hread

/-! ## Arrays -/

section Arrays

variable {cursor start last : Cursor} {fuel depth : Nat} {items reads : List Json} {value : Json}
  {text : Json → List Char} {more tail gap : List Char} {first : Bool}

/-- What was read of an array from the start of an item on. -/
theorem readItems_ok_of_next {middle : Cursor} (hitem : Traceable value more)
    (hnext : nextItem first cursor = .ok (some start, middle)) (htail : Parts tail)
    (hfaces : start.Faces (more ++ tail))
    (hread : readItems (fuel + 1) depth first cursor = .ok (reads, last)) :
    ∃ behind rest, behind.Leaves tail ∧ readItems fuel depth false behind = .ok (rest, last) := by
  rw [readItems_of_next depth hnext] at hread
  simp only [Attempt.bind_eq_ok_iff, Attempt.pure_eq_ok_iff, Prod.mk.injEq, Prod.exists] at hread
  obtain ⟨read, behind, hvalue, rest, beyond, hrest, -, rfl⟩ := hread
  exact ⟨behind, rest, (hitem.leads htail hfaces hvalue).2, hrest⟩

theorem readItems_close_ok (hgap : Blanks gap) (hfaces : cursor.Faces (gap ++ ']' :: tail))
    (hread : readItems (fuel + 1) depth first cursor = .ok (reads, last)) : last.Faces tail := by
  have hnext : cursor.skipSpace.rest = ']' :: tail :=
    hfaces.skipSpace ((dropWhile_gap hgap).trans rfl)
  rw [readItems, nextItem_of_close hnext] at hread
  cases hread
  exact .of_rest (by rw [Cursor.rest_advance, hnext, List.tail_cons])

theorem nextItem_ok_of_readItems (hread : readItems fuel depth first cursor = .ok (reads, last)) :
    ∃ less next, fuel = less + 1 ∧ nextItem first cursor = .ok next := by
  cases fuel with
  | zero => simp [readItems] at hread
  | succ less =>
      rw [readItems, Attempt.bind_eq_ok_iff] at hread
      obtain ⟨next, hnext, -⟩ := hread
      exact ⟨less, next, rfl, hnext⟩

/-- Whoever reads the items behind the first one comes to stand behind their array. -/
theorem readItems_behind_ok (hgap : Blanks gap) (hitems : ∀ item ∈ items, Traceable item (text item))
    (hleaves : cursor.Leaves ((items.map text).flatMap (',' :: ·) ++ (gap ++ ']' :: tail)))
    (hread : readItems fuel depth false cursor = .ok (reads, last)) : last.Faces tail := by
  induction items generalizing fuel cursor reads with
  | nil =>
      obtain ⟨less, next, rfl, hnext⟩ := nextItem_ok_of_readItems hread
      exact readItems_close_ok hgap (hleaves.of_nextItem hnext) hread
  | cons item rest ih =>
      obtain ⟨less, next, rfl, hnext⟩ := nextItem_ok_of_readItems hread
      have hfaces := hleaves.of_nextItem hnext
      simp only [List.map_cons, List.flatMap_cons, List.cons_append, List.append_assoc] at hfaces
      obtain ⟨hitem, hrest⟩ := List.forall_mem_cons.mp hitems
      obtain ⟨c, more, hbegins, hopen⟩ := hitem.begins
      have hdrop := dropWhile_append_of_begins hbegins
        ((rest.map text).flatMap (',' :: ·) ++ (gap ++ ']' :: tail))
      obtain ⟨start, hstart, hstarts⟩ := nextItem_of_comma (hfaces.skipSpace rfl) hdrop hopen
      have hfacing : start.Faces
          (text item ++ ((rest.map text).flatMap (',' :: ·) ++ (gap ++ ']' :: tail))) := by
        rw [Cursor.Faces, hstarts, ← hdrop, List.dropWhile_idempotent]
      obtain ⟨behind, later, hbehind, hlater⟩ :=
        readItems_ok_of_next hitem hstart (parts_separated _ hgap rfl) hfacing hread
      exact ih hrest hbehind hlater

theorem readItems_all_ok (hgap : Blanks gap) (hitems : ∀ item ∈ items, Traceable item (text item))
    (hfaces : cursor.Faces (separated (items.map text) ++ (gap ++ ']' :: tail)))
    (hread : readItems fuel depth true cursor = .ok (reads, last)) : last.Faces tail := by
  obtain ⟨less, next, rfl, -⟩ := nextItem_ok_of_readItems hread
  cases items with
  | nil => exact readItems_close_ok hgap hfaces hread
  | cons item rest =>
      rw [List.map_cons, separated, List.append_assoc] at hfaces
      obtain ⟨hitem, hrest⟩ := List.forall_mem_cons.mp hitems
      obtain ⟨c, more, hbegins, hopen⟩ := hitem.begins
      have hdrop := dropWhile_append_of_begins hbegins
        ((rest.map text).flatMap (',' :: ·) ++ (gap ++ ']' :: tail))
      have hstart := nextItem_of_first (hfaces.skipSpace hdrop) hopen
      have hfacing : cursor.skipSpace.Faces
          (text item ++ ((rest.map text).flatMap (',' :: ·) ++ (gap ++ ']' :: tail))) := by
        rw [Cursor.Faces, Cursor.rest_skipSpace, List.dropWhile_idempotent]
        exact hfaces
      obtain ⟨behind, later, hbehind, hlater⟩ :=
        readItems_ok_of_next hitem hstart (parts_separated _ hgap rfl) hfacing hread
      exact readItems_behind_ok hgap hrest hbehind hlater

theorem Traceable.array (hgap : Blanks gap) (hitems : ∀ item ∈ items, Traceable item (text item)) :
    Traceable (.array items) ('[' :: (separated (items.map text) ++ gap ++ [']'])) where
  begins := ⟨'[', _, rfl, by decide⟩
  leads := by
    intro fuel depth cursor last tail read htail hfaces hread
    refine ⟨fun number hnumber => (nomatch hnumber), ?_⟩
    have hnext := hfaces.skipSpace rfl
    cases fuel with
    | zero => exact absurd hread (readValue_zero_ne depth cursor _)
    | succ fuel =>
        match depth with
        | 0 | 1 =>
            simp only [readValue, hnext] at hread
            exact absurd hread (by simp)
        | limit + 2 =>
            have hbody : cursor.skipSpace.advance.Faces
                (separated (items.map text) ++ (gap ++ ']' :: tail)) := by
              refine .of_rest ?_
              rw [Cursor.rest_advance, hnext]
              simp
            rw [readValue_of_bracket limit hnext] at hread
            simp only [Attempt.bind_eq_ok_iff, Attempt.pure_eq_ok_iff, Prod.mk.injEq,
              Prod.exists] at hread
            obtain ⟨reads, behind, hitemsRead, -, rfl⟩ := hread
            exact .inl (readItems_all_ok hgap hitems hbody hitemsRead)

end Arrays

/-! ## Objects -/

section Objects

variable {cursor start last : Cursor} {fuel depth : Nat} {name : String} {value : Json}
  {members reads : List (String × Json)} {text : Json → List Char} {more tail before gap : List Char}
  {first : Bool}

/-- Whether members that were read have the names of the written ones, and the values of those which
are read back. -/
def Mirrors (members reads : List (String × Json)) : Prop :=
  List.Forall₂ (fun written read => read.1 = written.1 ∧ Keeps written.2 read.2) members reads

theorem nextMember_ok_of_readMembers
    (hread : readMembers fuel depth first cursor = .ok (reads, last)) :
    ∃ less next, fuel = less + 1 ∧ nextMember first cursor = .ok next := by
  cases fuel with
  | zero => simp [readMembers] at hread
  | succ less =>
      rw [readMembers, Attempt.bind_eq_ok_iff] at hread
      obtain ⟨next, hnext, -⟩ := hread
      exact ⟨less, next, rfl, hnext⟩

/-- What was read of an object from a member's name on. -/
theorem readMembers_ok_of_next {middle : Cursor} (hvalue : Traceable value more)
    (hnext : nextMember first cursor = .ok (some start, middle))
    (hstart : start.rest = name.toList.flatMap escape ++ '"' :: ':' :: (more ++ tail))
    (htail : Parts tail) (hread : readMembers (fuel + 1) depth first cursor = .ok (reads, last)) :
    ∃ behind read rest, reads = (name, read) :: rest ∧ Keeps value read ∧ behind.Leaves tail ∧
      readMembers fuel depth false behind = .ok (rest, last) := by
  obtain ⟨named, hname, hnamed⟩ := readString_escape hstart
  obtain ⟨colon, hcolon, hbehind⟩ := readColon_of_rest hnamed
  rw [readMembers_of_next depth hnext hname hcolon] at hread
  simp only [Attempt.bind_eq_ok_iff, Attempt.pure_eq_ok_iff, Prod.mk.injEq, Prod.exists] at hread
  obtain ⟨read, behind, hvalueRead, rest, beyond, hrest, rfl, rfl⟩ := hread
  obtain ⟨hkeeps, hleaves⟩ := hvalue.leads htail (.of_rest hbehind) hvalueRead
  exact ⟨behind, read, rest, rfl, hkeeps, hleaves, hrest⟩

theorem readMembers_close_ok (hgap : Blanks gap) (hfaces : cursor.Faces (gap ++ '\x7d' :: tail))
    (hread : readMembers (fuel + 1) depth first cursor = .ok (reads, last)) :
    Mirrors [] reads ∧ last.Faces tail := by
  have hnext : cursor.skipSpace.rest = '\x7d' :: tail :=
    hfaces.skipSpace ((dropWhile_gap hgap).trans rfl)
  rw [readMembers, nextMember_of_close hnext] at hread
  cases hread
  exact ⟨.nil, .of_rest (by rw [Cursor.rest_advance, hnext, List.tail_cons])⟩

/-- Whoever reads the members behind the first one has read their names. -/
theorem readMembers_behind_ok (hbefore : Blanks before) (hgap : Blanks gap)
    (hmembers : ∀ entry ∈ members, Traceable entry.2 (text entry.2))
    (hleaves : cursor.Leaves
      ((members.map (memberText before text)).flatMap (',' :: ·) ++ (gap ++ '\x7d' :: tail)))
    (hread : readMembers fuel depth false cursor = .ok (reads, last)) :
    Mirrors members reads ∧ last.Faces tail := by
  induction members generalizing fuel cursor reads with
  | nil =>
      obtain ⟨less, next, rfl, hnext⟩ := nextMember_ok_of_readMembers hread
      exact readMembers_close_ok hgap (hleaves.of_nextMember hnext) hread
  | cons entry rest ih =>
      obtain ⟨less, next, rfl, hnext⟩ := nextMember_ok_of_readMembers hread
      have hfaces := hleaves.of_nextMember hnext
      simp only [List.map_cons, List.flatMap_cons, List.cons_append, List.append_assoc] at hfaces
      obtain ⟨hentry, hrest⟩ := List.forall_mem_cons.mp hmembers
      obtain ⟨start, middle, hstart, hstarts⟩ := nextMember_of_comma (hfaces.skipSpace rfl)
        (dropWhile_memberText hbefore text entry _)
      obtain ⟨behind, read, later, rfl, hkeeps, hbehind, hlater⟩ :=
        readMembers_ok_of_next hentry hstart hstarts (parts_separated _ hgap rfl) hread
      obtain ⟨hmirrors, hend⟩ := ih hrest hbehind hlater
      exact ⟨.cons ⟨rfl, hkeeps⟩ hmirrors, hend⟩

theorem readMembers_all_ok (hbefore : Blanks before) (hgap : Blanks gap)
    (hmembers : ∀ entry ∈ members, Traceable entry.2 (text entry.2))
    (hfaces : cursor.Faces
      (separated (members.map (memberText before text)) ++ (gap ++ '\x7d' :: tail)))
    (hread : readMembers fuel depth true cursor = .ok (reads, last)) :
    Mirrors members reads ∧ last.Faces tail := by
  obtain ⟨less, next, rfl, -⟩ := nextMember_ok_of_readMembers hread
  cases members with
  | nil => exact readMembers_close_ok hgap hfaces hread
  | cons entry rest =>
      rw [List.map_cons, separated, List.append_assoc] at hfaces
      obtain ⟨hentry, hrest⟩ := List.forall_mem_cons.mp hmembers
      obtain ⟨start, middle, hstart, hstarts⟩ := nextMember_of_first
        (hfaces.skipSpace (dropWhile_memberText hbefore text entry _))
      obtain ⟨behind, read, later, rfl, hkeeps, hbehind, hlater⟩ :=
        readMembers_ok_of_next hentry hstart hstarts (parts_separated _ hgap rfl) hread
      obtain ⟨hmirrors, hend⟩ := readMembers_behind_ok hbefore hgap hrest hbehind hlater
      exact ⟨.cons ⟨rfl, hkeeps⟩ hmirrors, hend⟩

/-- An object that is read has members that mirror the written ones. -/
theorem readValue_object_ok {read : Json} (hbefore : Blanks before) (hgap : Blanks gap)
    (hmembers : ∀ entry ∈ members, Traceable entry.2 (text entry.2))
    (hfaces : cursor.Faces
      ('\x7b' :: (separated (members.map (memberText before text)) ++ gap ++ ['\x7d']) ++ tail))
    (hread : readValue fuel depth cursor = .ok (read, last)) :
    ∃ reads, read = .object reads ∧ Mirrors members reads ∧ last.Faces tail := by
  have hnext := hfaces.skipSpace rfl
  cases fuel with
  | zero => exact absurd hread (readValue_zero_ne depth cursor _)
  | succ fuel =>
      match depth with
      | 0 | 1 =>
          simp only [readValue, hnext] at hread
          exact absurd hread (by simp)
      | limit + 2 =>
          have hbody : cursor.skipSpace.advance.Faces
              (separated (members.map (memberText before text)) ++ (gap ++ '\x7d' :: tail)) := by
            refine .of_rest ?_
            rw [Cursor.rest_advance, hnext]
            simp
          rw [readValue_of_brace limit hnext] at hread
          simp only [Attempt.bind_eq_ok_iff, Attempt.pure_eq_ok_iff, Prod.mk.injEq,
            Prod.exists] at hread
          obtain ⟨reads, behind, hmembersRead, rfl, rfl⟩ := hread
          exact ⟨reads, rfl, readMembers_all_ok hbefore hgap hmembers hbody hmembersRead⟩

theorem Traceable.object (text : Json → List Char) (hbefore : Blanks before) (hgap : Blanks gap)
    (hmembers : ∀ entry ∈ members, Traceable entry.2 (text entry.2)) :
    Traceable (.object members)
      ('\x7b' :: (separated (members.map (memberText before text)) ++ gap ++ ['\x7d'])) where
  begins := ⟨'\x7b', _, rfl, by decide⟩
  leads := by
    intro fuel depth cursor last tail read htail hfaces hread
    obtain ⟨reads, -, -, hend⟩ := readValue_object_ok hbefore hgap hmembers hfaces hread
    exact ⟨fun number hnumber => (nomatch hnumber), .inl hend⟩

end Objects

/-! ## Written values -/

theorem eachNumber_of_forall {property : Number → Prop} (hall : ∀ value, property value) :
    ∀ value : Json, value.EachNumber property
  | .null => .null
  | .bool value => .bool value
  | .number value => .number (hall value)
  | .string text => .string text
  | .array items => .array fun item _ => eachNumber_of_forall hall item
  | .object members => .object fun entry _ => eachNumber_of_forall hall entry.2
termination_by value => sizeOf value
decreasing_by
  · have hless := List.sizeOf_lt_of_mem ‹item ∈ items›
    simp only [array.sizeOf_spec]
    omega
  · have hless := List.sizeOf_lt_of_mem ‹entry ∈ members›
    cases entry
    simp only [Prod.mk.sizeOf_spec, object.sizeOf_spec] at hless ⊢
    omega

/-- The indented form of a value, whatever its numbers are. -/
theorem traceable_indentedChars (value : Json) (level : Nat) :
    Traceable value (indentedChars level value) := by
  have hany : value.EachNumber fun _ => True := eachNumber_of_forall (fun _ => trivial) value
  induction hany generalizing level with
  | null => exact traceable_null
  | bool value =>
      cases value with
      | true => exact traceable_true
      | false => exact traceable_false
  | @number number _ => exact traceable_number number
  | string text => exact traceable_string text
  | @array items _ ih =>
      cases items with
      | nil => exact Traceable.array blanks_nil fun item hitem => ih item hitem level
      | cons item rest =>
          have htraceable := Traceable.array (blanks_newline level)
            fun item hitem => (ih item hitem (level + 1)).padded (blanks_newline (level + 1))
          rw [← indentedItems_eq] at htraceable
          exact htraceable
  | @object members _ ih =>
      have hspace : Blanks [' '] := fun c hc => by rw [List.mem_singleton.mp hc]; rfl
      cases members with
      | nil =>
          exact Traceable.object (indentedChars level) blanks_nil blanks_nil
            fun entry hentry => ih entry hentry level
      | cons entry rest =>
          have htraceable := Traceable.object (fun value => ' ' :: indentedChars (level + 1) value)
            (blanks_newline (level + 1)) (blanks_newline level)
            fun entry hentry => (ih entry hentry (level + 1)).padded hspace
          rw [← indentedMembers_eq] at htraceable
          exact htraceable

theorem Mirrors.names {members reads : List (String × Json)} (hmirrors : Mirrors members reads) :
    reads.map Prod.fst = members.map Prod.fst := by
  induction hmirrors with
  | nil => rfl
  | cons hentry _ ih => rw [List.map_cons, List.map_cons, hentry.1, ih]

theorem Mirrors.lookup? {members reads : List (String × Json)} (hmirrors : Mirrors members reads)
    {name : String} {number : Number} (hfound : lookup? name members = some (.number number))
    (hback : ReadsBack number) : Json.lookup? name reads = some (.number number) := by
  induction hmirrors with
  | nil => exact hfound
  | @cons written read _ _ hentry _ ih =>
      obtain ⟨other, value⟩ := written
      obtain ⟨same, back⟩ := read
      obtain ⟨rfl, hkeeps⟩ := hentry
      rw [lookup?_cons] at hfound ⊢
      by_cases hname : same = name
      · rw [if_pos hname] at hfound ⊢
        have hback : back = value := hkeeps number (Option.some.inj hfound) hback
        rwa [hback]
      · rw [if_neg hname] at hfound ⊢
        exact ih hfound

/-- What is read of the indented form of an object mirrors it, before it is put in order. -/
theorem mirrors_of_readText {members : List (String × Json)} {value : Json}
    (hread : readText (renderIndented (.object members)) = .ok value) :
    ∃ reads, value = .object reads ∧ Mirrors members reads := by
  have hspace : Blanks [' '] := fun c hc => by rw [List.mem_singleton.mp hc]; rfl
  simp only [readText, renderIndented, String.toList_ofList, Attempt.bind_eq_ok_iff,
    Attempt.pure_eq_ok_iff, Prod.exists] at hread
  obtain ⟨read, last, hvalue, -, -, rfl⟩ := hread
  cases members with
  | nil =>
      have hfaces : (Cursor.start (indentedChars 0 (.object []))).Faces
          ('\x7b' :: (separated ([].map (memberText [] (indentedChars 0))) ++ [] ++ ['\x7d']) ++ []) :=
        rfl
      obtain ⟨reads, rfl, hmirrors, -⟩ := readValue_object_ok blanks_nil blanks_nil
        (fun entry hentry => absurd hentry List.not_mem_nil) hfaces hvalue
      exact ⟨reads, rfl, hmirrors⟩
  | cons entry rest =>
      have hfaces : (Cursor.start (indentedChars 0 (.object (entry :: rest)))).Faces
          ('\x7b' :: (separated ((entry :: rest).map (memberText (newline 1) fun value =>
            ' ' :: indentedChars 1 value)) ++ newline 0 ++ ['\x7d']) ++ []) := by
        rw [← indentedMembers_eq, List.append_nil]
        rfl
      obtain ⟨reads, rfl, hmirrors, -⟩ := readValue_object_ok (blanks_newline 1) (blanks_newline 0)
        (fun entry _ => (traceable_indentedChars entry.2 1).padded hspace) hfaces hvalue
      exact ⟨reads, rfl, hmirrors⟩

/-- What is read of the indented form of an object has the value of every name that stands there
once, if that is a number which is read back. -/
theorem member?_of_parse {members : List (String × Json)} {value : Json}
    (hparse : parse (renderIndented (.object members)) = .ok value)
    (hnodup : (members.map Prod.fst).Nodup) {name : String} {number : Number}
    (hfound : lookup? name members = some (.number number)) (hback : ReadsBack number) :
    value.member? name = some (.number number) := by
  rw [parse, Attempt.map_eq_ok_iff] at hparse
  obtain ⟨read, hread, rfl⟩ := hparse
  obtain ⟨reads, rfl, hmirrors⟩ := mirrors_of_readText hread
  obtain ⟨ordered, hsorted, -, hlookup⟩ := sorted_object reads
  have hnames : (reads.map Prod.fst).Nodup := by rwa [hmirrors.names]
  rw [hsorted, member?_object, hlookup hnames name, hmirrors.lookup? hfound hback]
  rfl

end PromptScript.Json
