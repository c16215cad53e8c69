import Mathlib.Data.List.DropRight
import PromptScript.Proofs.Json.ReadBack
import PromptScript.Proofs.Text.Trim

/-!
# Blanks around a text

What the reader reads in front of blanks it reads again where they are gone.  Two readers that
stand in front of the same text, one with blanks behind it, go the same way: neither can take a
character of the blanks for one of the text, and where one skips to the end of its blanks and
would fail there, so would the other.
-/

namespace PromptScript.Json

open Cursor (isSpace)

/-! ## Going the same way -/

section Steps

variable {α β : Type} {text left tail other more : List Char} {near far : Cursor} {c : Char}

/-- A character in front of blanks that is none itself belongs to the text. -/
theorem exists_cons_of_blanks (hblanks : Blanks tail) (hrest : text ++ tail = c :: more)
    (hc : isSpace c = false) : ∃ left, text = c :: left ∧ left ++ tail = more := by
  cases text with
  | nil =>
      rw [List.nil_append] at hrest
      rw [hblanks c (hrest ▸ List.mem_cons_self)] at hc
      cases hc
  | cons first left =>
      cases hrest
      exact ⟨left, rfl, rfl⟩

theorem Cursor.shares_past (near far : Cursor) (c d : Char) (left tail other : List Char) :
    Cursor.Shares left tail other (near.past c (left ++ tail)) (far.past d (left ++ other)) :=
  ⟨rest_past _ _ _, rest_past _ _ _⟩

/-- Where anything but blanks is left, it is left of the shared text. -/
theorem Cursor.Shares.skipSpace (hblanks : Blanks tail)
    (hshares : Cursor.Shares text tail other near far) (hrest : near.skipSpace.rest = c :: more) :
    ∃ left, c :: left <:+ text ∧ left ++ tail = more ∧
      Cursor.Shares (c :: left) tail other near.skipSpace far.skipSpace := by
  rw [rest_skipSpace, hshares.near_rest, List.dropWhile_append] at hrest
  cases hdrop : text.dropWhile isSpace with
  | nil =>
      have hnone : tail.dropWhile isSpace = [] := List.dropWhile_eq_nil_iff.mpr hblanks
      simp [hdrop, hnone] at hrest
  | cons first left =>
      rw [hdrop, if_neg (by simp)] at hrest
      cases hrest
      refine ⟨left, hdrop ▸ List.dropWhile_suffix _, rfl, ?_, ?_⟩
      · rw [rest_skipSpace, hshares.near_rest, List.dropWhile_append, hdrop, if_neg (by simp)]
      · rw [rest_skipSpace, hshares.far_rest, List.dropWhile_append, hdrop, if_neg (by simp)]

theorem Repeats.of_ok (hshares : Cursor.Shares text tail other near far) (value : α) :
    Repeats text tail other (.ok (value, near)) (.ok (value, far)) := by
  intro result behind hread
  cases hread
  exact ⟨text, far, rfl, List.suffix_rfl, hshares⟩

theorem Repeats.of_fail (fault : Fault) (again : Except ReadError (α × Cursor)) :
    Repeats text tail other (near.fail fault) again := by
  intro result behind hread
  cases hread

theorem Repeats.of_failNext (fault : Fault) (again : Except ReadError (α × Cursor)) :
    Repeats text tail other (near.failNext fault) again := by
  intro result behind hread
  exact absurd hread (by simp)

theorem Repeats.bind {first again : Except ReadError (α × Cursor)}
    {next nextAgain : α × Cursor → Except ReadError (β × Cursor)}
    (hfirst : Repeats text tail other first again)
    (hnext : ∀ value left behind beyond, left <:+ text →
      Cursor.Shares left tail other behind beyond →
      Repeats left tail other (next (value, behind)) (nextAgain (value, beyond))) :
    Repeats text tail other (first >>= next) (again >>= nextAgain) := by
  intro result last hread
  rw [Attempt.bind_eq_ok_iff] at hread
  obtain ⟨⟨value, behind⟩, hvalue, hresult⟩ := hread
  obtain ⟨left, beyond, hagain, hleft, hshares⟩ := hfirst value behind hvalue
  rw [hagain]
  exact (hnext value left behind beyond hleft hshares).mono hleft result last hresult

theorem Repeats.map {first again : Except ReadError (α × Cursor)} (f : α → β)
    (hfirst : Repeats text tail other first again) :
    Repeats text tail other (do
      let (value, behind) ← first
      return (f value, behind)) (do
      let (value, behind) ← again
      return (f value, behind)) := by
  apply hfirst.bind
  intro value left behind beyond hleft hshares
  exact .of_ok hshares (f value)

/-- What is read again of a list follows from what is read again of its first entry and behind
it. -/
theorem Repeats.cons {first again : Except ReadError (α × Cursor)}
    {next nextAgain : Cursor → Except ReadError (List β × Cursor)} (f : α → β)
    (hfirst : Repeats text tail other first again)
    (hnext : ∀ left behind beyond, left <:+ text → Cursor.Shares left tail other behind beyond →
      Repeats left tail other (next behind) (nextAgain beyond)) :
    Repeats text tail other (do
      let (value, behind) ← first
      let (rest, last) ← next behind
      return (f value :: rest, last)) (do
      let (value, behind) ← again
      let (rest, last) ← nextAgain behind
      return (f value :: rest, last)) := by
  apply hfirst.bind
  intro value left behind beyond hleft hshares
  exact (hnext left behind beyond hleft hshares).map (f value :: ·)

end Steps

/-! ## Words and strings -/

section Strings

variable {α : Type} {text tail other : List Char} {near far : Cursor}

theorem readWord_repeats (hblanks : Blanks tail) {word : List Char}
    (hword : ∀ c ∈ word, isSpace c = false) (hshares : Cursor.Shares text tail other near far)
    (value : α) :
    Repeats text tail other (do return (value, ← readWord near word))
      (do return (value, ← readWord far word)) := by
  induction word generalizing near far text with
  | nil => exact .of_ok hshares value
  | cons expected rest ih =>
      obtain ⟨hexpected, hrest⟩ := List.forall_mem_cons.mp hword
      rw [readWord, readWord]
      split
      next => exact .of_fail _ _
      next c more hnear =>
        split
        next hc =>
          subst hc
          obtain ⟨left, rfl, -⟩ :=
            exists_cons_of_blanks hblanks (hshares.near_rest.symm.trans hnear) hexpected
          rw [hshares.far_rest, List.cons_append]
          simp only [if_true]
          exact (ih hrest hshares.advance).mono (List.suffix_cons _ _)
        next =>
          intro result behind hread
          rw [Attempt.bind_eq_ok_iff] at hread
          obtain ⟨_, hfail, -⟩ := hread
          simp at hfail

theorem not_isSpace_of_hexDigit? {c : Char} {value : Nat} (hdigit : hexDigit? c = some value) :
    isSpace c = false := by
  cases hspace : isSpace c with
  | false => rfl
  | true =>
      simp only [isSpace, Bool.or_eq_true, beq_iff_eq] at hspace
      rcases hspace with ((rfl | rfl) | rfl) | rfl <;> cases hdigit

theorem readFourHex_repeats (hblanks : Blanks tail)
    (hshares : Cursor.Shares text tail other near far) :
    Repeats text tail other (readFourHex near) (readFourHex far) := by
  intro code behind hread
  rw [readFourHex] at hread
  split at hread
  next a b c d more hnear =>
    split at hread
    next ha hb hc hd =>
      cases hread
      rw [hshares.near_rest] at hnear
      obtain ⟨_, rfl, hsecond⟩ := exists_cons_of_blanks hblanks hnear (not_isSpace_of_hexDigit? ha)
      obtain ⟨_, rfl, hthird⟩ := exists_cons_of_blanks hblanks hsecond (not_isSpace_of_hexDigit? hb)
      obtain ⟨_, rfl, hfourth⟩ := exists_cons_of_blanks hblanks hthird (not_isSpace_of_hexDigit? hc)
      obtain ⟨left, rfl, -⟩ := exists_cons_of_blanks hblanks hfourth (not_isSpace_of_hexDigit? hd)
      refine ⟨left, far.advance.advance.advance.advance, ?_, ⟨[a, b, c, d], rfl⟩,
        hshares.advance.advance.advance.advance⟩
      simp only [readFourHex, hshares.far_rest, List.cons_append, ha, hb, hc, hd]
    next => cases hread
  next => cases hread

theorem readUnicodeEscape_repeats (hblanks : Blanks tail)
    (hshares : Cursor.Shares text tail other near far) :
    Repeats text tail other (readUnicodeEscape near) (readUnicodeEscape far) := by
  unfold readUnicodeEscape
  refine (readFourHex_repeats hblanks hshares).bind ?_
  intro first left behind beyond hleft hshares
  dsimp only
  by_cases hlone : 0xDC00 ≤ first ∧ first ≤ 0xDFFF
  · rw [if_pos hlone]
    exact .of_fail _ _
  rw [if_neg hlone, if_neg hlone]
  by_cases hsingle : first < 0xD800 ∨ 0xDBFF < first
  · rw [if_pos hsingle, if_pos hsingle]
    exact .of_ok hshares _
  rw [if_neg hsingle, if_neg hsingle]
  split
  next => exact .of_fail _ _
  next => exact .of_fail _ _
  next more hnear =>
    rw [hshares.near_rest] at hnear
    obtain ⟨_, rfl, hsecond⟩ := exists_cons_of_blanks hblanks hnear rfl
    obtain ⟨later, rfl, -⟩ := exists_cons_of_blanks hblanks hsecond rfl
    rw [hshares.far_rest]
    apply Repeats.mono _ (List.suffix_append ['\\', 'u'] later)
    apply (readFourHex_repeats hblanks hshares.advance.advance).bind
    intro second left behind beyond hleft hshares
    dsimp only
    split
    next => exact .of_fail _ _
    next => exact .of_ok hshares _
  next => exact .of_failNext _ _
  next => exact .of_failNext _ _

/-- What a mark behind a backslash stands for, if it is not the mark of a code. -/
def escaped? (mark : Char) : Option Char :=
  ((('/', '/') :: marks).find? fun entry => mark = entry.1).map Prod.snd

theorem readEscape_eq {cursor : Cursor} {mark : Char} {more : List Char}
    (hrest : cursor.rest = mark :: more) :
    readEscape cursor =
      if mark = 'u' then readUnicodeEscape cursor.advance
      else
        match escaped? mark with
        | some c => .ok (c, cursor.advance)
        | none => cursor.failNext .invalidEscape := by
  rw [readEscape, hrest]
  split
  next hnil => cases hnil
  rotate_right
  next =>
    simp_all [escaped?, marks]
  all_goals
    next hcons =>
      cases hcons
      rfl

theorem escaped?_of_isSpace {c : Char} (hspace : isSpace c = true) :
    c ≠ 'u' ∧ escaped? c = none := by
  simp only [isSpace, Bool.or_eq_true, beq_iff_eq] at hspace
  rcases hspace with ((rfl | rfl) | rfl) | rfl <;> decide

theorem readEscape_repeats (hblanks : Blanks tail)
    (hshares : Cursor.Shares text tail other near far) :
    Repeats text tail other (readEscape near) (readEscape far) := by
  cases text with
  | nil =>
      have hnear := hshares.near_rest
      rw [List.nil_append] at hnear
      cases tail with
      | nil =>
          rw [readEscape, hnear]
          exact .of_fail _ _
      | cons blank more =>
          obtain ⟨hcode, hmark⟩ := escaped?_of_isSpace (hblanks blank List.mem_cons_self)
          rw [readEscape_eq hnear, if_neg hcode, hmark]
          exact .of_failNext _ _
  | cons mark left =>
      have hleft := List.suffix_cons mark left
      rw [readEscape_eq hshares.near_rest, readEscape_eq hshares.far_rest]
      split
      next => exact (readUnicodeEscape_repeats hblanks hshares.advance).mono hleft
      next =>
        split
        next c hc => exact (Repeats.of_ok hshares.advance c).mono hleft
        next => exact .of_failNext _ _

/-- A string cannot end in front of its quote. -/
theorem readStringBody_of_blanks {fuel : Nat} {cursor : Cursor} (hblanks : Blanks cursor.rest)
    (read : List Char) (result : List Char × Cursor) :
    readStringBody fuel cursor read ≠ .ok result := by
  induction fuel generalizing cursor read with
  | zero => simp [readStringBody]
  | succ fuel ih =>
      rw [readStringBody]
      split
      next => simp
      next c rest hrest =>
        obtain ⟨hspace, hlater⟩ := List.forall_mem_cons.mp (hrest ▸ hblanks)
        have hquote : c ≠ '"' := by
          rintro rfl
          cases hspace
        have hbackslash : c ≠ '\\' := by
          rintro rfl
          cases hspace
        rw [if_neg hquote, if_neg hbackslash]
        split
        next => simp
        next => exact ih (by rwa [Cursor.rest_past]) _

theorem readStringBody_repeats (hblanks : Blanks tail) {fuel enough : Nat}
    (hshares : Cursor.Shares text tail other near far) (henough : text.length < enough)
    (read : List Char) :
    Repeats text tail other (readStringBody fuel near read) (readStringBody enough far read) := by
  induction fuel generalizing enough near far text read with
  | zero => exact .of_fail _ _
  | succ fuel ih =>
      cases text with
      | nil =>
          intro result behind hread
          have hnear : Blanks near.rest := by rwa [hshares.near_rest, List.nil_append]
          exact absurd hread (readStringBody_of_blanks hnear read _)
      | cons c left =>
          obtain ⟨enough, rfl⟩ := Nat.exists_eq_add_of_lt henough
          have hleft := List.suffix_cons c left
          have hpast := Cursor.shares_past near far c c left tail other
          rw [readStringBody, readStringBody, hshares.near_rest, hshares.far_rest]
          simp only [List.cons_append]
          by_cases hquote : c = '"'
          · rw [if_pos hquote, if_pos hquote]
            exact (Repeats.of_ok hpast _).mono hleft
          rw [if_neg hquote, if_neg hquote]
          by_cases hbackslash : c = '\\'
          · rw [if_pos hbackslash, if_pos hbackslash]
            intro result last hread
            split at hread
            next escaped behind hescape =>
              obtain ⟨later, beyond, hfar, hlater, hshares⟩ :=
                readEscape_repeats hblanks hpast escaped behind hescape
              have hfewer := hlater.length_le
              rw [hfar]
              refine ((ih hshares ?_ _).mono (hlater.trans hleft)) result last hread
              rw [List.length_cons]
              omega
            next => cases hread
          rw [if_neg hbackslash, if_neg hbackslash]
          split
          next => exact .of_fail _ _
          next => exact (ih hpast (by simp; omega) _).mono hleft

theorem readString_repeats (hblanks : Blanks tail)
    (hshares : Cursor.Shares text tail other near far) :
    Repeats text tail other (readString near) (readString far) := by
  intro result behind hread
  rw [readString, Attempt.map_eq_ok_iff] at hread
  obtain ⟨⟨body, last⟩, hbody, hresult⟩ := hread
  cases hresult
  have henough : text.length < far.rest.length + 1 := by
    rw [hshares.far_rest, List.length_append]
    omega
  obtain ⟨left, beyond, hfar, hleft, hstop⟩ :=
    readStringBody_repeats hblanks hshares henough [] body behind hbody
  exact ⟨left, beyond, by rw [readString, hfar]; rfl, hleft, hstop⟩

end Strings

/-! ## Arrays and objects -/

section Parts

variable {text tail other : List Char} {near far : Cursor} {first : Bool}

theorem readColon_repeats (hblanks : Blanks tail) (hshares : Cursor.Shares text tail other near far)
    {behind : Cursor} (hread : readColon near = .ok behind) :
    ∃ left beyond, readColon far = .ok beyond ∧ left <:+ text ∧
      Cursor.Shares left tail other behind beyond := by
  simp only [readColon] at hread
  split at hread
  next more hnear =>
    cases hread
    obtain ⟨left, hleft, -, hskip⟩ := hshares.skipSpace hblanks hnear
    refine ⟨left, _, ?_, (List.suffix_cons _ _).trans hleft, hskip.advance⟩
    simp only [readColon, hskip.far_rest, List.cons_append]
  next => cases hread
  next => simp at hread

/-- Whether a second attempt to find a part of an array or object ends as the first one does.  All
parts but the first stand behind a comma. -/
structure Finds (first : Bool) (text tail other : List Char)
    (near far : Except ReadError (Option Cursor × Cursor)) : Prop where
  closed {behind : Cursor} (hread : near = .ok (none, behind)) :
    ∃ left beyond, far = .ok (none, beyond) ∧ left <:+ text ∧
      Cursor.Shares left tail other behind beyond
  found {start middle : Cursor} (hread : near = .ok (some start, middle)) :
    ∃ left again after, far = .ok (some again, after) ∧ left <:+ text ∧
      (first = false → left.length < text.length) ∧ Cursor.Shares left tail other start again

theorem nextItem_finds (hblanks : Blanks tail) (hshares : Cursor.Shares text tail other near far) :
    Finds first text tail other (nextItem first near) (nextItem first far) where
  closed := by
    intro behind hread
    rcases nextItem_cases hread with ⟨more, hrest, hnext⟩ | ⟨-, _, _, -, -, hnext⟩ |
      ⟨-, _, _, _, -, -, -, hnext⟩
    · cases hnext
      obtain ⟨left, hleft, -, hskip⟩ := hshares.skipSpace hblanks hrest
      exact ⟨left, _, nextItem_of_close hskip.far_rest, (List.suffix_cons _ _).trans hleft,
        hskip.advance⟩
    · cases hnext
    · cases hnext
  found := by
    intro start middle hread
    rcases nextItem_cases hread with ⟨_, -, hnext⟩ | ⟨rfl, c, more, hrest, hopen, hnext⟩ |
      ⟨rfl, more, c, later, hrest, hitem, hopen, hnext⟩
    · cases hnext
    · cases hnext
      obtain ⟨left, hleft, -, hskip⟩ := hshares.skipSpace hblanks hrest
      exact ⟨c :: left, _, _, nextItem_of_first hskip.far_rest hopen, hleft, nofun, hskip⟩
    · cases hnext
      obtain ⟨left, hleft, -, hskip⟩ := hshares.skipSpace hblanks hrest
      obtain ⟨last, hlast, -, hstart⟩ := hskip.advance.skipSpace hblanks hitem
      have hfar : (left ++ other).dropWhile isSpace = c :: (last ++ other) := by
        rw [← hskip.advance.far_rest, ← Cursor.rest_skipSpace]
        exact hstart.far_rest
      obtain ⟨again, hagain, hat⟩ := nextItem_of_comma hskip.far_rest hfar hopen
      have hfewer := hlast.length_le
      have hcomma := hleft.length_le
      rw [List.length_cons] at hcomma
      exact ⟨c :: last, again, _, hagain, hlast.trans ((List.suffix_cons _ _).trans hleft),
        fun _ => by omega, hstart.near_rest, hat⟩

theorem nextMember_finds (hblanks : Blanks tail)
    (hshares : Cursor.Shares text tail other near far) :
    Finds first text tail other (nextMember first near) (nextMember first far) where
  closed := by
    intro behind hread
    rcases nextMember_cases hread with ⟨more, hrest, hnext⟩ | ⟨-, _, -, hnext⟩ |
      ⟨-, _, _, -, -, hnext⟩
    · cases hnext
      obtain ⟨left, hleft, -, hskip⟩ := hshares.skipSpace hblanks hrest
      exact ⟨left, _, nextMember_of_close hskip.far_rest, (List.suffix_cons _ _).trans hleft,
        hskip.advance⟩
    · cases hnext
    · cases hnext
  found := by
    intro start middle hread
    rcases nextMember_cases hread with ⟨_, -, hnext⟩ | ⟨rfl, more, hrest, hnext⟩ |
      ⟨rfl, more, later, hrest, hmember, hnext⟩
    · cases hnext
    · cases hnext
      obtain ⟨left, hleft, -, hskip⟩ := hshares.skipSpace hblanks hrest
      obtain ⟨again, after, hagain, hat⟩ := nextMember_of_first hskip.far_rest
      exact ⟨left, again, after, hagain, (List.suffix_cons _ _).trans hleft, nofun,
        hskip.advance.near_rest, hat⟩
    · cases hnext
      obtain ⟨left, hleft, -, hskip⟩ := hshares.skipSpace hblanks hrest
      obtain ⟨last, hlast, -, hstart⟩ := hskip.advance.skipSpace hblanks hmember
      have hfar : (left ++ other).dropWhile isSpace = '"' :: (last ++ other) := by
        rw [← hskip.advance.far_rest, ← Cursor.rest_skipSpace]
        exact hstart.far_rest
      obtain ⟨again, after, hagain, hat⟩ := nextMember_of_comma hskip.far_rest hfar
      have hfewer := hlast.length_le
      have hcomma := hleft.length_le
      rw [List.length_cons] at hfewer hcomma
      have hsuffix : last <:+ text :=
        (List.suffix_cons _ _).trans (hlast.trans ((List.suffix_cons _ _).trans hleft))
      exact ⟨last, again, after, hagain, hsuffix, fun _ => by omega, hstart.advance.near_rest, hat⟩

/-- With some fuel, the three readers read again what they read in front of blanks. -/
structure Repeating (tail other : List Char) (fuel : Nat) : Prop where
  value {enough depth : Nat} {text : List Char} {near far : Cursor}
    (hshares : Cursor.Shares text tail other near far) (henough : 2 * text.length + 1 ≤ enough) :
    Repeats text tail other (readValue fuel depth near) (readValue enough depth far)
  items {enough depth : Nat} {first : Bool} {text : List Char} {near far : Cursor}
    (hshares : Cursor.Shares text tail other near far)
    (henough : 2 * text.length + (if first then 2 else 1) ≤ enough) :
    Repeats text tail other (readItems fuel depth first near) (readItems enough depth first far)
  members {enough depth : Nat} {first : Bool} {text : List Char} {near far : Cursor}
    (hshares : Cursor.Shares text tail other near far)
    (henough : 2 * text.length + (if first then 2 else 1) ≤ enough) :
    Repeats text tail other (readMembers fuel depth first near) (readMembers enough depth first far)

variable {fuel enough depth : Nat}

theorem Repeating.readItems (hless : Repeating tail other fuel) (hblanks : Blanks tail)
    (hshares : Cursor.Shares text tail other near far)
    (henough : 2 * text.length + (if first then 2 else 1) ≤ enough) :
    Repeats text tail other (readItems (fuel + 1) depth first near)
      (readItems enough depth first far) := by
  have hfinds : Finds first text tail other (nextItem first near) (nextItem first far) :=
    nextItem_finds hblanks hshares
  cases enough with
  | zero => cases first <;> simp at henough
  | succ enough =>
      cases hnext : nextItem first near with
      | error error =>
          intro result last hread
          rw [Json.readItems, hnext] at hread
          cases hread
      | ok found =>
          obtain ⟨start | start, middle⟩ := found
          · obtain ⟨left, beyond, hfar, hleft, hstop⟩ := hfinds.closed hnext
            rw [Json.readItems, Json.readItems, hnext, hfar]
            exact (Repeats.of_ok hstop []).mono hleft
          · obtain ⟨left, again, after, hfar, hleft, hcomma, hstart⟩ := hfinds.found hnext
            have hvalue : 2 * left.length + 1 ≤ enough := by
              have hfewer := hleft.length_le
              cases first <;> simp at henough hcomma <;> omega
            rw [readItems_of_next depth hnext, readItems_of_next depth hfar]
            apply Repeats.mono _ hleft
            apply (hless.value hstart hvalue).cons id
            intro later behind beyond hlater hstop
            have hfewer := hlater.length_le
            exact hless.items hstop (by simp; omega)

theorem Repeating.readMembers (hless : Repeating tail other fuel) (hblanks : Blanks tail)
    (hshares : Cursor.Shares text tail other near far)
    (henough : 2 * text.length + (if first then 2 else 1) ≤ enough) :
    Repeats text tail other (readMembers (fuel + 1) depth first near)
      (readMembers enough depth first far) := by
  have hfinds : Finds first text tail other (nextMember first near) (nextMember first far) :=
    nextMember_finds hblanks hshares
  cases enough with
  | zero => cases first <;> simp at henough
  | succ enough =>
      intro result last hread
      have hwhole := hread
      rw [Json.readMembers, Attempt.bind_eq_ok_iff] at hread
      obtain ⟨⟨start | start, middle⟩, hnext, hread⟩ := hread
      · obtain ⟨left, beyond, hfar, hleft, hstop⟩ := hfinds.closed hnext
        cases hread
        exact ⟨left, beyond, by rw [Json.readMembers, hfar]; rfl, hleft, hstop⟩
      · obtain ⟨left, again, after, hfar, hleft, hcomma, hstart⟩ := hfinds.found hnext
        simp only [Attempt.bind_eq_ok_iff] at hread
        obtain ⟨⟨name, named⟩, hname, colon, hcolon, -⟩ := hread
        obtain ⟨written, namedAgain, hnameAgain, hwritten, hnamed⟩ :=
          readString_repeats hblanks hstart name named hname
        obtain ⟨valued, colonAgain, hcolonAgain, hvalued, hcolons⟩ :=
          readColon_repeats hblanks hnamed hcolon
        have hsuffix := hvalued.trans (hwritten.trans hleft)
        have hvalue : 2 * valued.length + 1 ≤ enough := by
          have hfewer := (hvalued.trans hwritten).length_le
          have hall := hleft.length_le
          cases first <;> simp at henough hcomma <;> omega
        rw [readMembers_of_next depth hnext hname hcolon] at hwhole
        rw [readMembers_of_next depth hfar hnameAgain hcolonAgain]
        refine Repeats.mono ?_ hsuffix result last hwhole
        apply (hless.value hcolons hvalue).cons (fun value => (name, value))
        intro later behind beyond hlater hstop
        have hfewer := hlater.length_le
        exact hless.members hstop (by simp; omega)

theorem readValue_of_digit (fuel depth : Nat) {cursor : Cursor} {c : Char} {more : List Char}
    (hrest : cursor.skipSpace.rest = c :: more) (hdigit : c.isDigit = true) :
    readValue (fuel + 1) depth cursor = (do
      let (value, behind) ← readNumber true cursor.skipSpace
      return (Json.number value, behind)) := by
  simp only [readValue, hrest]
  split
  next hnil => cases hnil
  rotate_right
  next hcons =>
    cases hcons
    rw [if_pos hdigit]
  all_goals
    next hcons =>
      cases hcons
      exact absurd hdigit (by decide)

theorem Repeating.readValue (hless : Repeating tail other fuel) (hblanks : Blanks tail)
    (hends : EndsNumeral other) (hshares : Cursor.Shares text tail other near far)
    (henough : 2 * text.length + 1 ≤ enough) :
    Repeats text tail other (readValue (fuel + 1) depth near) (readValue enough depth far) := by
  obtain ⟨enough, rfl⟩ := Nat.exists_eq_add_of_lt henough
  cases hnear : near.skipSpace.rest with
  | nil =>
      simp only [Json.readValue, hnear]
      exact .of_fail _ _
  | cons c more =>
      obtain ⟨left, hleft, -, hskip⟩ := hshares.skipSpace hblanks hnear
      have hsuffix := (List.suffix_cons c left).trans hleft
      have hfewer := hleft.length_le
      have hfar := hskip.far_rest
      rw [List.cons_append] at hfar
      rw [List.length_cons] at hfewer
      by_cases hdigit : c.isDigit
      · rw [readValue_of_digit fuel depth hnear hdigit, readValue_of_digit _ depth hfar hdigit]
        exact ((readNumber_repeats hblanks hends hskip true).map Json.number).mono hleft
      · simp only [Json.readValue, hnear, hfar]
        split
        next hnil => cases hnil
        next hword =>
          cases hword
          exact (readWord_repeats hblanks (by simp [isSpace]) hskip.advance null).mono hsuffix
        next hword =>
          cases hword
          exact (readWord_repeats hblanks (by simp [isSpace]) hskip.advance
            (bool true)).mono hsuffix
        next hword =>
          cases hword
          exact (readWord_repeats hblanks (by simp [isSpace]) hskip.advance
            (bool false)).mono hsuffix
        next hminus =>
          cases hminus
          exact ((readNumber_repeats hblanks hends hskip.advance false).map number).mono hsuffix
        next hquote =>
          cases hquote
          exact ((readString_repeats hblanks hskip.advance).map string).mono hsuffix
        next hbracket =>
          cases hbracket
          rcases depth with _ | _ | limit
          · exact .of_failNext _ _
          · exact .of_failNext _ _
          · exact ((hless.items hskip.advance (by simp; omega)).map array).mono hsuffix
        next hbrace =>
          cases hbrace
          rcases depth with _ | _ | limit
          · exact .of_failNext _ _
          · exact .of_failNext _ _
          · exact ((hless.members hskip.advance (by simp; omega)).map object).mono hsuffix
        next hother =>
          cases hother
          rw [if_neg hdigit]
          exact .of_failNext _ _

/-- The induction is on the fuel that the three readers hand on to one another. -/
theorem repeating (hblanks : Blanks tail) (hends : EndsNumeral other) (fuel : Nat) :
    Repeating tail other fuel := by
  induction fuel with
  | zero =>
      refine ⟨?_, ?_, ?_⟩
      · intro enough depth text near far hshares henough
        rw [Json.readValue]
        exact .of_fail _ _
      · intro enough depth first text near far hshares henough
        rw [Json.readItems]
        exact .of_fail _ _
      · intro enough depth first text near far hshares henough
        rw [Json.readMembers]
        exact .of_fail _ _
  | succ fuel ih =>
      exact ⟨ih.readValue hblanks hends, ih.readItems hblanks, ih.readMembers hblanks⟩

end Parts

/-! ## Objects in the midst of blanks -/

section Objects

variable {fuel depth : Nat} {first : Bool} {cursor behind : Cursor}
  {members : List (String × Json)} {value : Json}

theorem endsNumeral_nil : EndsNumeral [] := blanks_nil.endsNumeral

theorem Cursor.shares_self (cursor : Cursor) : Cursor.Shares cursor.rest [] [] cursor cursor :=
  ⟨(List.append_nil _).symm, (List.append_nil _).symm⟩

theorem Cursor.Shares.rest_suffix {text left other : List Char} {near far : Cursor}
    (hshares : Cursor.Shares left [] other near far) (hleft : left <:+ text) :
    near.rest <:+ text := by
  rwa [hshares.near_rest, List.append_nil]

theorem readValue_suffix (hread : readValue fuel depth cursor = .ok (value, behind)) :
    behind.rest <:+ cursor.rest := by
  obtain ⟨left, beyond, -, hleft, hstop⟩ :=
    (repeating blanks_nil endsNumeral_nil fuel).value cursor.shares_self le_rfl value behind hread
  exact hstop.rest_suffix hleft

/-- The members of an object end in front of its brace. -/
theorem closes_of_readMembers
    (hread : readMembers fuel depth first cursor = .ok (members, behind)) :
    '\x7d' :: behind.rest <:+ cursor.rest := by
  induction fuel generalizing first cursor members with
  | zero => simp [readMembers] at hread
  | succ fuel ih =>
      rw [readMembers, Attempt.bind_eq_ok_iff] at hread
      obtain ⟨⟨start | start, middle⟩, hnext, hread⟩ := hread
      · cases hread
        rcases nextMember_cases hnext with ⟨more, hrest, hclosed⟩ | ⟨-, _, -, hopen⟩ |
          ⟨-, _, _, -, -, hopen⟩
        · cases hclosed
          rw [Cursor.rest_advance, hrest, List.tail_cons, ← hrest, Cursor.rest_skipSpace]
          exact List.dropWhile_suffix _
        · cases hopen
        · cases hopen
      · simp only [Attempt.bind_eq_ok_iff, Attempt.pure_eq_ok_iff] at hread
        obtain ⟨⟨name, named⟩, hname, colon, hcolon, ⟨value, valued⟩, hvalue, ⟨later, last⟩, hlater,
          hdone⟩ := hread
        cases hdone
        obtain ⟨_, _, _, -, hleft, -, hstart⟩ :=
          (nextMember_finds blanks_nil cursor.shares_self).found hnext
        obtain ⟨_, _, -, hwritten, hnamed⟩ :=
          readString_repeats blanks_nil start.shares_self name named hname
        obtain ⟨_, _, -, hmarked, hcolons⟩ := readColon_repeats blanks_nil named.shares_self hcolon
        have hvalued : valued.rest <:+ colon.rest := readValue_suffix hvalue
        have hcolon : colon.rest <:+ named.rest := hcolons.rest_suffix hmarked
        have hnamed : named.rest <:+ start.rest := hnamed.rest_suffix hwritten
        have hstart : start.rest <:+ cursor.rest := hstart.rest_suffix hleft
        exact (ih hlater).trans (hvalued.trans (hcolon.trans (hnamed.trans hstart)))

theorem readValue_eq_object
    (hread : readValue (fuel + 1) depth cursor = .ok (.object members, behind)) :
    ∃ more deeper, cursor.skipSpace.rest = '\x7b' :: more ∧
      readMembers fuel deeper true cursor.skipSpace.advance = .ok (members, behind) := by
  simp only [readValue] at hread
  split at hread
  next => cases hread
  next => simp at hread
  next => simp at hread
  next => simp at hread
  next => simp at hread
  next => simp at hread
  next => split at hread <;> simp at hread
  next more hrest =>
    split at hread
    next => simp at hread
    next => simp at hread
    next deeper hdeeper =>
      simp only [Attempt.bind_eq_ok_iff, Attempt.pure_eq_ok_iff, Prod.mk.injEq, Prod.exists,
        object.injEq] at hread
      obtain ⟨_, _, hmembers, rfl, rfl⟩ := hread
      exact ⟨more, deeper, hrest, hmembers⟩
  next => split at hread <;> simp at hread

theorem skipSpace_of_head {cursor : Cursor} {c : Char} {more : List Char}
    (hrest : cursor.rest = c :: more) (hc : isSpace c = false) : cursor.skipSpace = cursor := by
  rw [Cursor.skipSpace, hrest, Cursor.skipSpaceFrom, if_neg (by simp [hc])]

theorem readValue_skipSpace (fuel depth : Nat) {c : Char} {more : List Char}
    (hrest : cursor.skipSpace.rest = c :: more) (hc : isSpace c = false) :
    readValue (fuel + 1) depth cursor.skipSpace = readValue (fuel + 1) depth cursor := by
  simp only [readValue, skipSpace_of_head hrest hc]

theorem exists_members_of_sorted {raw : Json} (hobject : raw.sorted.isObject = true) :
    ∃ members, raw = .object members := by
  cases raw with
  | object members => exact ⟨members, rfl⟩
  | _ => simp [sorted, isObject] at hobject

/-- An object that is read from a text stands in it between blanks. -/
theorem exists_braces_of_parse {text : List Char} (hparse : parse (String.ofList text) = .ok value)
    (hobject : value.isObject = true) :
    ∃ before body behind, text = before ++ ('\x7b' :: (body ++ '\x7d' :: behind)) ∧
      Blanks before ∧ Blanks behind ∧
      parse (String.ofList ('\x7b' :: (body ++ ['\x7d']))) = .ok value := by
  simp only [parse, readText, String.toList_ofList, Attempt.map_eq_ok_iff, Attempt.bind_eq_ok_iff,
    Attempt.pure_eq_ok_iff, Prod.exists] at hparse
  obtain ⟨_, ⟨raw, behind, hread, _, hend, rfl⟩, rfl⟩ := hparse
  obtain ⟨members, rfl⟩ := exists_members_of_sorted hobject
  obtain ⟨more, deeper, hopen, hmembers⟩ := readValue_eq_object hread
  have hclose := closes_of_readMembers hmembers
  rw [Cursor.rest_advance, hopen, List.tail_cons] at hclose
  obtain ⟨body, rfl⟩ := hclose
  have hbehind : Blanks behind.rest := List.dropWhile_eq_nil_iff.mp (readEnd_eq_ok_iff.mp hend)
  refine ⟨text.takeWhile isSpace, body, behind.rest, ?_, ?_, hbehind, ?_⟩
  · rw [Cursor.rest_skipSpace] at hopen
    rw [← hopen]
    exact List.takeWhile_append_dropWhile.symm
  · exact fun c hc => List.mem_takeWhile_imp hc
  · have hshares : Cursor.Shares ('\x7b' :: (body ++ ['\x7d'])) behind.rest []
        (Cursor.start text).skipSpace (Cursor.start ('\x7b' :: (body ++ ['\x7d']))) :=
      ⟨by rw [hopen]; simp, by simp [Cursor.start]⟩
    rw [← readValue_skipSpace _ _ hopen rfl] at hread
    have henough : 2 * ('\x7b' :: (body ++ ['\x7d'])).length + 1 ≤
        2 * ('\x7b' :: (body ++ ['\x7d'])).length + 3 := by omega
    obtain ⟨left, beyond, hagain, -, hstop⟩ :=
      (repeating hbehind endsNumeral_nil _).value hshares henough _ _ hread
    have hleft : left = [] := by simpa using hstop.near_rest
    have hdone : readEnd beyond = .ok () := by
      rw [readEnd_eq_ok_iff, hstop.far_rest, hleft]
      rfl
    simp only [parse, readText, String.toList_ofList]
    rw [hagain]
    simp only [bind, Except.bind, hdone]
    rfl

theorem isBlank_of_isSpace {c : Char} (hspace : isSpace c = true) : Text.isBlank c = true := by
  simp only [isSpace, Bool.or_eq_true, beq_iff_eq] at hspace
  rcases hspace with ((rfl | rfl) | rfl) | rfl <;> rfl

/-- An object that is read from a text is read from the trimmed text, which begins with a brace. -/
theorem parse_trimmed_of_object {text : String} (hparse : parse text = .ok value)
    (hobject : value.isObject = true) :
    ∃ more, Text.dropAround text.toList = '\x7b' :: more ∧
      parse (String.ofList (Text.dropAround text.toList)) = .ok value := by
  rw [← String.ofList_toList (s := text)] at hparse
  obtain ⟨before, body, behind, htext, hbefore, hbehind, hread⟩ :=
    exists_braces_of_parse hparse hobject
  have htrimmed : Text.Trimmed (['\x7b'] ++ (body ++ ['\x7d'])) :=
    (Text.trimmed_singleton rfl).around (Text.trimmed_singleton rfl) (by simp) (by simp) body
  have hblank : ∀ {gap : List Char}, Blanks gap → ∀ c ∈ gap, Text.isBlank c = true :=
    fun hgap c hc => isBlank_of_isSpace (hgap c hc)
  have hparts : text.toList = before ++ (['\x7b'] ++ (body ++ ['\x7d'])) ++ behind := by
    simp [htext]
  rw [hparts, Text.dropAround_of_trimmed htrimmed (hblank hbefore) (hblank hbehind),
    List.singleton_append]
  exact ⟨_, rfl, hread⟩

end Objects

end PromptScript.Json
