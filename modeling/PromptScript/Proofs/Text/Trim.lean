import Mathlib.Data.List.DropRight
import PromptScript.Text.Basic

/-!
# Trimmed and cut texts

A text without blanks at its ends is what remains of every text that has nothing but blanks around
it, and joining such texts gives another one.  A text is cut at the first blank or mark, if it has
one, or at every mark; the pieces hold no mark.
-/

namespace PromptScript.Text

/-! ## Blanks at the ends -/

theorem dropLeading_of_head {c : Char} {text : List Char} (hblank : isBlank c = false) :
    dropLeading (c :: text) = c :: text :=
  List.dropWhile_cons_of_neg (by simp [hblank])

theorem dropTrailing_eq_rdropWhile (text : List Char) :
    dropTrailing text = text.rdropWhile isBlank := rfl

theorem dropTrailing_eq_nil_iff {text : List Char} :
    dropTrailing text = [] ↔ text.all isBlank = true := by
  rw [dropTrailing_eq_rdropWhile, List.rdropWhile_eq_nil_iff, List.all_eq_true]

@[simp]
theorem dropTrailing_dropTrailing (text : List Char) :
    dropTrailing (dropTrailing text) = dropTrailing text :=
  List.rdropWhile_idempotent isBlank text

/-- Whatever stands at the end of a trimmed text is trimmed. -/
theorem dropTrailing_of_suffix {text rest : List Char} (htrimmed : dropTrailing text = text)
    (hsuffix : rest <:+ text) : dropTrailing rest = rest := by
  rw [dropTrailing_eq_rdropWhile, List.rdropWhile_eq_self_iff] at htrimmed ⊢
  intro hrest
  obtain ⟨before, rfl⟩ := hsuffix
  have hlast := htrimmed (List.append_ne_nil_of_right_ne_nil before hrest)
  rwa [List.getLast_append_of_right_ne_nil before rest hrest] at hlast

/-- A text without blanks at its end ends in something else. -/
theorem isBlank_of_mem_getLast? {text : List Char} (htrimmed : dropTrailing text = text) :
    ∀ c ∈ text.getLast?, isBlank c = false := by
  intro c hc
  have hsome : text ≠ [] := List.ne_nil_of_mem (List.mem_of_mem_getLast? hc)
  have hlast := List.rdropWhile_eq_self_iff.mp htrimmed hsome
  rw [List.getLast?_eq_some_getLast hsome] at hc
  cases hc
  simpa using hlast

/-- Blanks are dropped from the second text, and from the first one if nothing of it is left. -/
theorem dropTrailing_append (first second : List Char) :
    dropTrailing (first ++ second) =
      if dropTrailing second = [] then dropTrailing first else first ++ dropTrailing second := by
  simp only [dropTrailing, List.reverse_append, List.dropWhile_append, List.isEmpty_iff,
    List.reverse_eq_nil_iff]
  split
  next => rfl
  next => rw [List.reverse_append, List.reverse_reverse]

theorem dropAround_subset (text : List Char) : dropAround text ⊆ text := by
  have hfront : dropTrailing text <+: text := List.rdropWhile_prefix isBlank text
  have hback : dropAround text <:+ dropTrailing text := List.dropWhile_suffix isBlank
  exact List.Subset.trans hback.subset hfront.subset

/-- Whether a text has no blank at either end. -/
structure Trimmed (text : List Char) : Prop where
  head : ∀ c ∈ text.head?, isBlank c = false
  last : ∀ c ∈ text.getLast?, isBlank c = false

section Trimming

variable {text first last before behind : List Char}

theorem dropAround_of_trimmed (htrimmed : Trimmed text) (hbefore : ∀ c ∈ before, isBlank c = true)
    (hbehind : ∀ c ∈ behind, isBlank c = true) : dropAround (before ++ text ++ behind) = text := by
  have htrailing : dropTrailing (before ++ text ++ behind) = dropTrailing (before ++ text) := by
    rw [dropTrailing, List.reverse_append, List.dropWhile_append_of_pos]
    · rfl
    · intro c hc
      exact hbehind c (List.mem_reverse.mp hc)
  have hleading : dropLeading (before ++ text) = text := by
    rw [dropLeading, List.dropWhile_append_of_pos hbefore]
    cases text with
    | nil => rfl
    | cons c rest => exact dropLeading_of_head (htrimmed.head c rfl)
  rw [dropAround, htrailing]
  by_cases hempty : text = []
  · subst hempty
    have hnone : dropTrailing (before ++ []) = [] :=
      dropTrailing_eq_nil_iff.mpr (by simpa using hbefore)
    rw [hnone]
    rfl
  · have hself : dropTrailing (before ++ text) = before ++ text := by
      apply List.rdropWhile_eq_self_iff.mpr
      intro hnonempty
      have hlast := htrimmed.last _ (List.getLast?_eq_some_getLast hempty)
      simp [List.getLast_append_of_right_ne_nil _ _ hempty, hlast]
    rw [hself, hleading]

theorem Trimmed.dropAround_eq (htrimmed : Trimmed text) : dropAround text = text := by
  have hnone : ∀ c ∈ ([] : List Char), isBlank c = true := fun c hc => nomatch hc
  simpa using dropAround_of_trimmed htrimmed hnone hnone

theorem Trimmed.dropAround_cons (htrimmed : Trimmed text) {c : Char} (hc : isBlank c = true) :
    dropAround (c :: text) = text := by
  have hnone : ∀ c ∈ ([] : List Char), isBlank c = true := fun c hc => nomatch hc
  have hone : ∀ d ∈ [c], isBlank d = true := by simpa using hc
  simpa using dropAround_of_trimmed htrimmed hone hnone

theorem trimmed_of_dropAround_eq (hsame : dropAround text = text) : Trimmed text := by
  have hprefix : dropTrailing text <+: text := List.rdropWhile_prefix isBlank text
  have hsuffix : dropAround text <:+ dropTrailing text := List.dropWhile_suffix isBlank
  have hlength := hsuffix.length_le
  rw [hsame] at hlength
  have htrailing : dropTrailing text = text := hprefix.eq_of_length_le hlength
  have hleading : dropLeading text = text := by rwa [dropAround, htrailing] at hsame
  constructor
  · intro c hc
    have hhead := List.head?_dropWhile_not isBlank text
    rw [← dropLeading, hleading, hc] at hhead
    simpa using hhead
  · exact isBlank_of_mem_getLast? htrailing

theorem trimmed_dropAround (text : List Char) : Trimmed (dropAround text) := by
  have hsuffix : dropAround text <:+ dropTrailing text := List.dropWhile_suffix isBlank
  have hlast := dropTrailing_of_suffix (dropTrailing_dropTrailing text) hsuffix
  refine trimmed_of_dropAround_eq ?_
  have hagain : dropLeading (dropAround text) = dropAround text :=
    List.dropWhile_idempotent isBlank (dropTrailing text)
  rw [dropAround, hlast, hagain]

theorem trimmed_of_plain (hplain : ∀ c ∈ text, isBlank c = false) : Trimmed text where
  head c hc := hplain c (List.mem_of_mem_head? hc)
  last c hc := hplain c (List.mem_of_mem_getLast? hc)

theorem trimmed_toList {text : String} (hsame : trim text = text) : Trimmed text.toList := by
  apply trimmed_of_dropAround_eq
  rw [← String.toList_ofList (l := dropAround text.toList)]
  exact congrArg String.toList hsame

theorem trimmed_singleton {c : Char} (hc : isBlank c = false) : Trimmed [c] := by
  constructor <;> simpa using hc

/-- Whatever stands between two trimmed texts, the whole is trimmed. -/
theorem Trimmed.around (hfirst : Trimmed first) (hlast : Trimmed last) (hsome : first ≠ [])
    (hmore : last ≠ []) (middle : List Char) : Trimmed (first ++ (middle ++ last)) where
  head := by
    intro c hc
    rw [List.head?_append_of_ne_nil _ hsome] at hc
    exact hfirst.head c hc
  last := by
    intro c hc
    rw [← List.append_assoc, List.getLast?_append_of_ne_nil _ hmore] at hc
    exact hlast.last c hc

/-- A joined text begins with the first of the texts, and each other one stands behind a
separator. -/
theorem intercalate_cons_eq (separator first : List Char) (rest : List (List Char)) :
    separator.intercalate (first :: rest) = first ++ rest.flatMap (separator ++ ·) := by
  induction rest generalizing first with
  | nil => simp
  | cons next rest ih =>
      rw [List.intercalate_cons_cons, ih, List.flatMap_cons, List.append_assoc,
        List.append_assoc]

theorem trimmed_intercalate {separator : List Char} {rest : List (List Char)}
    (htexts : ∀ text ∈ first :: rest, Trimmed text ∧ text ≠ []) :
    Trimmed (separator.intercalate (first :: rest)) := by
  induction rest generalizing first with
  | nil =>
      rw [List.intercalate_singleton]
      exact (htexts first List.mem_cons_self).1
  | cons next rest ih =>
      obtain ⟨⟨hfirst, hsome⟩, hrest⟩ := List.forall_mem_cons.mp htexts
      have hmore : separator.intercalate (next :: rest) ≠ [] := by
        rw [intercalate_cons_eq]
        exact List.append_ne_nil_of_left_ne_nil (hrest next List.mem_cons_self).2 _
      rw [List.intercalate_cons_cons, List.append_assoc]
      exact hfirst.around (ih hrest) hsome hmore separator

/-! ## The first blank -/

theorem cutAtBlank?_of_plain (hplain : ∀ c ∈ text, isBlank c = false) :
    cutAtBlank? text = none := by
  induction text with
  | nil => rfl
  | cons c rest ih =>
      obtain ⟨hc, hrest⟩ := List.forall_mem_cons.mp hplain
      rw [cutAtBlank?, hc, ih hrest]
      rfl

theorem cutAtBlank?_append (hplain : ∀ c ∈ before, isBlank c = false) (behind : List Char) :
    cutAtBlank? (before ++ ' ' :: behind) = some (before, behind) := by
  induction before with
  | nil => rfl
  | cons c rest ih =>
      obtain ⟨hc, hrest⟩ := List.forall_mem_cons.mp hplain
      rw [List.cons_append, cutAtBlank?, hc, ih hrest]
      rfl

end Trimming

/-! ## Marks -/

section Marks

variable {mark : Char} {text before : List Char}

theorem cutAt?_eq (mark : Char) (text : List Char) :
    cutAt? mark text = if mark ∈ text then
      some (text.takeWhile (· ≠ mark), (text.dropWhile (· ≠ mark)).tail) else none := by
  induction text with
  | nil => rfl
  | cons c rest ih =>
      rw [cutAt?, ih]
      by_cases hmark : c = mark
      · simp [hmark]
      · by_cases hmem : mark ∈ rest <;> simp [hmark, hmem, Ne.symm hmark]

theorem cutAt?_eq_none_iff : cutAt? mark text = none ↔ mark ∉ text := by
  rw [cutAt?_eq, ite_eq_right_iff]
  simp

theorem cutAt?_of_not_mem (hbefore : mark ∉ before) (after : List Char) :
    cutAt? mark (before ++ mark :: after) = some (before, after) := by
  have hall : ∀ c ∈ before, decide (c ≠ mark) = true := by
    intro c hc
    exact decide_eq_true (ne_of_mem_of_not_mem hc hbefore)
  rw [cutAt?_eq, if_pos (by simp), List.takeWhile_append_of_pos hall,
    List.dropWhile_append_of_pos hall]
  simp

theorem not_mem_of_cutAt?_eq_some {after : List Char}
    (hcut : cutAt? mark text = some (before, after)) : mark ∉ before := by
  rw [cutAt?_eq] at hcut
  split at hcut
  next =>
    cases hcut
    intro hmem
    simpa using List.mem_takeWhile_imp hmem
  next => cases hcut

theorem splitAt_ne_nil (mark : Char) (text : List Char) : splitAt mark text ≠ [] := by
  cases text with
  | nil => exact List.cons_ne_nil _ _
  | cons c rest =>
      rw [splitAt]
      split
      next => exact List.cons_ne_nil _ _
      next => split <;> exact List.cons_ne_nil _ _

theorem splitAt_of_not_mem (hmark : mark ∉ text) : splitAt mark text = [text] := by
  induction text with
  | nil => rfl
  | cons c rest ih =>
      rw [List.mem_cons, not_or] at hmark
      rw [splitAt, if_neg (Ne.symm hmark.1), ih hmark.2]

theorem splitAt_append_mark (mark : Char) (first second : List Char) :
    splitAt mark (first ++ mark :: second) = splitAt mark first ++ splitAt mark second := by
  induction first with
  | nil => simp [splitAt]
  | cons c rest ih =>
      obtain ⟨piece, pieces, hpieces⟩ := List.exists_cons_of_ne_nil (splitAt_ne_nil mark rest)
      rw [List.cons_append, splitAt, splitAt, ih, hpieces]
      split <;> rfl

theorem not_mem_of_mem_splitAt {piece : List Char} (hpiece : piece ∈ splitAt mark text) :
    mark ∉ piece := by
  induction text generalizing piece with
  | nil =>
      obtain rfl := List.mem_singleton.mp hpiece
      exact List.not_mem_nil
  | cons c rest ih =>
      rw [splitAt] at hpiece
      split at hpiece
      next =>
        rcases List.mem_cons.mp hpiece with rfl | hpiece
        · exact List.not_mem_nil
        · exact ih hpiece
      next hmark =>
        obtain ⟨first, later, hpieces⟩ := List.exists_cons_of_ne_nil (splitAt_ne_nil mark rest)
        rw [hpieces] at hpiece ih
        rcases List.mem_cons.mp hpiece with rfl | hpiece
        · rw [List.mem_cons, not_or]
          exact ⟨Ne.symm hmark, ih List.mem_cons_self⟩
        · exact ih (List.mem_cons_of_mem first hpiece)

theorem splitAt_eq_splitOn (mark : Char) (text : List Char) :
    splitAt mark text = text.splitOn mark := by
  induction text with
  | nil => rfl
  | cons c rest ih =>
      rw [splitAt, List.splitOn, List.splitOnP_cons_eq_if_modifyHead, ← List.splitOn, ← ih]
      by_cases hmark : c = mark
      · simp [hmark]
      · obtain ⟨piece, pieces, hsplit⟩ := List.exists_cons_of_ne_nil (splitAt_ne_nil mark rest)
        simp [hmark, hsplit]

end Marks

end PromptScript.Text
