import Mathlib.Data.List.Basic
import PromptScript.Proofs.Pattern.Braces

/-!
# What a pattern with groups stands for

A pattern stands for what the patterns stand for that have one alternative of its first group in the
place of the group.  What comes out has no group any more.  Where the braces of a text pair, what
stands in front of another text is expanded on its own, so a pattern that is made of plain texts and
groups stands for all choices of one text for each of them, the first group varying slowest.
-/

namespace PromptScript.Pattern

variable {text rest pre body post piece pattern result : List Char} {pieces : List (List Char)}

/-! ## Expansion -/

theorem expandGroups_of_none (hnone : firstGroup? pattern = none) :
    expandGroups pattern = [pattern] := by
  rw [expandGroups]
  split
  next => rfl
  next hsome => cases hnone.symm.trans hsome

theorem expandGroups_of_group (hgroup : FirstGroup pattern pre body post) :
    expandGroups pattern =
      (alternatives 0 body).flatMap fun piece => expandGroups (pre ++ piece ++ post) := by
  have hsome := firstGroup?_eq_some_iff.mpr hgroup
  rw [expandGroups]
  split
  next hnone => cases hsome.symm.trans hnone
  next hother =>
    cases hsome.symm.trans hother
    rw [List.flatMap_subtype (g := fun piece => expandGroups (pre ++ piece ++ post)) fun _ _ => rfl,
      List.unattach_attach]

/-- The induction along the groups of a pattern. -/
@[elab_as_elim]
theorem group_induction {motive : List Char → Prop}
    (none : ∀ pattern, firstGroup? pattern = none → motive pattern)
    (group : ∀ pattern pre body post, FirstGroup pattern pre body post →
      (∀ piece ∈ alternatives 0 body, motive (pre ++ piece ++ post)) → motive pattern)
    (pattern : List Char) : motive pattern := by
  induction pattern using expandGroups.induct with
  | case1 pattern hnone => exact none pattern hnone
  | case2 pattern pre body post hsome ih =>
      exact group pattern pre body post (firstGroup?_eq_some_iff.mp hsome) fun piece hpiece =>
        ih piece hpiece

theorem expandGroups_ne_nil (pattern : List Char) : expandGroups pattern ≠ [] := by
  induction pattern using group_induction with
  | none pattern hnone =>
      rw [expandGroups_of_none hnone]
      exact List.cons_ne_nil _ _
  | group pattern pre body post hgroup ih =>
      obtain ⟨piece, pieces, hcut⟩ := exists_cut hgroup.balanced
      rw [hcut.alternatives_eq] at ih
      rw [expandGroups_of_group hgroup, hcut.alternatives_eq, List.flatMap_cons]
      exact List.append_ne_nil_of_left_ne_nil (ih piece List.mem_cons_self) _

/-- What a pattern stands for has no group. -/
theorem firstGroup?_of_mem (hresult : result ∈ expandGroups pattern) :
    firstGroup? result = none := by
  induction pattern using group_induction with
  | none pattern hnone =>
      rw [expandGroups_of_none hnone, List.mem_singleton] at hresult
      rwa [hresult]
  | group pattern pre body post hgroup ih =>
      rw [expandGroups_of_group hgroup, List.mem_flatMap] at hresult
      obtain ⟨piece, hpiece, hresult⟩ := hresult
      exact ih piece hpiece hresult

/-- A text in front without an opening brace stands in front of all results. -/
theorem expandGroups_append_of_not_mem (hpre : '\x7b' ∉ pre) (pattern : List Char) :
    expandGroups (pre ++ pattern) = (expandGroups pattern).map (pre ++ ·) := by
  induction pattern using group_induction with
  | none pattern hnone =>
      rw [expandGroups_of_none hnone, expandGroups_of_none, List.map_singleton]
      rw [firstGroup?_append hpre, hnone, Option.map_none]
  | group pattern before body post hgroup ih =>
      have hlonger : FirstGroup (pre ++ pattern) (pre ++ before) body post :=
        ⟨by rw [hgroup.whole, List.append_assoc],
          fun hmem => (List.mem_append.mp hmem).elim hpre hgroup.first, hgroup.balanced⟩
      rw [expandGroups_of_group hlonger, expandGroups_of_group hgroup, List.map_flatMap]
      apply List.flatMap_congr
      intro piece hpiece
      rw [← ih piece hpiece]
      simp only [List.append_assoc]

/-- A text whose braces pair has one with any alternative in the place of its first group, too. -/
theorem FirstGroup.balanced_choice (hgroup : FirstGroup pattern pre body post)
    (hpattern : Balanced pattern) (hpiece : piece ∈ alternatives 0 body) :
    Balanced (pre ++ piece ++ post) := by
  rw [hgroup.whole] at hpattern
  have hpre := (hpattern.plain hgroup.first).balanced
  have hpost := (closing_group_iff hgroup.balanced).mp (hpre.closing_append_iff.mp hpattern)
  have hchosen := ((split_iff hgroup.balanced).mpr rfl).alternative piece hpiece
  exact (hpre.append hchosen.balanced).append hpost

/-- Where braces pair, a text without a group has none. -/
theorem Balanced.not_mem_of_none (hpattern : Balanced pattern)
    (hnone : firstGroup? pattern = none) : '\x7b' ∉ pattern := by
  intro hmem
  obtain ⟨pre, rest, rfl, hpre⟩ := List.eq_append_cons_of_mem hmem
  have hrest := (hpattern.plain hpre).balanced.closing_append_iff.mp hpattern
  obtain ⟨body, post, rfl, hbody, -⟩ := Balanced.exists_group hrest
  exact firstGroup?_eq_none_iff.mp hnone ⟨pre, body, post, rfl, hpre, hbody⟩

/-- What stands in front of another text is expanded on its own, and varies slower. -/
theorem expandGroups_append (hpattern : Balanced pattern) (rest : List Char) :
    expandGroups (pattern ++ rest) =
      (expandGroups pattern).flatMap fun front => (expandGroups rest).map (front ++ ·) := by
  induction pattern using group_induction with
  | none pattern hnone =>
      rw [expandGroups_of_none hnone, List.flatMap_singleton,
        expandGroups_append_of_not_mem (hpattern.not_mem_of_none hnone)]
  | group pattern pre body post hgroup ih =>
      have hlonger : FirstGroup (pattern ++ rest) pre body (post ++ rest) :=
        ⟨by rw [hgroup.whole]; simp, hgroup.first, hgroup.balanced⟩
      calc
        expandGroups (pattern ++ rest) =
            (alternatives 0 body).flatMap fun piece =>
              expandGroups (pre ++ piece ++ (post ++ rest)) := expandGroups_of_group hlonger
        _ = (alternatives 0 body).flatMap fun piece =>
              (expandGroups (pre ++ piece ++ post)).flatMap fun front =>
                (expandGroups rest).map (front ++ ·) := by
          apply List.flatMap_congr
          intro piece hpiece
          rw [← List.append_assoc, ih piece hpiece (hgroup.balanced_choice hpattern hpiece)]
        _ = (expandGroups pattern).flatMap fun front => (expandGroups rest).map (front ++ ·) := by
          rw [expandGroups_of_group hgroup, List.flatMap_assoc]

/-! ## Choices -/

/-- A part of a pattern: a text without braces, or a group with its alternatives. -/
inductive Part where
  | plain (text : List Char) (hplain : Plain text)
  | group (body : List Char) (pieces : List (List Char)) (hsplit : Split body pieces)

/-- The text of a part. -/
def Part.written : Part → List Char
  | .plain text _ => text
  | .group body _ _ => '\x7b' :: (body ++ ['\x7d'])

/-- What a part stands for: itself, or what its alternatives stand for. -/
def Part.choices : Part → List String
  | .plain text _ => [String.ofList text]
  | .group _ pieces _ => pieces.flatMap fun piece => expandBraces (String.ofList piece)

/-- Every choice of one text from each list, put together; the first list varies slowest. -/
def allChoices : List (List String) → List String
  | [] => [""]
  | first :: rest => first.flatMap fun front => (allChoices rest).map (front ++ ·)

theorem expandBraces_ofList (pattern : List Char) :
    expandBraces (String.ofList pattern) = (expandGroups pattern).map String.ofList := by
  rw [expandBraces, String.toList_ofList]

theorem Part.balanced_written (part : Part) : Balanced part.written := by
  cases part with
  | plain text hplain => exact hplain.balanced
  | group body pieces hsplit =>
      exact (closing_group_iff hsplit.balanced).mpr (closing_nil_iff.mpr rfl)

theorem Part.expandBraces_written (part : Part) :
    expandBraces (String.ofList part.written) = part.choices := by
  rw [expandBraces_ofList]
  cases part with
  | plain text hplain =>
      have hnone : firstGroup? (text ++ []) = none := firstGroup?_append hplain.1 []
      rw [List.append_nil] at hnone
      rw [Part.written, expandGroups_of_none hnone, List.map_singleton]
      rfl
  | group body pieces hsplit =>
      have hgroup : FirstGroup (Part.group body pieces hsplit).written [] body [] :=
        ⟨rfl, List.not_mem_nil, hsplit.balanced⟩
      rw [expandGroups_of_group hgroup, hsplit.alternatives_eq, List.map_flatMap]
      simp only [List.nil_append, List.append_nil, Part.choices, expandBraces_ofList]

theorem Balanced.exists_parts (hbalanced : Balanced text) :
    ∃ parts : List Part, parts.flatMap Part.written = text := by
  induction hlength : text.length using Nat.strongRecOn generalizing text with
  | _ length ih =>
      subst hlength
      cases text with
      | nil => exact ⟨[], rfl⟩
      | cons c rest =>
          by_cases hopen : c = '\x7b'
          · subst hopen
            obtain ⟨body, post, rfl, hbody, hpost⟩ := hbalanced.exists_group
            obtain ⟨parts, rfl⟩ := ih post.length (by simp; omega) hpost rfl
            refine ⟨.group body _ ((split_iff hbody).mpr rfl) :: parts, ?_⟩
            simp [Part.written]
          · have hclose : c ≠ '\x7d' := by
              rintro rfl
              exact not_closing_close hbalanced
            have hplain : Plain [c] := by simp [Plain, Ne.symm hopen, Ne.symm hclose]
            obtain ⟨parts, rfl⟩ := ih rest.length (by simp)
              ((closing_plain_iff hopen hclose).mp hbalanced) rfl
            exact ⟨.plain [c] hplain :: parts, rfl⟩

/-- The braces of a text pair just if it is made of plain texts and groups. -/
theorem balanced_iff_exists_parts :
    Balanced text ↔ ∃ parts : List Part, parts.flatMap Part.written = text := by
  refine ⟨Balanced.exists_parts, ?_⟩
  rintro ⟨parts, rfl⟩
  induction parts with
  | nil => exact closing_nil_iff.mpr rfl
  | cons part rest ih => exact part.balanced_written.append ih

theorem expandBraces_append (hpattern : Balanced text) (rest : List Char) :
    expandBraces (String.ofList (text ++ rest)) =
      (expandBraces (String.ofList text)).flatMap fun front =>
        (expandBraces (String.ofList rest)).map (front ++ ·) := by
  simp only [expandBraces_ofList, expandGroups_append hpattern, List.map_flatMap, List.flatMap_map,
    List.map_map]
  apply List.flatMap_congr
  intro front _
  apply List.map_congr_left
  intro back _
  exact String.ofList_append

theorem expandBraces_of_parts (parts : List Part) :
    expandBraces (String.ofList (parts.flatMap Part.written)) =
      allChoices (parts.map Part.choices) := by
  induction parts with
  | nil =>
      rw [expandBraces_ofList, List.flatMap_nil, expandGroups_of_none rfl]
      rfl
  | cons part rest ih =>
      rw [List.flatMap_cons, expandBraces_append part.balanced_written, part.expandBraces_written,
        ih]
      rfl

/-- A pattern stands for what the alternatives of its first group stand for, each in the place of
the group; without a group it stands for itself alone, and so does everything that comes out.  A
pattern whose braces pair is made of plain texts and groups, and stands for all choices among
them. -/
theorem pattern_stands_for_all_choices :
    (∀ pattern : String, expandBraces pattern ≠ [] ∧
      ((¬∃ pre body post, FirstGroup pattern.toList pre body post) →
        expandBraces pattern = [pattern]) ∧
      (∀ pre body post, FirstGroup pattern.toList pre body post →
        ∃ pieces, Split body pieces ∧ (∀ others, Split body others → others = pieces) ∧
          expandBraces pattern =
            pieces.flatMap fun piece => expandBraces (String.ofList (pre ++ piece ++ post))) ∧
      ∀ result ∈ expandBraces pattern, expandBraces result = [result]) ∧
    (∀ text, Balanced text ↔ ∃ parts : List Part, parts.flatMap Part.written = text) ∧
    ∀ parts : List Part, expandBraces (String.ofList (parts.flatMap Part.written)) =
      allChoices (parts.map Part.choices) := by
  have hnone : ∀ {pattern : List Char}, firstGroup? pattern = none →
      expandBraces (String.ofList pattern) = [String.ofList pattern] := by
    intro pattern hnone
    rw [expandBraces_ofList, expandGroups_of_none hnone, List.map_singleton]
  refine ⟨?_, fun text => balanced_iff_exists_parts, expandBraces_of_parts⟩
  intro pattern
  refine ⟨?_, fun hplain => ?_, fun pre body post hgroup => ?_, fun result hresult => ?_⟩
  · exact mt List.map_eq_nil_iff.mp (expandGroups_ne_nil pattern.toList)
  · have hitself := hnone (firstGroup?_eq_none_iff.mpr hplain)
    rwa [String.ofList_toList] at hitself
  · have hsplit := (split_iff hgroup.balanced).mpr rfl
    refine ⟨_, hsplit, fun others hothers => hothers.alternatives_eq.symm, ?_⟩
    rw [expandBraces, expandGroups_of_group hgroup, List.map_flatMap]
    simp only [expandBraces_ofList]
  · obtain ⟨chars, hchars, rfl⟩ := List.mem_map.mp hresult
    exact hnone (firstGroup?_of_mem hchars)

/-- A group inside a group and an empty alternative, and a group that is never closed. -/
theorem pattern_stands_for_all_choices_nested :
    FirstGroup "x\x7ba,\x7bb,c\x7d\x7d\x7b,y\x7d".toList ['x'] "a,\x7bb,c\x7d".toList
      "\x7b,y\x7d".toList ∧
    (∃ pieces, Split "a,\x7bb,c\x7d".toList pieces ∧
      expandBraces "x\x7ba,\x7bb,c\x7d\x7d\x7b,y\x7d" = pieces.flatMap fun piece =>
        expandBraces (String.ofList (['x'] ++ piece ++ "\x7b,y\x7d".toList))) ∧
    expandBraces "x\x7ba,\x7bb,c\x7d\x7d\x7b,y\x7d" = ["xa", "xay", "xb", "xby", "xc", "xcy"] ∧
    expandBraces "xcy" = ["xcy"] ∧
    (¬∃ pre body post, FirstGroup "\x7ba\x7bb,c\x7d".toList pre body post) ∧
    expandBraces "\x7ba\x7bb,c\x7d" = ["\x7ba\x7bb,c\x7d"] := by
  obtain ⟨hpatterns, -, -⟩ := pattern_stands_for_all_choices
  have hgroup : FirstGroup "x\x7ba,\x7bb,c\x7d\x7d\x7b,y\x7d".toList ['x'] "a,\x7bb,c\x7d".toList
      "\x7b,y\x7d".toList := firstGroup?_eq_some_iff.mp (by decide +kernel)
  have hopen : ¬∃ pre body post, FirstGroup "\x7ba\x7bb,c\x7d".toList pre body post :=
    firstGroup?_eq_none_iff.mp (by decide +kernel)
  have hall : expandBraces "x\x7ba,\x7bb,c\x7d\x7d\x7b,y\x7d" =
      ["xa", "xay", "xb", "xby", "xc", "xcy"] := by cbv
  obtain ⟨-, -, hfirst, hresults⟩ := hpatterns "x\x7ba,\x7bb,c\x7d\x7d\x7b,y\x7d"
  obtain ⟨pieces, hsplit, -, hpieces⟩ := hfirst _ _ _ hgroup
  exact ⟨hgroup, ⟨pieces, hsplit, hpieces⟩, hall, hresults "xcy" (by rw [hall]; decide), hopen,
    (hpatterns _).2.1 hopen⟩

end PromptScript.Pattern
