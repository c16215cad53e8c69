import PromptScript.Pattern.CharSet
import PromptScript.Pattern.Glob

/-!
# What a pattern for one name matches

A relation says what the characters of a pattern stand for; the search with its limited number of
steps is measured against it.  What the search finds is a match.  The search does not take back the
place that it found first for the characters between two stars, and need not: what a star matches it
also matches with more in front.  So a match is found within a number of steps that is linear in the
length of the pattern for every place in the name.
-/

namespace PromptScript.Pattern

/-! ## Classes -/

/-- How the members of a class are read from left to right up to the closing bracket, and what is
behind it.  A closing bracket in the first place is a member or begins a range; a range needs an end
that is no closing bracket. -/
inductive Members : (first : Bool) → List Char → List (Char × Char) → List Char → Prop
  | close {rest : List Char} : Members false (']' :: rest) [] rest
  | range {first : Bool} {low high : Char} {later rest : List Char} {ranges : List (Char × Char)}
      (hlow : low = ']' → first = true) (hhigh : high ≠ ']')
      (hlater : Members false later ranges rest) :
      Members first (low :: '-' :: high :: later) ((low, high) :: ranges) rest
  | single {first : Bool} {member : Char} {later rest : List Char} {ranges : List (Char × Char)}
      (hmember : member = ']' → first = true)
      (hrange : ∀ high behind, later = '-' :: high :: behind → high = ']')
      (hlater : Members false later ranges rest) :
      Members first (member :: later) ((member, member) :: ranges) rest

/-- The set that the text behind an opening bracket writes, and the pattern behind the class. -/
inductive Class : List Char → CharSet → List Char → Prop
  | plain {members rest : List Char} {ranges : List (Char × Char)}
      (hmark : members.head? ≠ some '!' ∧ members.head? ≠ some '^')
      (hmembers : Members true members ranges rest) : Class members ⟨ranges, false⟩ rest
  | negated {mark : Char} {members rest : List Char} {ranges : List (Char × Char)}
      (hmark : mark = '!' ∨ mark = '^') (hmembers : Members true members ranges rest) :
      Class (mark :: members) ⟨ranges, true⟩ rest

variable {c : Char} {first found inClass : Bool} {members rest : List Char}
  {ranges : List (Char × Char)} {set : CharSet}

/-- Whether a character lies in one of some ranges. -/
def inRanges (c : Char) (ranges : List (Char × Char)) : Bool :=
  ranges.any fun range => range.1 ≤ c && c ≤ range.2

theorem inRanges_single (c member : Char) : inRanges c [(member, member)] = (member == c) := by
  by_cases hsame : member = c
  · simp [inRanges, hsame]
  · have hapart : ¬(member ≤ c ∧ c ≤ member) := fun h => hsame (Char.le_antisymm h.1 h.2)
    rw [beq_false_of_ne hsame, ← Bool.not_eq_true]
    simpa [inRanges] using hapart

theorem classMembers_close (c : Char) (found : Bool) (rest : List Char) :
    classMembers c false found (']' :: rest) = some (found, rest) := by
  rw [classMembers.eq_def]
  split
  next hnil => cases hnil
  next low high later hmembers =>
    obtain ⟨rfl, rfl⟩ := List.cons.inj hmembers
    rw [if_pos ⟨rfl, rfl⟩]
  next low later _ hmembers =>
    obtain ⟨rfl, rfl⟩ := List.cons.inj hmembers
    rw [if_pos ⟨rfl, rfl⟩]

theorem classMembers_single {member : Char} (hmember : member = ']' → first = true)
    (hrange : ∀ high behind, rest = '-' :: high :: behind → high = ']') :
    classMembers c first found (member :: rest) =
      classMembers c false (found || member == c) rest := by
  have hopen : ¬(member = ']' ∧ first = false) := by
    rintro ⟨hsame, hfirst⟩
    simp [hmember hsame] at hfirst
  rw [classMembers.eq_def]
  split
  next hnil => cases hnil
  next low high later hmembers =>
    obtain ⟨rfl, rfl⟩ := List.cons.inj hmembers
    rw [if_neg hopen, if_pos (hrange high later rfl)]
  next low later _ hmembers =>
    obtain ⟨rfl, rfl⟩ := List.cons.inj hmembers
    rw [if_neg hopen]

theorem classMembers_of_members (hmembers : Members first members ranges rest) (found : Bool) :
    classMembers c first found members = some (found || inRanges c ranges, rest) := by
  induction hmembers generalizing found with
  | close => simp [classMembers_close, inRanges]
  | @range first low high later rest ranges hlow hhigh hlater ih =>
      have hopen : ¬(low = ']' ∧ first = false) := by
        rintro ⟨hsame, hfirst⟩
        simp [hlow hsame] at hfirst
      rw [classMembers, if_neg hopen, if_neg hhigh, ih]
      simp [inRanges, Bool.or_assoc]
  | @single first member later rest ranges hmember hrange hlater ih =>
      rw [classMembers_single hmember hrange, ih, ← inRanges_single]
      simp [inRanges, Bool.or_assoc]

theorem exists_members (hread : classMembers c first found members = some (inClass, rest)) :
    ∃ ranges, Members first members ranges rest := by
  fun_induction classMembers c first found members with
  | case1 => cases hread
  | case2 first found low high later hclose =>
      cases hread
      obtain ⟨rfl, rfl⟩ := hclose
      exact ⟨[], .close⟩
  | case3 first found low later hopen ih =>
      obtain ⟨ranges, hlater⟩ := ih hread
      refine ⟨(low, low) :: ranges, .single ?_ ?_ hlater⟩
      · intro hsame
        simpa using fun hfirst => hopen ⟨hsame, hfirst⟩
      · intro high behind hbehind
        cases hbehind
        rfl
  | case4 first found low high later hopen hhigh ih =>
      obtain ⟨ranges, hlater⟩ := ih hread
      refine ⟨(low, high) :: ranges, .range ?_ hhigh hlater⟩
      intro hsame
      simpa using fun hfirst => hopen ⟨hsame, hfirst⟩
  | case5 first found member later hplain hclose =>
      cases hread
      obtain ⟨rfl, rfl⟩ := hclose
      exact ⟨[], .close⟩
  | case6 first found member later hplain hopen ih =>
      obtain ⟨ranges, hlater⟩ := ih hread
      refine ⟨(member, member) :: ranges, .single ?_ ?_ hlater⟩
      · intro hsame
        simpa using fun hfirst => hopen ⟨hsame, hfirst⟩
      · intro high behind hbehind
        exact absurd hbehind (hplain high behind)

theorem classMatch?_of_class (hclass : Class members set rest) (c : Char) :
    classMatch? c members = some (set.contains c, rest) := by
  cases hclass with
  | @plain _ _ ranges hmark hmembers =>
      have hread := classMembers_of_members (c := c) hmembers false
      rw [classMatch?.eq_def]
      split
      next => exact absurd rfl hmark.1
      next => exact absurd rfl hmark.2
      next => simpa [CharSet.contains, inRanges] using hread
  | @negated mark members _ ranges hmark hmembers =>
      have hread := classMembers_of_members (c := c) hmembers false
      rcases hmark with rfl | rfl
      all_goals simp [classMatch?, hread, CharSet.contains, inRanges]

theorem exists_class (hread : classMatch? c members = some (inClass, rest)) :
    ∃ set, Class members set rest := by
  rw [classMatch?.eq_def] at hread
  split at hread
  next members =>
    obtain ⟨⟨found, later⟩, hmembers, hsame⟩ := Option.map_eq_some_iff.mp hread
    cases hsame
    obtain ⟨ranges, hranges⟩ := exists_members hmembers
    exact ⟨_, .negated (.inl rfl) hranges⟩
  next members =>
    obtain ⟨⟨found, later⟩, hmembers, hsame⟩ := Option.map_eq_some_iff.mp hread
    cases hsame
    obtain ⟨ranges, hranges⟩ := exists_members hmembers
    exact ⟨_, .negated (.inr rfl) hranges⟩
  next hno hnegated =>
    obtain ⟨ranges, hranges⟩ := exists_members hread
    refine ⟨_, .plain ⟨?_, ?_⟩ hranges⟩
    · intro hhead
      obtain ⟨later, rfl⟩ := List.head?_eq_some_iff.mp hhead
      exact hno later rfl
    · intro hhead
      obtain ⟨later, rfl⟩ := List.head?_eq_some_iff.mp hhead
      exact hnegated later rfl

/-! ## Matches -/

/-- Whether the pattern begins with something that takes one character, and the pattern behind it.
An opening bracket whose class is not closed stands for itself. -/
inductive Takes : List Char → Char → List Char → Prop
  | any {c : Char} {rest : List Char} : Takes ('?' :: rest) c rest
  | member {c : Char} {members rest : List Char} {set : CharSet}
      (hclass : Class members set rest) (hmember : set.contains c = true) :
      Takes ('[' :: members) c rest
  | bracket {rest : List Char} (hopen : ∀ set behind, ¬Class rest set behind) :
      Takes ('[' :: rest) '[' rest
  | itself {c : Char} {rest : List Char} (hplain : c ≠ '*' ∧ c ≠ '?' ∧ c ≠ '[') :
      Takes (c :: rest) c rest

/-- Whether a pattern matches a name as a whole. -/
inductive Matches : List Char → List Char → Prop
  | done : Matches [] []
  | run {rest taken others : List Char} (hrest : Matches rest others) :
      Matches ('*' :: rest) (taken ++ others)
  | one {c : Char} {pattern rest others : List Char} (htakes : Takes pattern c rest)
      (hrest : Matches rest others) : Matches pattern (c :: others)

variable {pattern name others behind : List Char} {steps : Nat}

theorem Takes.length_lt (htakes : Takes pattern c rest) : rest.length < pattern.length := by
  cases htakes with
  | member hclass =>
      have hshorter := length_lt_of_classMatch? (classMatch?_of_class hclass c)
      exact Nat.lt_succ_of_lt hshorter
  | _ => exact Nat.lt_succ_self _

theorem Takes.head?_ne (htakes : Takes pattern c rest) : pattern.head? ≠ some '*' := by
  cases htakes with
  | itself hplain => simpa using hplain.1
  | _ => simp

/-- What is left of a pattern does not depend on the character that it takes. -/
theorem Takes.unique {d : Char} (htakes : Takes pattern c rest) (hother : Takes pattern d behind) :
    behind = rest := by
  cases htakes with
  | any =>
      cases hother with
      | any => rfl
      | itself hplain => exact absurd rfl hplain.2.1
  | member hclass =>
      cases hother with
      | member hother =>
          have hsame := (classMatch?_of_class hclass c).symm.trans (classMatch?_of_class hother c)
          exact (congrArg Prod.snd (Option.some.inj hsame)).symm
      | bracket hopen => exact absurd hclass (hopen _ _)
      | itself hplain => exact absurd rfl hplain.2.2
  | bracket hopen =>
      cases hother with
      | member hother => exact absurd hother (hopen _ _)
      | bracket => rfl
      | itself hplain => exact absurd rfl hplain.2.2
  | itself hplain =>
      cases hother with
      | any => exact absurd rfl hplain.2.1
      | member => exact absurd rfl hplain.2.2
      | bracket => exact absurd rfl hplain.2.2
      | itself => rfl

theorem matches_nil_iff : Matches [] name ↔ name = [] := by
  constructor
  · intro hmatches
    cases hmatches with
    | done => rfl
    | one htakes => exact absurd htakes.length_lt (Nat.not_lt_zero _)
  · rintro rfl
    exact .done

/-- A pattern that does not begin with a star takes the first character. -/
theorem matches_cons_iff (hhead : pattern.head? ≠ some '*') :
    Matches pattern (c :: others) ↔ ∃ rest, Takes pattern c rest ∧ Matches rest others := by
  constructor
  · intro hmatches
    generalize hname : c :: others = name at hmatches
    cases hmatches with
    | done => cases hname
    | run => exact absurd rfl hhead
    | one htakes hrest =>
        obtain ⟨rfl, rfl⟩ := List.cons.inj hname
        exact ⟨_, htakes, hrest⟩
  · rintro ⟨rest, htakes, hrest⟩
    exact .one htakes hrest

theorem not_matches_nil (hhead : pattern.head? ≠ some '*') (hsome : pattern ≠ []) :
    ¬Matches pattern [] := by
  intro hmatches
  generalize hname : ([] : List Char) = name at hmatches
  cases hmatches with
  | done => exact hsome rfl
  | run => exact hhead rfl
  | one => cases hname

/-- Stars next to one another are one star, which takes off any run of characters. -/
theorem matches_star_iff :
    Matches ('*' :: rest) name ↔
      ∃ others, others <:+ name ∧ Matches (rest.dropWhile (· == '*')) others := by
  induction rest generalizing name with
  | nil =>
      constructor
      · intro hmatches
        exact ⟨[], List.nil_suffix, .done⟩
      · rintro ⟨others, ⟨taken, rfl⟩, hrest⟩
        exact .run hrest
  | cons d rest ih =>
      have hrun : Matches ('*' :: d :: rest) name ↔
          ∃ others, others <:+ name ∧ Matches (d :: rest) others := by
        constructor
        · intro hmatches
          cases hmatches with
          | run hrest => exact ⟨_, List.suffix_append _ _, hrest⟩
          | one htakes => exact absurd rfl htakes.head?_ne
        · rintro ⟨others, ⟨taken, rfl⟩, hrest⟩
          exact .run hrest
      rw [hrun]
      by_cases hstar : d = '*'
      · subst hstar
        have hdrop : ('*' :: rest).dropWhile (· == '*') = rest.dropWhile (· == '*') := by simp
        rw [hdrop]
        constructor
        · rintro ⟨others, hothers, hrest⟩
          obtain ⟨later, hlater, hmatches⟩ := ih.mp hrest
          exact ⟨later, hlater.trans hothers, hmatches⟩
        · rintro ⟨others, hothers, hrest⟩
          exact ⟨others, hothers, ih.mpr ⟨others, List.suffix_refl _, hrest⟩⟩
      · rw [List.dropWhile_cons_of_neg (by simpa using hstar)]

/-- What a star matches it matches with more in front. -/
theorem matches_star_of_suffix (hmatches : Matches ('*' :: rest) others)
    (hothers : others <:+ name) :
    Matches ('*' :: rest) name := by
  obtain ⟨later, hlater, hrest⟩ := matches_star_iff.mp hmatches
  exact matches_star_iff.mpr ⟨later, hlater.trans hothers, hrest⟩

/-! ## The search -/

theorem search_of_exhausted (hsteps : maxSteps ≤ steps) :
    search pattern name steps = (false, steps + 1) := by
  rw [search.eq_def, if_pos (Nat.lt_succ_of_le hsteps)]

theorem search_nil (hsteps : steps < maxSteps) :
    search [] name steps = (name.isEmpty, steps + 1) := by
  rw [search.eq_def, if_neg (Nat.not_lt.mpr hsteps)]

theorem search_star (hsteps : steps < maxSteps) :
    search ('*' :: rest) name steps =
      if rest.dropWhile (· == '*') = [] then (true, steps + 1)
      else searchRuns (rest.dropWhile (· == '*')) name (steps + 1) := by
  rw [search.eq_def, if_neg (Nat.not_lt.mpr hsteps)]
  split
  next hnil => cases hnil
  next hpattern =>
    obtain rfl := (List.cons.inj hpattern).2
    split
    next hnone => rw [if_pos hnone]
    next later behind hsome => rw [if_neg (by simp [hsome]), hsome]
  next hpattern => exact absurd (List.cons.inj hpattern).1 (by decide)
  next hpattern => exact absurd (List.cons.inj hpattern).1 (by decide)
  next hstar _ _ hpattern => exact absurd (List.cons.inj hpattern).1.symm hstar

theorem search_bracket (hsteps : steps < maxSteps) :
    search ('[' :: rest) (c :: others) steps =
      (classMatch? c rest).elim
        (if c = '[' then search rest others (steps + 1) else (false, steps + 1))
        fun read => if read.1 then search read.2 others (steps + 1) else (false, steps + 1) := by
  rw [search.eq_def, if_neg (Nat.not_lt.mpr hsteps)]
  split
  next hnil => cases hnil
  next hpattern => exact absurd (List.cons.inj hpattern).1 (by decide)
  next hpattern => exact absurd (List.cons.inj hpattern).1 (by decide)
  next hpattern =>
    obtain rfl := (List.cons.inj hpattern).2
    split
    next hname => cases hname
    next hname =>
      obtain ⟨rfl, rfl⟩ := List.cons.inj hname
      split
      next hread => rw [hread]; rfl
      next hread => rw [hread]; rfl
      next hread => rw [hread]; rfl
  next hbracket hpattern => exact absurd (List.cons.inj hpattern).1.symm hbracket

theorem search_plain {expected : Char} (hsteps : steps < maxSteps)
    (hplain : expected ≠ '*' ∧ expected ≠ '?' ∧ expected ≠ '[') :
    search (expected :: rest) (c :: others) steps =
      if c = expected then search rest others (steps + 1) else (false, steps + 1) := by
  obtain ⟨hstar, hany, hbracket⟩ := hplain
  rw [search.eq_def, if_neg (Nat.not_lt.mpr hsteps)]
  split
  next hnil => cases hnil
  next hpattern => exact absurd (List.cons.inj hpattern).1 hstar
  next hpattern => exact absurd (List.cons.inj hpattern).1 hany
  next hpattern => exact absurd (List.cons.inj hpattern).1 hbracket
  next hpattern =>
    obtain ⟨rfl, rfl⟩ := List.cons.inj hpattern
    rfl

theorem search_takes (hsteps : steps < maxSteps) (htakes : Takes pattern c rest) :
    search pattern (c :: others) steps = search rest others (steps + 1) := by
  cases htakes with
  | any =>
      rw [search.eq_def, if_neg (Nat.not_lt.mpr hsteps)]
      rfl
  | member hclass hmember =>
      rw [search_bracket hsteps, classMatch?_of_class hclass, hmember]
      rfl
  | bracket hopen =>
      cases hread : classMatch? '[' rest with
      | none => rw [search_bracket hsteps, hread, Option.elim_none, if_pos rfl]
      | some read =>
          obtain ⟨set, hclass⟩ := exists_class hread
          exact absurd hclass (hopen _ _)
  | itself hplain => rw [search_plain hsteps hplain, if_pos rfl]

theorem exists_takes_or_search_stuck (hsteps : steps < maxSteps) (hsome : pattern ≠ [])
    (hhead : pattern.head? ≠ some '*') (c : Char) (others : List Char) :
    (∃ rest, Takes pattern c rest) ∨ search pattern (c :: others) steps = (false, steps + 1) := by
  obtain ⟨d, rest, rfl⟩ := List.exists_cons_of_ne_nil hsome
  have hstar : d ≠ '*' := by simpa using hhead
  by_cases hany : d = '?'
  · subst hany
    exact .inl ⟨rest, .any⟩
  by_cases hbracket : d = '['
  · subst hbracket
    rw [search_bracket hsteps]
    rcases hread : classMatch? c rest with _ | ⟨inClass, later⟩
    · by_cases hsame : c = '['
      · subst hsame
        refine .inl ⟨rest, .bracket fun set behind hclass => ?_⟩
        cases hread.symm.trans (classMatch?_of_class hclass '[')
      · exact .inr (if_neg hsame)
    · cases inClass with
      | false => exact .inr rfl
      | true =>
          obtain ⟨set, hclass⟩ := exists_class hread
          have hmember := hread.symm.trans (classMatch?_of_class hclass c)
          exact .inl ⟨later, .member hclass (congrArg Prod.fst (Option.some.inj hmember)).symm⟩
  · rw [search_plain hsteps ⟨hstar, hany, hbracket⟩]
    by_cases hsame : c = d
    · subst hsame
      exact .inl ⟨rest, .itself ⟨hstar, hany, hbracket⟩⟩
    · exact .inr (if_neg hsame)

theorem search_of_no_name (hsteps : steps < maxSteps) (hsome : pattern ≠ [])
    (hhead : pattern.head? ≠ some '*') : search pattern [] steps = (false, steps + 1) := by
  obtain ⟨d, rest, rfl⟩ := List.exists_cons_of_ne_nil hsome
  rw [search.eq_def, if_neg (Nat.not_lt.mpr hsteps)]
  split
  next hnil => cases hnil
  next hpattern => exact absurd (congrArg List.head? hpattern) hhead
  all_goals rfl

/-- A pattern that neither is empty nor begins with a star takes the first character, or matches
nothing. -/
theorem search_cases (name : List Char) (hsteps : steps < maxSteps) (hsome : pattern ≠ [])
    (hhead : pattern.head? ≠ some '*') :
    (∃ c others rest, name = c :: others ∧ Takes pattern c rest ∧
        search pattern name steps = search rest others (steps + 1)) ∨
      search pattern name steps = (false, steps + 1) ∧ ¬Matches pattern name := by
  cases name with
  | nil => exact .inr ⟨search_of_no_name hsteps hsome hhead, not_matches_nil hhead hsome⟩
  | cons c others =>
      by_cases htakes : ∃ rest, Takes pattern c rest
      · obtain ⟨rest, htakes⟩ := htakes
        exact .inl ⟨c, others, rest, rfl, htakes, search_takes hsteps htakes⟩
      · have hstuck :=
          (exists_takes_or_search_stuck hsteps hsome hhead c others).resolve_left htakes
        refine .inr ⟨hstuck, fun hmatches => ?_⟩
        obtain ⟨rest, hrest, -⟩ := (matches_cons_iff hhead).mp hmatches
        exact htakes ⟨rest, hrest⟩

/-! ## What is found is a match -/

theorem exists_of_searchRuns
    (hsound : ∀ others steps, (search pattern others steps).1 = true → Matches pattern others)
    (hfound : (searchRuns pattern name steps).1 = true) :
    ∃ others, others <:+ name ∧ Matches pattern others := by
  induction name generalizing steps with
  | nil =>
      rw [searchRuns.eq_def] at hfound
      by_cases hhere : (search pattern [] steps).1 = true
      · exact ⟨[], List.suffix_refl _, hsound _ _ hhere⟩
      · simp [hhere] at hfound
  | cons c others ih =>
      rw [searchRuns.eq_def] at hfound
      by_cases hhere : (search pattern (c :: others) steps).1 = true
      · exact ⟨c :: others, List.suffix_refl _, hsound _ _ hhere⟩
      · simp only [hhere] at hfound
        obtain ⟨later, hlater, hmatches⟩ := ih hfound
        exact ⟨later, hlater.trans (List.suffix_cons c others), hmatches⟩

theorem length_dropWhile_star_le (rest : List Char) :
    (rest.dropWhile (· == '*')).length ≤ rest.length :=
  (List.dropWhile_sublist _).length_le

theorem matches_of_search (hfound : (search pattern name steps).1 = true) :
    Matches pattern name := by
  induction hlength : pattern.length using Nat.strongRecOn generalizing pattern name steps with
  | ind length ih =>
      subst hlength
      rcases Nat.lt_or_ge steps maxSteps with hsteps | hsteps
      case inr =>
        rw [search_of_exhausted hsteps] at hfound
        cases hfound
      by_cases hnone : pattern = []
      · subst hnone
        rw [search_nil hsteps] at hfound
        exact matches_nil_iff.mpr (List.isEmpty_iff.mp hfound)
      by_cases hhead : pattern.head? = some '*'
      · obtain ⟨rest, rfl⟩ := List.head?_eq_some_iff.mp hhead
        rw [search_star hsteps] at hfound
        rw [matches_star_iff]
        split at hfound
        next hstars => exact ⟨[], List.nil_suffix, hstars ▸ .done⟩
        next =>
          refine exists_of_searchRuns (fun others later hlater => ?_) hfound
          exact ih _ (Nat.lt_succ_of_le (length_dropWhile_star_le rest)) hlater rfl
      · rcases search_cases name hsteps hnone hhead with
          ⟨c, others, rest, rfl, htakes, hsearch⟩ | ⟨hsearch, -⟩
        · rw [hsearch] at hfound
          exact .one htakes (ih _ htakes.length_lt hfound rfl)
        · rw [hsearch] at hfound
          cases hfound

/-! ## What matches is found in time -/

/-- Whether the characters of a pattern in front of a star take characters of a name one by one, and
what is left of both. -/
inductive Passes : List Char → List Char → List Char → List Char → Prop
  | star {rest name : List Char} : Passes ('*' :: rest) name ('*' :: rest) name
  | one {c : Char} {pattern others rest star behind : List Char} (htakes : Takes pattern c rest)
      (hrest : Passes rest others star behind) : Passes pattern (c :: others) star behind

variable {star later : List Char}

theorem Passes.exists_rest (hpasses : Passes pattern name star behind) :
    ∃ rest, star = '*' :: rest := by
  induction hpasses with
  | star => exact ⟨_, rfl⟩
  | one htakes hrest ih => exact ih

/-- A search that reaches the star goes on from there. -/
theorem Passes.search_eq (hpasses : Passes pattern name star behind) :
    ∃ count, star.length + count ≤ pattern.length ∧ behind.length + count = name.length ∧
      (pattern.head? ≠ some '*' → 0 < count) ∧
      ∀ steps, steps + count ≤ maxSteps →
        search pattern name steps = search star behind (steps + count) := by
  induction hpasses with
  | star => exact ⟨0, Nat.le_refl _, rfl, fun hhead => absurd rfl hhead, fun steps hsteps => rfl⟩
  | one htakes hrest ih =>
      obtain ⟨count, hpattern, hname, -, hsearch⟩ := ih
      have hshorter := htakes.length_lt
      refine ⟨count + 1, by omega, by simp only [List.length_cons]; omega,
        fun _ => Nat.succ_pos _, fun steps hsteps => ?_⟩
      rw [search_takes (by omega) htakes, hsearch (steps + 1) (by omega), Nat.add_right_comm,
        Nat.add_assoc]

/-- The star is reached from every name that the pattern matches, and where that name is a part of
another one, what is left of it is a part of what is left of the other. -/
theorem Passes.matches_star (hpasses : Passes pattern name star behind)
    (hmatches : Matches pattern others) (hothers : others <:+ name) :
    ∃ later, later <:+ behind ∧ Matches star later := by
  induction hpasses generalizing others with
  | star => exact ⟨others, hothers, hmatches⟩
  | @one c pattern name rest star behind htakes hrest ih =>
      cases others with
      | nil =>
          refine absurd hmatches (not_matches_nil htakes.head?_ne ?_)
          rintro rfl
          exact absurd htakes.length_lt (Nat.not_lt_zero _)
      | cons d others =>
          obtain ⟨rest', htakes', hmatches'⟩ := (matches_cons_iff htakes.head?_ne).mp hmatches
          obtain rfl := htakes.unique htakes'
          refine ih hmatches' ?_
          rcases List.suffix_cons_iff.mp hothers with hsame | hlater
          · exact (List.cons.inj hsame).2 ▸ List.suffix_refl _
          · exact (List.suffix_cons d others).trans hlater

/-- In front of the first star a search either reaches the star or is settled. -/
theorem passes_or_settled (pattern name : List Char) :
    (∃ star behind, Passes pattern name star behind) ∨
      ∀ steps, steps + pattern.length + 1 ≤ maxSteps →
        (search pattern name steps).2 ≤ steps + pattern.length + 1 ∧
          (Matches pattern name → (search pattern name steps).1 = true) := by
  induction hlength : pattern.length using Nat.strongRecOn generalizing pattern name with
  | ind length ih =>
      subst hlength
      by_cases hnone : pattern = []
      · subst hnone
        refine .inr fun steps hsteps => ?_
        rw [search_nil (by omega)]
        exact ⟨by simp, fun hmatches => List.isEmpty_iff.mpr (matches_nil_iff.mp hmatches)⟩
      by_cases hhead : pattern.head? = some '*'
      · obtain ⟨rest, rfl⟩ := List.head?_eq_some_iff.mp hhead
        exact .inl ⟨_, _, .star⟩
      by_cases htakes : ∃ c others rest, name = c :: others ∧ Takes pattern c rest
      · obtain ⟨c, others, rest, rfl, htakes⟩ := htakes
        have hshorter := htakes.length_lt
        rcases ih _ hshorter rest others rfl with ⟨star, behind, hpasses⟩ | hsettled
        · exact .inl ⟨star, behind, .one htakes hpasses⟩
        · refine .inr fun steps hsteps => ?_
          obtain ⟨htaken, hfound⟩ := hsettled (steps + 1) (by omega)
          rw [search_takes (by omega) htakes]
          refine ⟨by omega, fun hmatches => hfound ?_⟩
          obtain ⟨rest', htakes', hmatches'⟩ := (matches_cons_iff hhead).mp hmatches
          exact htakes.unique htakes' ▸ hmatches'
      · refine .inr fun steps hsteps => ?_
        have hwithin : steps < maxSteps := by omega
        rcases search_cases name hwithin hnone hhead with
          ⟨c, others, rest, hname, hrest, -⟩ | ⟨hsearch, hno⟩
        · exact absurd ⟨c, others, rest, hname, hrest⟩ htakes
        · rw [hsearch]
          exact ⟨by simp, fun hmatches => absurd hmatches hno⟩

/-- The pattern behind a star is tried at one place.  Where the pattern reaches its next star there
and matches at some later place, the match is found here: that star takes what the match leaves to
it.  Otherwise the trial costs at most a step for each character of the pattern. -/
theorem search_here (hhead : pattern.head? ≠ some '*')
    (hfound : ∀ shorter : List Char, shorter.length < pattern.length → ∀ others steps,
      Matches shorter others → steps + (shorter.length + 1) * (others.length + 2) ≤ maxSteps →
      (search shorter others steps).1 = true)
    (hothers : others <:+ name) (hmatches : Matches pattern others)
    (hsteps : steps + (pattern.length + 1) * (name.length + 1) + 1 ≤ maxSteps) :
    (search pattern name steps).1 = true ∨
      (search pattern name steps).2 ≤ steps + pattern.length + 1 ∧ others ≠ name := by
  rw [Nat.succ_mul] at hsteps
  rcases passes_or_settled pattern name with ⟨star, behind, hpasses⟩ | hsettled
  · obtain ⟨count, hpattern, hname, hpositive, hsearch⟩ := hpasses.search_eq
    obtain ⟨later, hlater, hstar⟩ := hpasses.matches_star hmatches hothers
    obtain ⟨rest, rfl⟩ := hpasses.exists_rest
    have hcount := hpositive hhead
    have hproduct : (('*' :: rest).length + 1) * (behind.length + 2) ≤
        pattern.length * (name.length + 1) :=
      Nat.mul_le_mul (by omega) (by omega)
    left
    rw [hsearch steps (by omega)]
    exact hfound _ (by omega) behind _ (matches_star_of_suffix hstar hlater) (by omega)
  · have hlength : pattern.length ≤ pattern.length * (name.length + 1) :=
      Nat.le_mul_of_pos_right _ (Nat.succ_pos _)
    obtain ⟨htaken, hsettles⟩ := hsettled steps (by omega)
    by_cases hsame : others = name
    · exact .inl (hsettles (hsame ▸ hmatches))
    · exact .inr ⟨htaken, hsame⟩

/-- A pattern that does not begin with a star and matches behind some run of characters is found
there, if the patterns shorter than it are found. -/
theorem searchRuns_of_matches (hhead : pattern.head? ≠ some '*')
    (hfound : ∀ shorter : List Char, shorter.length < pattern.length → ∀ others steps,
      Matches shorter others → steps + (shorter.length + 1) * (others.length + 2) ≤ maxSteps →
      (search shorter others steps).1 = true)
    (hothers : others <:+ name) (hmatches : Matches pattern others)
    (hsteps : steps + (pattern.length + 1) * (name.length + 1) + 1 ≤ maxSteps) :
    (searchRuns pattern name steps).1 = true := by
  induction name generalizing steps with
  | nil =>
      obtain rfl := List.suffix_nil.mp hothers
      rw [searchRuns.eq_def]
      rcases search_here hhead hfound hothers hmatches hsteps with hhere | ⟨-, hother⟩
      · simp [hhere]
      · exact absurd rfl hother
  | cons c name ih =>
      rw [searchRuns.eq_def]
      by_cases hhere : (search pattern (c :: name) steps).1 = true
      · simp [hhere]
      obtain ⟨htaken, hother⟩ :=
        (search_here hhead hfound hothers hmatches hsteps).resolve_left hhere
      have hbehind := (List.suffix_cons_iff.mp hothers).resolve_left hother
      simp only [hhere]
      refine ih hbehind ?_
      rw [List.length_cons, Nat.mul_succ] at hsteps
      omega

/-- A pattern that matches is found within the given number of steps. -/
theorem search_of_matches (hmatches : Matches pattern name)
    (hsteps : steps + (pattern.length + 1) * (name.length + 2) ≤ maxSteps) :
    (search pattern name steps).1 = true := by
  induction hlength : pattern.length using Nat.strongRecOn generalizing pattern name steps with
  | ind length ih =>
      subst hlength
      have hfirst : name.length + 2 ≤ (pattern.length + 1) * (name.length + 2) :=
        Nat.le_mul_of_pos_left _ (Nat.succ_pos _)
      have hwithin : steps < maxSteps := by omega
      by_cases hnone : pattern = []
      · subst hnone
        rw [search_nil hwithin]
        exact List.isEmpty_iff.mpr (matches_nil_iff.mp hmatches)
      by_cases hhead : pattern.head? = some '*'
      · obtain ⟨rest, rfl⟩ := List.head?_eq_some_iff.mp hhead
        rw [search_star hwithin]
        split
        next => rfl
        next hsome =>
          obtain ⟨others, hothers, hrest⟩ := matches_star_iff.mp hmatches
          have hshorter := length_dropWhile_star_le rest
          refine searchRuns_of_matches ?_ ?_ hothers hrest ?_
          · intro hstar
            have hno := List.head?_dropWhile_not (· == '*') rest
            rw [hstar] at hno
            exact absurd hno (by simp)
          · intro shorter hless others' steps' hmatches' hsteps'
            have hlength : shorter.length < ('*' :: rest).length := by
              rw [List.length_cons]
              omega
            exact ih _ hlength hmatches' hsteps' rfl
          · have hproduct : ((rest.dropWhile (· == '*')).length + 1) * (name.length + 1) ≤
                (rest.length + 1) * (name.length + 1) :=
              Nat.mul_le_mul_right _ (by omega)
            rw [List.length_cons, Nat.mul_succ, Nat.succ_mul] at hsteps
            omega
      · rcases search_cases name hwithin hnone hhead with
          ⟨c, others, rest, rfl, htakes, hsearch⟩ | ⟨-, hno⟩
        · have hshorter := htakes.length_lt
          rw [hsearch]
          obtain ⟨rest', htakes', hmatches'⟩ := (matches_cons_iff hhead).mp hmatches
          obtain rfl := htakes.unique htakes'
          refine ih _ hshorter hmatches' ?_ rfl
          have hproduct : (rest'.length + 1) * (others.length + 2) ≤
              pattern.length * (others.length + 1 + 2) := Nat.mul_le_mul (by omega) (by omega)
          rw [List.length_cons, Nat.succ_mul] at hsteps
          omega
        · exact absurd hmatches hno

/-- The search finds only matches, however it ends, and every match where the pattern and the name
are not too long for its steps. -/
theorem globMatch_agrees_with_matches (pattern name : String) :
    (globMatch pattern name = true → Matches pattern.toList name.toList) ∧
      ((pattern.length + 1) * (name.length + 2) ≤ 100000 →
        (globMatch pattern name = true ↔ Matches pattern.toList name.toList)) := by
  refine ⟨matches_of_search, fun hlength => ⟨matches_of_search, fun hmatches => ?_⟩⟩
  apply search_of_matches hmatches
  rw [Nat.zero_add, String.length_toList, String.length_toList]
  exact hlength

theorem globMatch_agrees_with_matches_class :
    Matches "[!a-c]*.[]l-]og".toList "run.log".toList ∧
      ¬Matches "[!a-c]*.[]l-]og".toList "bun.log".toList := by
  have hfound : globMatch "[!a-c]*.[]l-]og" "run.log" = true := by cbv
  have hmissed : globMatch "[!a-c]*.[]l-]og" "bun.log" = false := by cbv
  refine ⟨(globMatch_agrees_with_matches _ _).1 hfound, fun hmatches => ?_⟩
  have hagree := (globMatch_agrees_with_matches "[!a-c]*.[]l-]og" "bun.log").2 (by decide)
  exact Bool.false_ne_true (hmissed.symm.trans (hagree.mpr hmatches))

end PromptScript.Pattern
