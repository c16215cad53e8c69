import PromptScript.Pattern.Expand

/-!
# Groups in braces

Which closing brace belongs to the first opening one of a pattern, and which commas between the two
part alternatives, is said by counting braces.  The two depths by which the reader keeps count, of
the groups that are open in a pattern and of those that are open inside its first one, find just
these braces and commas.
-/

namespace PromptScript.Pattern

variable {depth outer : Nat} {c : Char} {text rest pre body post piece : List Char}
  {pieces : List (List Char)}

/-! ## Braces that pair -/

/-- Whether a text closes every group that it opens, and `depth` groups that were opened before
it. -/
structure Closing (depth : Nat) (text : List Char) : Prop where
  whole : text.count '\x7d' = depth + text.count '\x7b'
  within {front : List Char} (hfront : front <+: text) :
    front.count '\x7d' ≤ depth + front.count '\x7b'

/-- Whether the braces of a text pair. -/
def Balanced (text : List Char) : Prop :=
  Closing 0 text

/-- Whether a text has no braces. -/
def Plain (text : List Char) : Prop :=
  '\x7b' ∉ text ∧ '\x7d' ∉ text

theorem closing_nil_iff : Closing depth [] ↔ depth = 0 := by
  constructor
  · intro hclosing
    exact hclosing.whole.symm
  · rintro rfl
    exact ⟨rfl, fun hfront => by rw [List.prefix_nil.mp hfront]; exact Nat.zero_le _⟩

/-- The depth behind a character is that before it, one more behind an opening brace and one less
behind a closing one. -/
theorem closing_cons_iff (houter : outer + [c].count '\x7d' = depth + [c].count '\x7b') :
    Closing depth (c :: rest) ↔ Closing outer rest := by
  have hcount : ∀ (mark : Char) (text : List Char),
      (c :: text).count mark = [c].count mark + text.count mark := by
    intro mark text
    rw [← List.singleton_append, List.count_append]
  constructor
  · rintro ⟨hwhole, hwithin⟩
    rw [hcount _ rest, hcount _ rest] at hwhole
    refine ⟨by omega, fun {front} hfront => ?_⟩
    have hlonger := hwithin (List.cons_prefix_cons.mpr ⟨rfl, hfront⟩)
    rw [hcount _ front, hcount _ front] at hlonger
    omega
  · rintro ⟨hwhole, hwithin⟩
    refine ⟨by rw [hcount _ rest, hcount _ rest]; omega, fun {front} hfront => ?_⟩
    rcases List.prefix_cons_iff.mp hfront with rfl | ⟨later, rfl, hlater⟩
    · exact Nat.zero_le _
    · have hshorter := hwithin hlater
      rw [hcount _ later, hcount _ later]
      omega

theorem closing_open_iff : Closing depth ('\x7b' :: rest) ↔ Closing (depth + 1) rest :=
  closing_cons_iff rfl

theorem closing_close_iff : Closing (depth + 1) ('\x7d' :: rest) ↔ Closing depth rest :=
  closing_cons_iff rfl

theorem not_closing_close : ¬Closing 0 ('\x7d' :: rest) := by
  intro hclosing
  have hfirst : ['\x7d'] <+: '\x7d' :: rest := ⟨rest, rfl⟩
  exact Nat.not_succ_le_zero 0 (hclosing.within hfirst)

theorem closing_plain_iff (hopen : c ≠ '\x7b') (hclose : c ≠ '\x7d') :
    Closing depth (c :: rest) ↔ Closing depth rest := by
  refine closing_cons_iff ?_
  rw [List.count_eq_zero.mpr (by simpa using hclose.symm),
    List.count_eq_zero.mpr (by simpa using hopen.symm)]

/-- The induction along the characters of a text that closes `depth` groups. -/
@[elab_as_elim]
theorem Closing.induction {motive : (depth : Nat) → (text : List Char) → Closing depth text → Prop}
    (nil : motive 0 [] (closing_nil_iff.mpr rfl))
    (opening : ∀ depth rest (hrest : Closing (depth + 1) rest), motive (depth + 1) rest hrest →
      motive depth ('\x7b' :: rest) (closing_open_iff.mpr hrest))
    (closing : ∀ depth rest (hrest : Closing depth rest), motive depth rest hrest →
      motive (depth + 1) ('\x7d' :: rest) (closing_close_iff.mpr hrest))
    (plain : ∀ depth c rest (hopen : c ≠ '\x7b') (hclose : c ≠ '\x7d')
      (hrest : Closing depth rest), motive depth rest hrest →
      motive depth (c :: rest) ((closing_plain_iff hopen hclose).mpr hrest))
    (hclosing : Closing depth text) : motive depth text hclosing := by
  induction text generalizing depth with
  | nil =>
      obtain rfl := closing_nil_iff.mp hclosing
      exact nil
  | cons c rest ih =>
      by_cases hopen : c = '\x7b'
      · subst hopen
        exact opening depth rest (closing_open_iff.mp hclosing) (ih _)
      by_cases hclose : c = '\x7d'
      · subst hclose
        cases depth with
        | zero => exact absurd hclosing not_closing_close
        | succ depth => exact closing depth rest (closing_close_iff.mp hclosing) (ih _)
      · exact plain depth c rest hopen hclose ((closing_plain_iff hopen hclose).mp hclosing) (ih _)

/-- A text with braces that pair does not change what is closed behind it. -/
theorem Balanced.closing_append_iff (hbalanced : Balanced text) :
    Closing depth (text ++ rest) ↔ Closing depth rest := by
  have hpaired := hbalanced.whole
  constructor
  · rintro ⟨hwhole, hwithin⟩
    rw [List.count_append, List.count_append] at hwhole
    refine ⟨by omega, fun {front} hfront => ?_⟩
    have hlonger := hwithin ((List.prefix_append_right_inj text).mpr hfront)
    rw [List.count_append, List.count_append] at hlonger
    omega
  · rintro ⟨hwhole, hwithin⟩
    refine ⟨by rw [List.count_append, List.count_append]; omega, fun {front} hfront => ?_⟩
    rcases List.prefix_or_prefix_of_prefix hfront (List.prefix_append text rest) with
      hinside | ⟨beyond, rfl⟩
    · have hshorter := hbalanced.within hinside
      omega
    · have hshorter := hwithin ((List.prefix_append_right_inj text).mp hfront)
      rw [List.count_append, List.count_append]
      omega

theorem Balanced.append (hfirst : Balanced text) (hsecond : Balanced rest) :
    Balanced (text ++ rest) :=
  hfirst.closing_append_iff.mpr hsecond

theorem closing_group_iff (hbody : Balanced body) :
    Closing depth ('\x7b' :: (body ++ '\x7d' :: post)) ↔ Closing depth post := by
  rw [closing_open_iff, hbody.closing_append_iff, closing_close_iff]

theorem Plain.balanced (hplain : Plain text) : Balanced text := by
  refine ⟨?_, fun {front} hfront => ?_⟩
  · rw [List.count_eq_zero.mpr hplain.1, List.count_eq_zero.mpr hplain.2]
  · rw [List.count_eq_zero.mpr fun hmem => hplain.2 (hfront.subset hmem)]
    exact Nat.zero_le _

/-- Where braces pair, no closing one stands in front of the first opening one. -/
theorem Balanced.plain (hbalanced : Balanced (pre ++ rest)) (hpre : '\x7b' ∉ pre) : Plain pre := by
  refine ⟨hpre, fun hmem => ?_⟩
  have hwithin := hbalanced.within (List.prefix_append pre rest)
  have hsome := List.count_pos_iff.mpr hmem
  rw [List.count_eq_zero.mpr hpre] at hwithin
  omega

/-! ## The first group -/

/-- Whether a pattern has a first group, with the given texts before, inside and behind its braces:
the first opening brace, and the closing one that belongs to it. -/
structure FirstGroup (text pre body post : List Char) : Prop where
  whole : text = pre ++ '\x7b' :: (body ++ '\x7d' :: post)
  first : '\x7b' ∉ pre
  balanced : Balanced body

theorem closeGroup?_open (depth : Nat) (text : List Char) :
    closeGroup? depth ('\x7b' :: text) =
      (closeGroup? (depth + 1) text).map fun (body, post) => ('\x7b' :: body, post) := by
  rw [closeGroup?.eq_def]
  rfl

theorem closeGroup?_close (depth : Nat) (text : List Char) :
    closeGroup? (depth + 1) ('\x7d' :: text) =
      (closeGroup? depth text).map fun (body, post) => ('\x7d' :: body, post) := by
  rw [closeGroup?.eq_def]
  rfl

theorem closeGroup?_plain (hopen : c ≠ '\x7b') (hclose : c ≠ '\x7d') (depth : Nat)
    (text : List Char) :
    closeGroup? depth (c :: text) =
      (closeGroup? depth text).map fun (body, post) => (c :: body, post) := by
  rw [closeGroup?.eq_def]
  dsimp only
  rw [if_neg hopen, if_neg hclose]

theorem closeGroup?_of_closing (hclosing : Closing depth body) (post : List Char) :
    closeGroup? depth (body ++ '\x7d' :: post) = some (body, post) := by
  induction hclosing using Closing.induction with
  | nil => rfl
  | opening depth rest _ ih => rw [List.cons_append, closeGroup?_open, ih, Option.map_some]
  | closing depth rest _ ih => rw [List.cons_append, closeGroup?_close, ih, Option.map_some]
  | plain depth c rest hopen hclose _ ih =>
      rw [List.cons_append, closeGroup?_plain hopen hclose, ih, Option.map_some]

theorem closing_of_closeGroup? (hclosed : closeGroup? depth text = some (body, post)) :
    Closing depth body := by
  fun_induction closeGroup? depth text generalizing body with
  | case1 => cases hclosed
  | case2 depth rest ih =>
      obtain ⟨⟨inside, after⟩, hfound, hsame⟩ := Option.map_eq_some_iff.mp hclosed
      cases hsame
      exact closing_open_iff.mpr (ih hfound)
  | case3 rest hopen =>
      cases hclosed
      exact closing_nil_iff.mpr rfl
  | case4 rest hopen depth ih =>
      obtain ⟨⟨inside, after⟩, hfound, hsame⟩ := Option.map_eq_some_iff.mp hclosed
      cases hsame
      exact closing_close_iff.mpr (ih hfound)
  | case5 depth c rest hopen hclose ih =>
      obtain ⟨⟨inside, after⟩, hfound, hsame⟩ := Option.map_eq_some_iff.mp hclosed
      cases hsame
      exact (closing_plain_iff hopen hclose).mpr (ih hfound)

theorem firstGroup_of_firstGroup? (hgroup : firstGroup? text = some (pre, body, post)) :
    FirstGroup text pre body post := by
  fun_induction firstGroup? text generalizing pre with
  | case1 => cases hgroup
  | case2 rest =>
      obtain ⟨⟨inside, after⟩, hclosed, hsame⟩ := Option.map_eq_some_iff.mp hgroup
      cases hsame
      have hrest := eq_of_closeGroup? hclosed
      exact ⟨by rw [hrest]; rfl, List.not_mem_nil, closing_of_closeGroup? hclosed⟩
  | case3 c rest hplain ih =>
      obtain ⟨⟨before, inside, after⟩, hfound, hsame⟩ := Option.map_eq_some_iff.mp hgroup
      cases hsame
      obtain ⟨rfl, hfirst, hbalanced⟩ := ih hfound
      refine ⟨rfl, fun hmem => ?_, hbalanced⟩
      exact (List.mem_cons.mp hmem).elim (fun hsame => hplain hsame.symm) hfirst

theorem firstGroup?_append (hpre : '\x7b' ∉ pre) (text : List Char) :
    firstGroup? (pre ++ text) =
      (firstGroup? text).map fun (before, inside, after) => (pre ++ before, inside, after) := by
  induction pre with
  | nil => exact Option.map_id'.symm
  | cons c rest ih =>
      obtain ⟨hc, hrest⟩ := not_or.mp (mt List.mem_cons.mpr hpre)
      rw [List.cons_append, firstGroup?, if_neg (Ne.symm hc), ih hrest, Option.map_map]
      rfl

theorem firstGroup?_eq_some_iff :
    firstGroup? text = some (pre, body, post) ↔ FirstGroup text pre body post := by
  refine ⟨firstGroup_of_firstGroup?, ?_⟩
  rintro ⟨rfl, hfirst, hbalanced⟩
  rw [firstGroup?_append hfirst, firstGroup?, if_pos rfl, closeGroup?_of_closing hbalanced]
  simp

theorem firstGroup?_eq_none_iff :
    firstGroup? text = none ↔ ¬∃ pre body post, FirstGroup text pre body post := by
  simp only [← firstGroup?_eq_some_iff, Option.eq_none_iff_forall_ne_some, Prod.forall,
    not_exists]

/-- Where more groups are closed than are open, the one looked at is. -/
theorem isSome_closeGroup? {inner : Nat} (hclosing : Closing (inner + 1 + depth) text) :
    (closeGroup? inner text).isSome := by
  induction text generalizing inner with
  | nil => exact absurd (closing_nil_iff.mp hclosing) (by omega)
  | cons c rest ih =>
      by_cases hopen : c = '\x7b'
      · subst hopen
        rw [closeGroup?_open, Option.isSome_map]
        have hrest := closing_open_iff.mp hclosing
        rw [Nat.add_right_comm] at hrest
        exact ih hrest
      by_cases hclose : c = '\x7d'
      · subst hclose
        cases inner with
        | zero => rfl
        | succ inner =>
            rw [closeGroup?_close, Option.isSome_map]
            rw [Nat.add_right_comm] at hclosing
            exact ih (closing_close_iff.mp hclosing)
      · rw [closeGroup?_plain hopen hclose, Option.isSome_map]
        exact ih ((closing_plain_iff hopen hclose).mp hclosing)

/-- What opens with a group whose braces pair begins with the whole of it. -/
theorem Balanced.exists_group (hbalanced : Balanced ('\x7b' :: rest)) :
    ∃ body post, rest = body ++ '\x7d' :: post ∧ Balanced body ∧ Balanced post := by
  have hrest : Closing (0 + 1 + 0) rest := closing_open_iff.mp hbalanced
  obtain ⟨⟨body, post⟩, hclosed⟩ := Option.isSome_iff_exists.mp (isSome_closeGroup? hrest)
  obtain rfl := eq_of_closeGroup? hclosed
  have hbody := closing_of_closeGroup? hclosed
  exact ⟨body, post, rfl, hbody, (closing_group_iff hbody).mp hbalanced⟩

/-! ## Alternatives -/

/-- Whether no comma of a text stands where all `depth` groups that were opened before, and all of
its own, are closed. -/
def Uncut (depth : Nat) (text : List Char) : Prop :=
  ∀ front back, text = front ++ ',' :: back → ¬Closing depth front

/-- Whether a text is one alternative: its braces pair, and every comma in it stands inside some of
them. -/
structure IsAlternative (text : List Char) : Prop where
  balanced : Balanced text
  uncut : Uncut 0 text

/-- Whether some alternatives are those of a group, with commas between them. -/
structure Split (body : List Char) (pieces : List (List Char)) : Prop where
  whole : [','].intercalate pieces = body
  nonempty : pieces ≠ []
  alternative : ∀ piece ∈ pieces, IsAlternative piece

theorem uncut_nil (depth : Nat) : Uncut depth [] := by
  intro front back hcomma
  simp at hcomma

theorem uncut_cons_iff (hstep : ∀ {rest}, Closing depth (c :: rest) ↔ Closing outer rest) :
    Uncut depth (c :: rest) ↔ (c = ',' → depth ≠ 0) ∧ Uncut outer rest := by
  constructor
  · intro huncut
    refine ⟨fun hcomma hdepth => ?_, fun front back hrest hfront => ?_⟩
    · exact huncut [] rest (by rw [hcomma]; rfl) (closing_nil_iff.mpr hdepth)
    · exact huncut (c :: front) back (by rw [hrest]; rfl) (hstep.mpr hfront)
  · rintro ⟨hhead, hlater⟩ front back hwhole hfront
    cases front with
    | nil => exact hhead (List.cons.inj hwhole).1 (closing_nil_iff.mp hfront)
    | cons first front =>
        obtain ⟨rfl, hrest⟩ := List.cons.inj hwhole
        exact hlater front back hrest (hstep.mp hfront)

theorem alternatives_comma (rest : List Char) :
    alternatives 0 (',' :: rest) = [] :: alternatives 0 rest := by
  rw [alternatives, if_pos ⟨rfl, rfl⟩]

/-- A character that does not part alternatives belongs to the first one of the rest. -/
theorem alternatives_cons (hcut : c = ',' → depth ≠ 0)
    (houter : outer = if c = '\x7b' then depth + 1 else if c = '\x7d' then depth - 1 else depth)
    (hrest : alternatives outer rest = piece :: pieces) :
    alternatives depth (c :: rest) = (c :: piece) :: pieces := by
  rw [alternatives, if_neg fun hcomma => hcut hcomma.1 hcomma.2, ← houter]
  dsimp only
  rw [hrest]

/-- What stands in front of the end or of a comma is the first alternative, if no comma parts it. -/
theorem alternatives_append (hclosing : Closing depth piece) (huncut : Uncut depth piece)
    (htail : alternatives 0 rest = [] :: pieces) :
    alternatives depth (piece ++ rest) = piece :: pieces := by
  induction hclosing using Closing.induction with
  | nil => exact htail
  | opening depth later _ ih =>
      obtain ⟨hcut, hlater⟩ := (uncut_cons_iff closing_open_iff).mp huncut
      exact alternatives_cons hcut rfl (ih hlater)
  | closing depth later _ ih =>
      obtain ⟨hcut, hlater⟩ := (uncut_cons_iff closing_close_iff).mp huncut
      exact alternatives_cons hcut rfl (ih hlater)
  | plain depth c later hopen hclose _ ih =>
      obtain ⟨hcut, hlater⟩ := (uncut_cons_iff (closing_plain_iff hopen hclose)).mp huncut
      exact alternatives_cons hcut (by rw [if_neg hopen, if_neg hclose]) (ih hlater)

/-- The alternatives of a text, of which the first one closes the groups that were opened before. -/
structure Cut (depth : Nat) (text piece : List Char) (pieces : List (List Char)) : Prop where
  alternatives_eq : alternatives depth text = piece :: pieces
  closing : Closing depth piece
  uncut : Uncut depth piece
  alternative : ∀ other ∈ pieces, IsAlternative other
  whole : [','].intercalate (piece :: pieces) = text

theorem Cut.cons (hcut : c = ',' → depth ≠ 0)
    (houter : outer = if c = '\x7b' then depth + 1 else if c = '\x7d' then depth - 1 else depth)
    (hstep : ∀ {rest}, Closing depth (c :: rest) ↔ Closing outer rest)
    (hrest : Cut outer rest piece pieces) : Cut depth (c :: rest) (c :: piece) pieces where
  alternatives_eq := alternatives_cons hcut houter hrest.alternatives_eq
  closing := hstep.mpr hrest.closing
  uncut := (uncut_cons_iff hstep).mpr ⟨hcut, hrest.uncut⟩
  alternative := hrest.alternative
  whole := by
    rw [← hrest.whole]
    cases pieces <;> simp

theorem Cut.comma (hrest : Cut 0 rest piece pieces) :
    Cut 0 (',' :: rest) [] (piece :: pieces) where
  alternatives_eq := by rw [alternatives_comma, hrest.alternatives_eq]
  closing := closing_nil_iff.mpr rfl
  uncut := uncut_nil 0
  alternative := List.forall_mem_cons.mpr ⟨⟨hrest.closing, hrest.uncut⟩, hrest.alternative⟩
  whole := by
    rw [← hrest.whole]
    rfl

theorem exists_cut (hclosing : Closing depth text) :
    ∃ piece pieces, Cut depth text piece pieces := by
  induction hclosing using Closing.induction with
  | nil =>
      exact ⟨[], [], rfl, closing_nil_iff.mpr rfl, uncut_nil 0, List.forall_mem_nil _, rfl⟩
  | opening depth rest _ ih =>
      obtain ⟨piece, pieces, hcut⟩ := ih
      exact ⟨_, _, .cons (fun hcomma => absurd hcomma (by decide)) rfl closing_open_iff hcut⟩
  | closing depth rest _ ih =>
      obtain ⟨piece, pieces, hcut⟩ := ih
      exact ⟨_, _, .cons (fun hcomma => absurd hcomma (by decide)) rfl closing_close_iff hcut⟩
  | plain depth c rest hopen hclose _ ih =>
      obtain ⟨piece, pieces, hcut⟩ := ih
      by_cases hcomma : c = ',' ∧ depth = 0
      · obtain ⟨rfl, rfl⟩ := hcomma
        exact ⟨_, _, hcut.comma⟩
      · exact ⟨_, _, .cons (fun hsame hdepth => hcomma ⟨hsame, hdepth⟩)
          (by rw [if_neg hopen, if_neg hclose]) (closing_plain_iff hopen hclose) hcut⟩

theorem Split.alternatives_eq (hsplit : Split body pieces) : alternatives 0 body = pieces := by
  obtain ⟨rfl, hsome, halternative⟩ := hsplit
  induction pieces with
  | nil => exact absurd rfl hsome
  | cons piece later ih =>
      obtain ⟨hpiece, hlater⟩ := List.forall_mem_cons.mp halternative
      cases later with
      | nil =>
          have hend : alternatives 0 [] = [] :: [] := rfl
          have halone := alternatives_append hpiece.balanced hpiece.uncut hend
          rw [List.append_nil] at halone
          rwa [List.intercalate_singleton]
      | cons next others =>
          have hcomma := alternatives_comma ([','].intercalate (next :: others))
          rw [ih (List.cons_ne_nil _ _) hlater] at hcomma
          rw [List.intercalate_cons_cons, List.append_assoc]
          exact alternatives_append hpiece.balanced hpiece.uncut hcomma

/-- The reader finds the alternatives of a group, and there are no others. -/
theorem split_iff (hbody : Balanced body) : Split body pieces ↔ alternatives 0 body = pieces := by
  refine ⟨Split.alternatives_eq, ?_⟩
  rintro rfl
  obtain ⟨piece, pieces, hcut⟩ := exists_cut hbody
  rw [hcut.alternatives_eq]
  exact ⟨hcut.whole, List.cons_ne_nil _ _,
    List.forall_mem_cons.mpr ⟨⟨hcut.closing, hcut.uncut⟩, hcut.alternative⟩⟩

theorem Split.balanced (hsplit : Split body pieces) : Balanced body := by
  obtain ⟨rfl, hsome, halternative⟩ := hsplit
  induction pieces with
  | nil => exact absurd rfl hsome
  | cons piece later ih =>
      obtain ⟨hpiece, hlater⟩ := List.forall_mem_cons.mp halternative
      cases later with
      | nil =>
          rw [List.intercalate_singleton]
          exact hpiece.balanced
      | cons next others =>
          have hrest := ih (List.cons_ne_nil _ _) hlater
          have hcomma := (closing_plain_iff (c := ',') (by decide) (by decide)).mpr hrest
          rw [List.intercalate_cons_cons, List.append_assoc]
          exact hpiece.balanced.append hcomma

end PromptScript.Pattern
