import PromptScript.Files.Path
import PromptScript.Proofs.Text.Trim

/-!
# Names in paths

A name that is joined to a path stands behind the pieces of the path, and its component behind the
components of the path.  Components are in a linear order, and paths in the order of their
components, so that names in order are paths in order.
-/

namespace PromptScript

namespace Path

/-- Whether a text can stand between the slashes of a path. -/
structure IsPiece (piece : String) : Prop where
  nonempty : piece ≠ ""
  plain : '/' ∉ piece.toList

/-- Whether a text that stands between slashes is a component of its own, and not the one above. -/
structure IsProper (piece : String) : Prop extends IsPiece piece where
  named : piece ≠ "" ∧ piece ≠ "." ∧ piece ≠ ".."

/-- Whether a text is one name of a path. -/
structure IsName (name : String) : Prop where
  named : name ≠ "" ∧ name ≠ "." ∧ name ≠ ".."
  plain : '/' ∉ name.toList
  written : '\x00' ∉ name.toList

instance (name : String) : Decidable (IsName name) :=
  decidable_of_iff
    ((name ≠ "" ∧ name ≠ "." ∧ name ≠ "..") ∧ '/' ∉ name.toList ∧ '\x00' ∉ name.toList)
    ⟨fun hname => ⟨hname.1, hname.2.1, hname.2.2⟩, fun hname => ⟨hname.1, hname.2, hname.3⟩⟩

theorem IsName.isPiece {name : String} (hname : IsName name) : IsPiece name :=
  ⟨hname.named.1, hname.plain⟩

theorem IsName.isProper {name : String} (hname : IsName name) : IsProper name :=
  ⟨hname.isPiece, hname.named⟩

/-- The pieces before a piece that is joined to a path. -/
def lead (path : String) : List String :=
  if path.isEmpty then []
  else if path.toList.getLast? = some '/' then (pieces path).dropLast
  else pieces path

variable {base piece name : String}

/-- A path that ends in a slash, and the empty one, have an empty piece at the end. -/
theorem pieces_eq_lead (path : String) :
    pieces path = lead path ++ [""] ∨ pieces path = lead path ∧ lead path ≠ [] := by
  rw [lead]
  split
  next hempty =>
    rw [String.isEmpty_iff.mp hempty]
    exact .inl rfl
  next =>
    split
    next hslash =>
      obtain ⟨first, hfirst⟩ := List.getLast?_eq_some_iff.mp hslash
      have hpieces : pieces path = (Text.splitAt '/' first).map String.ofList ++ [""] := by
        simp [pieces, hfirst, Text.splitAt_append_mark, Text.splitAt]
      rw [hpieces, List.dropLast_concat]
      exact .inl rfl
    next =>
      refine .inr ⟨rfl, ?_⟩
      simpa [pieces] using Text.splitAt_ne_nil '/' path.toList

theorem IsPiece.isAbsolute_eq (hpiece : IsPiece piece) : isAbsolute piece = false := by
  cases htext : piece.toList with
  | nil => rw [isAbsolute, htext]; rfl
  | cons c rest =>
      have hslash : c ≠ '/' := by
        rintro rfl
        exact hpiece.plain (by rw [htext]; exact List.mem_cons_self)
      rw [isAbsolute, htext]
      simpa using hslash

theorem IsPiece.pieces_eq (hpiece : IsPiece piece) : pieces piece = [piece] := by
  rw [pieces, Text.splitAt_of_not_mem hpiece.plain, List.map_singleton, String.ofList_toList]

/-! ## Joining a piece to a path -/

theorem join_eq (hpiece : IsPiece piece) :
    join base piece = if base.isEmpty then piece
      else if base.toList.getLast? = some '/' then base ++ piece else base ++ "/" ++ piece := by
  rw [join, hpiece.isAbsolute_eq]
  rfl

theorem pieces_join (hpiece : IsPiece piece) :
    pieces (join base piece) = lead base ++ [piece] := by
  have hlast : Text.splitAt '/' piece.toList = [piece.toList] :=
    Text.splitAt_of_not_mem hpiece.plain
  rw [join_eq hpiece, lead]
  split
  next => exact hpiece.pieces_eq
  next =>
    split
    next hslash =>
      obtain ⟨first, hfirst⟩ := List.getLast?_eq_some_iff.mp hslash
      simp [pieces, hfirst, Text.splitAt_append_mark, hlast, Text.splitAt]
    next =>
      have htext : (base ++ "/" ++ piece).toList = base.toList ++ '/' :: piece.toList := by simp
      simp [pieces, htext, Text.splitAt_append_mark, hlast]

theorem isAbsolute_join (hpiece : IsPiece piece) :
    isAbsolute (join base piece) = isAbsolute base := by
  rw [join_eq hpiece]
  split
  next hempty =>
    rw [hpiece.isAbsolute_eq, String.isEmpty_iff.mp hempty]
    rfl
  next hempty =>
    have hsome : base.toList ≠ [] := by simpa using hempty
    obtain ⟨c, rest, htext⟩ := List.exists_cons_of_ne_nil hsome
    split <;> simp [isAbsolute, htext]

theorem join_ne_empty (hpiece : IsPiece piece) : (join base piece).isEmpty = false := by
  rw [join_eq hpiece]
  have hsome := hpiece.nonempty
  split
  next => simpa using hsome
  next hempty =>
    split <;> simp_all

theorem join_ne (base : String) (hpiece : IsPiece piece) : join base piece ≠ "" := by
  intro hempty
  have hsome : (join base piece).isEmpty = false := join_ne_empty hpiece
  rw [hempty] at hsome
  exact Bool.noConfusion hsome

theorem nul_mem_join_iff (hpiece : IsPiece piece) :
    '\x00' ∈ (join base piece).toList ↔ '\x00' ∈ base.toList ∨ '\x00' ∈ piece.toList := by
  rw [join_eq hpiece]
  split
  next hempty => simp [String.isEmpty_iff.mp hempty]
  next => split <;> simp

/-- The component of a name that is joined to a path stands behind the components of the path. -/
theorem parts_join (hname : IsProper name) :
    parts (join base name) = parts base ++ [.name name] := by
  have hpart : partOfPiece? name = some (.name name) := by
    rw [partOfPiece?, if_neg (by simp [hname.named]), if_neg hname.named.2.2]
  have hparts : (lead base ++ [name]).filterMap partOfPiece? =
      (pieces base).filterMap partOfPiece? ++ [.name name] := by
    have hidle : partOfPiece? "" = none := rfl
    rcases pieces_eq_lead base with hpieces | ⟨hpieces, -⟩
    all_goals simp [hpieces, hpart, hidle]
  have hhead : (lead base ++ [name]).head? = some "." ↔ (pieces base).head? = some "." := by
    rcases pieces_eq_lead base with hpieces | ⟨hpieces, hlead⟩
    · rw [hpieces]
      cases lead base <;> simp [hname.named]
    · obtain ⟨first, rest, hfirst⟩ := List.exists_cons_of_ne_nil hlead
      simp [hpieces, hfirst]
  simp only [parts, isAbsolute_join hname.toIsPiece, pieces_join hname.toIsPiece, hparts, hhead,
    List.append_assoc]

theorem not_slash_of_mem_pieces {path : String} (hpiece : piece ∈ pieces path) :
    '/' ∉ piece.toList := by
  obtain ⟨text, htext, rfl⟩ := List.mem_map.mp hpiece
  rw [String.toList_ofList]
  exact Text.not_mem_of_mem_splitAt htext

/-- The names among the components of a path are pieces of it. -/
theorem isProper_of_mem_parts {path : String} (hname : .name name ∈ parts path) :
    IsProper name := by
  rcases List.mem_append.mp hname with hlead | hlater
  · split at hlead
    next => simp at hlead
    next => split at hlead <;> simp at hlead
  · obtain ⟨piece, hpiece, hpart⟩ := List.mem_filterMap.mp hlater
    rw [partOfPiece?] at hpart
    split at hpart
    next => cases hpart
    next hidle =>
      split at hpart
      next => cases hpart
      next hup =>
        cases hpart
        rw [not_or] at hidle
        exact ⟨⟨hidle.1, not_slash_of_mem_pieces hpiece⟩, hidle.1, hidle.2, hup⟩

end Path

/-! ## The order of paths -/

namespace PathPart

theorem before_irrefl (part : PathPart) : part.before part = false := by
  cases part <;> simp [before]

theorem before_name_iff {first second : String} :
    (name first).before (name second) = true ↔ first < second := by
  rw [before, decide_eq_true_iff]

theorem before_trans {first second third : PathPart} (hfirst : first.before second = true)
    (hsecond : second.before third = true) : first.before third = true := by
  cases first <;> cases second <;> cases third <;>
    first | rfl | exact Bool.noConfusion hfirst | exact Bool.noConfusion hsecond | skip
  rw [before_name_iff] at hfirst hsecond ⊢
  exact String.lt_trans hfirst hsecond

theorem before_total (first second : PathPart) :
    first.before second = true ∨ first = second ∨ second.before first = true := by
  cases first <;> cases second <;>
    first | exact .inl rfl | exact .inr (.inl rfl) | exact .inr (.inr rfl) | skip
  next first second =>
    rw [before_name_iff, before_name_iff]
    by_cases hless : first < second
    · exact .inl hless
    · by_cases hmore : second < first
      · exact .inr (.inr hmore)
      · exact .inr (.inl (congrArg name
          (String.le_antisymm (String.not_lt.mp hmore) (String.not_lt.mp hless))))

end PathPart

namespace Path

theorem partsBefore_append (above first second : List PathPart) :
    partsBefore (above ++ first) (above ++ second) = partsBefore first second := by
  induction above with
  | nil => rfl
  | cons part rest ih => rw [List.cons_append, List.cons_append, partsBefore, if_pos rfl, ih]

/-- Names in order are paths in order. -/
theorem partsBefore_name_eq_false {first second : String} (hordered : first ≤ second) :
    partsBefore [.name second] [.name first] = false := by
  rw [partsBefore]
  by_cases hsame : PathPart.name second = .name first
  · rw [if_pos hsame, partsBefore]
  · rw [if_neg hsame, PathPart.before]
    exact decide_eq_false (String.not_lt.mpr hordered)

theorem partsBefore_irrefl (parts : List PathPart) : partsBefore parts parts = false := by
  induction parts with
  | nil => rfl
  | cons part rest ih => rw [partsBefore, if_pos rfl, ih]

theorem partsBefore_trans {first second third : List PathPart}
    (hfirst : partsBefore first second = true) (hsecond : partsBefore second third = true) :
    partsBefore first third = true := by
  induction first generalizing second third with
  | nil =>
      cases third with
      | nil => cases second <;> simp [partsBefore] at hsecond
      | cons => rfl
  | cons a first ih =>
      cases second with
      | nil => simp [partsBefore] at hfirst
      | cons b second =>
          cases third with
          | nil => simp [partsBefore] at hsecond
          | cons c third =>
              rw [partsBefore] at hfirst hsecond ⊢
              by_cases hab : a = b
              · subst hab
                rw [if_pos rfl] at hfirst
                by_cases hac : a = c
                · rw [if_pos hac] at hsecond ⊢
                  exact ih hfirst hsecond
                · rwa [if_neg hac] at hsecond ⊢
              · rw [if_neg hab] at hfirst
                by_cases hbc : b = c
                · subst hbc
                  rwa [if_neg hab]
                · rw [if_neg hbc] at hsecond
                  have hac := PathPart.before_trans hfirst hsecond
                  rw [if_neg, hac]
                  rintro rfl
                  exact absurd hac (by simp [PathPart.before_irrefl])

theorem partsBefore_asymm {first second : List PathPart}
    (hbefore : partsBefore first second = true) : partsBefore second first = false := by
  rw [← Bool.not_eq_true]
  intro hbehind
  have hself := partsBefore_trans hbefore hbehind
  rw [partsBefore_irrefl] at hself
  exact Bool.noConfusion hself

theorem partsBefore_total (first second : List PathPart) :
    partsBefore first second = true ∨ first = second ∨ partsBefore second first = true := by
  induction first generalizing second with
  | nil =>
      cases second with
      | nil => exact .inr (.inl rfl)
      | cons => exact .inl rfl
  | cons a first ih =>
      cases second with
      | nil => exact .inr (.inr rfl)
      | cons b second =>
          rw [partsBefore, partsBefore]
          by_cases hab : a = b
          · subst hab
            simpa using ih second
          · rw [if_neg hab, if_neg (Ne.symm hab)]
            rcases PathPart.before_total a b with hless | hsame | hmore
            · exact .inl hless
            · exact absurd hsame hab
            · exact .inr (.inr hmore)

/-- What does not stand before another path, which does not stand before a third one, does not stand
before the third one. -/
theorem partsBefore_eq_false_trans {first second third : List PathPart}
    (hfirst : partsBefore second first = false) (hsecond : partsBefore third second = false) :
    partsBefore third first = false := by
  rw [← Bool.not_eq_true] at hfirst hsecond ⊢
  intro hbefore
  rcases partsBefore_total second third with hless | rfl | hmore
  · exact hfirst (partsBefore_trans hless hbefore)
  · exact hfirst hbefore
  · exact hsecond hmore

end Path

end PromptScript
