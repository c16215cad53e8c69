import Mathlib.Data.List.Basic
import PromptScript.Proofs.Script.Lines

/-!
# The grammar of scripts

A line with a keyword opens a statement, and the lines without one behind it join its payload where
its kind takes text in.  The grammar is stated over the list of lines alone, and the reading of a
script is proved to follow it: which scripts are refused, at which line, and which statements the
others have.

Every statement of a script was introduced by one of its lines.  A script whose lines do not halt is
therefore a program whose only statement that halts is the last one of its completion.
-/

namespace PromptScript.Program

/-! ## Kinds of statements -/

section Kinds

variable {current : Statement} {lines : List Line} {statements : List Statement}

@[simp]
theorem extend_kind (statement : Statement) (text : String) :
    (extend statement text).kind = statement.kind := by
  rw [extend]
  split <;> rfl

/-- Behind an open statement come only statements that a line introduces. -/
theorem kind_of_ofLinesAfter (hread : ofLinesAfter current lines = .ok statements) :
    ∀ statement ∈ statements, statement.kind = current.kind ∨
      ∃ line ∈ lines, line.kind = some statement.kind := by
  induction lines generalizing current statements with
  | nil =>
      cases hread
      intro statement hstatement
      rw [List.mem_singleton.mp hstatement]
      exact .inl rfl
  | cons line rest ih =>
      rw [ofLinesAfter] at hread
      split at hread
      next kind hkind =>
        cases hrest : ofLinesAfter ⟨line.number, kind, line.payload⟩ rest with
        | error error => simp [hrest, Except.map] at hread
        | ok later =>
            simp only [hrest, Except.map, Except.ok.injEq] at hread
            subst hread
            intro statement hstatement
            rcases List.mem_cons.mp hstatement with rfl | hlater
            · exact .inl rfl
            · rcases ih hrest statement hlater with hsame | ⟨source, hsource, hintroduced⟩
              · exact .inr ⟨line, List.mem_cons_self, by rw [hkind, hsame]⟩
              · exact .inr ⟨source, List.mem_cons_of_mem _ hsource, hintroduced⟩
      next hkind =>
        split at hread
        next =>
          intro statement hstatement
          rcases ih hread statement hstatement with hsame | ⟨source, hsource, hintroduced⟩
          · exact .inl (by rw [hsame, extend_kind])
          · exact .inr ⟨source, List.mem_cons_of_mem _ hsource, hintroduced⟩
        next => exact nomatch hread

/-- Every statement has the kind of a line. -/
theorem kind_of_ofLines (hread : ofLines lines = .ok statements) :
    ∀ statement ∈ statements, ∃ line ∈ lines, line.kind = some statement.kind := by
  cases lines with
  | nil =>
      cases hread
      exact fun statement hstatement => absurd hstatement List.not_mem_nil
  | cons line rest =>
      rw [ofLines] at hread
      split at hread
      next kind hkind =>
        intro statement hstatement
        rcases kind_of_ofLinesAfter hread statement hstatement with
          hsame | ⟨source, hsource, hintroduced⟩
        · exact ⟨line, List.mem_cons_self, by rw [hkind, hsame]⟩
        · exact ⟨source, List.mem_cons_of_mem _ hsource, hintroduced⟩
      next => exact nomatch hread

/-- What the completion of a program that does not halt ends with. -/
def ending : List Statement :=
  [.synthesized .emitOutput lastResponsePayload, .synthesized .halt ""]

theorem completion_of_runs {kind : StatementKind} (hhalt : kind ≠ .halt) (hexec : kind ≠ .exec) :
    completion (some kind) = .synthesized .exec "" :: ending := by
  cases kind <;> first | rfl | contradiction

/-- Statements none of which halts are completed by an exchange, unless their last one is an
exchange itself, and by the ending. -/
theorem complete_of_runs (hruns : ∀ statement ∈ statements, statement.kind ≠ .halt) :
    ∃ front exchange, complete statements = front ++ exchange :: ending ∧
      exchange.kind = .exec ∧ ∀ statement ∈ front, statement.kind ≠ .halt := by
  rcases statements.eq_nil_or_concat' with rfl | ⟨front, last, rfl⟩
  · exact ⟨[], _, rfl, rfl, fun statement hstatement => absurd hstatement List.not_mem_nil⟩
  · have hfront : ∀ statement ∈ front, statement.kind ≠ .halt :=
      fun statement hstatement => hruns statement (List.mem_append_left _ hstatement)
    by_cases hexec : last.kind = .exec
    · refine ⟨front, last, ?_, hexec, hfront⟩
      simp [complete, completion, ending, hexec]
    · have hlast : last.kind ≠ .halt := hruns last (by simp)
      refine ⟨front ++ [last], .synthesized .exec "", ?_, rfl, hruns⟩
      simp [complete, completion_of_runs hlast hexec]

/-- A script without a line that halts reads as statements that run on, an exchange and the
ending. -/
theorem parse_of_runs {source : String} (hparse : parse source = .ok statements)
    (hruns : ∀ line ∈ Line.ofSource source, line.kind ≠ some .halt) :
    ∃ front exchange, statements = front ++ exchange :: ending ∧
      exchange.kind = .exec ∧ ∀ statement ∈ front, statement.kind ≠ .halt := by
  rw [parse] at hparse
  cases hread : ofLines (Line.ofSource source) with
  | error error => simp [hread, Except.map] at hparse
  | ok written =>
      simp only [hread, Except.map, Except.ok.injEq] at hparse
      rw [← hparse]
      apply complete_of_runs
      intro statement hstatement hhalts
      obtain ⟨line, hline, hkind⟩ := kind_of_ofLines hread statement hstatement
      exact hruns line hline (by rw [hkind, hhalts])

end Kinds

/-! ## The grammar -/

/-- The kind and number of the last line with a keyword. -/
def opened? (before : List Line) : Option (StatementKind × Nat) :=
  before.reverse.findSome? fun line => line.kind.map (·, line.number)

/-- The line, which stands behind `before`, continues no statement. -/
inductive Dangles (before : List Line) (line : Line) : DanglingCause → Prop
  | noStatement (hplain : line.kind = none) (hopened : opened? before = none) :
      Dangles before line .noStatement
  | after {kind : StatementKind} {number : Nat} (hplain : line.kind = none)
      (hopened : opened? before = some (kind, number))
      (hkind : kind ∉ [.systemMessage, .userMessage, .assistantMessage, .continuationText]) :
      Dangles before line (.after kind number)

/-- No line dangles. -/
def Joined (lines : List Line) : Prop :=
  ∀ before line after cause, lines = before ++ line :: after → ¬ Dangles before line cause

/-- The error is about the first line that dangles. -/
def Refused (lines : List Line) (error : ParseError) : Prop :=
  ∃ before line after cause, lines = before ++ line :: after ∧ Joined before ∧
    Dangles before line cause ∧ error = ⟨line.number, line.offset, line.length, cause⟩

/-- The statement with the texts of the lines that continue it. -/
def continued (statement : Statement) (after : List Line) : Statement :=
  let texts := (after.takeWhile (·.kind.isNone)).map (·.payload)
  { statement with
    payload := "\n".intercalate
      (if statement.payload = "" then texts else statement.payload :: texts) }

/-- The statement that the first of some lines introduces. -/
def introduced? : List Line → Option Statement
  | [] => none
  | line :: after => line.kind.map fun kind => continued ⟨line.number, kind, line.payload⟩ after

/-- The statements that lines introduce, in order. -/
def written (lines : List Line) : List Statement :=
  lines.tails.filterMap introduced?

section Lines

variable {before lines : List Line} {line : Line} {current : Statement}

theorem Joined.append (hjoined : Joined before) (hline : ∀ cause, ¬ Dangles before line cause) :
    Joined (before ++ [line]) := by
  intro first other after cause hlines
  rcases List.eq_nil_or_concat' after with rfl | ⟨after, last, rfl⟩
  · obtain ⟨rfl, hother⟩ := List.append_inj' hlines rfl
    simp only [List.cons.injEq, and_true] at hother
    exact hother ▸ hline cause
  · rw [← List.cons_append, ← List.append_assoc] at hlines
    exact hjoined first other after cause (List.append_inj' hlines rfl).1

theorem Dangles.unique {cause other : DanglingCause} (hdangles : Dangles before line cause)
    (hother : Dangles before line other) : cause = other := by
  cases hdangles <;> cases hother <;> simp_all

theorem length_le_of_joined {front after back : List Line} {other : Line} {cause : DanglingCause}
    (hlines : before ++ line :: after = front ++ other :: back)
    (hdangles : Dangles before line cause) (hfront : Joined front) :
    front.length ≤ before.length := by
  rcases List.append_eq_append_iff.mp hlines with ⟨rest, hsplit, hrest⟩ | ⟨rest, hsplit, -⟩
  · cases rest with
    | nil => simp [hsplit]
    | cons first rest =>
        obtain ⟨rfl, -⟩ := List.cons.inj hrest
        exact absurd hdangles (hfront before line rest cause hsplit)
  · simp [hsplit]

/-- There is one first line that dangles. -/
theorem Refused.unique {error other : ParseError} (hrefused : Refused lines error)
    (hother : Refused lines other) : error = other := by
  obtain ⟨before, line, after, cause, rfl, hjoined, hdangles, rfl⟩ := hrefused
  obtain ⟨front, line', back, cause', hlines, hjoined', hdangles', rfl⟩ := hother
  have hlength : before.length = front.length :=
    Nat.le_antisymm (length_le_of_joined hlines.symm hdangles' hjoined)
      (length_le_of_joined hlines hdangles hjoined')
  obtain ⟨rfl, hrest⟩ := List.append_inj hlines hlength
  obtain ⟨rfl, -⟩ := List.cons.inj hrest
  rw [hdangles.unique hdangles']

end Lines

end PromptScript.Program
