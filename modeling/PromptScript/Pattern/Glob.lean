/-!
# Glob matching of one name

A pattern for one path component: `*` stands for any run of characters, `?` for one character,
`[..]` for one character of a class, and every other character for itself.  A match is searched
by trying the runs from the shortest on; the search gives up after a fixed number of steps.
-/

namespace PromptScript.Pattern

/-- The number of matching steps after which a search gives up. -/
def maxSteps : Nat := 100000

/-- Whether a text has a character with a meaning of its own in patterns. -/
def containsGlob (text : List Char) : Bool :=
  text.any fun c => c == '*' || c == '?' || c == '[' || c == '\x7b'

/-- Reads the members of a class from left to right up to the closing bracket, which is no member
unless it comes first: whether one of them is the character, and the pattern behind the class.
None where the class is not closed. -/
def classMembers (c : Char) (first found : Bool) : List Char → Option (Bool × List Char)
  | [] => none
  | a :: '-' :: b :: later =>
    if a = ']' ∧ first = false then some (found, '-' :: b :: later)
    else if b = ']' then classMembers c false (found || a == c) ('-' :: b :: later)
    else classMembers c false (found || (a ≤ c && c ≤ b)) later
  | a :: rest =>
    if a = ']' ∧ first = false then some (found, rest)
    else classMembers c false (found || a == c) rest

/-- Whether a character belongs to the class whose text stands behind an opening bracket, and the
pattern behind the class.  None where the class is not closed. -/
def classMatch? (c : Char) : List Char → Option (Bool × List Char)
  | '!' :: members | '^' :: members =>
    (classMembers c true false members).map fun (found, rest) => (!found, rest)
  | members => classMembers c true false members

/-- The pattern behind a class is no longer than the class's text. -/
theorem length_le_of_classMembers {c : Char} {first found inClass : Bool}
    {members rest : List Char} (read : classMembers c first found members = some (inClass, rest)) :
    rest.length < members.length := by
  fun_induction classMembers c first found members <;> grind

theorem length_lt_of_classMatch? {c : Char} {inClass : Bool} {members rest : List Char}
    (read : classMatch? c members = some (inClass, rest)) : rest.length < members.length := by
  unfold classMatch? at read
  split at read
  all_goals
    first
    | exact length_le_of_classMembers read
    | (simp only [Option.map_eq_some_iff, Prod.exists, Prod.mk.injEq] at read
       obtain ⟨found, later, inner, -, rfl⟩ := read
       have := length_le_of_classMembers inner
       simp only [List.length_cons]
       omega)

mutual

/-- Whether the whole name matches the pattern, with the number of steps taken, `steps` of them
before. -/
def search (pattern name : List Char) (steps : Nat) : Bool × Nat :=
  if maxSteps < steps + 1 then (false, steps + 1)
  else
    match pattern with
    | [] => (name.isEmpty, steps + 1)
    | '*' :: rest =>
      match _h : rest.dropWhile (· == '*') with
      | [] => (true, steps + 1)
      | later :: behind => searchRuns (later :: behind) name (steps + 1)
    | '?' :: rest =>
      match name with
      | [] => (false, steps + 1)
      | _ :: others => search rest others (steps + 1)
    | '[' :: rest =>
      match name with
      | [] => (false, steps + 1)
      | c :: others =>
        match _h : classMatch? c rest with
        | some (true, later) => search later others (steps + 1)
        | some (false, _) => (false, steps + 1)
        | none => if c = '[' then search rest others (steps + 1) else (false, steps + 1)
    | expected :: rest =>
      match name with
      | [] => (false, steps + 1)
      | c :: others =>
        if c = expected then search rest others (steps + 1) else (false, steps + 1)
termination_by (pattern.length, 0, name.length)
decreasing_by
  · have := (List.dropWhile_sublist (· == '*') (l := rest)).length_le
    simp only [_h, List.length_cons] at this
    simp only [Prod.lex_def, List.length_cons]
    omega
  · simp [Prod.lex_def]
  · have := length_lt_of_classMatch? _h
    simp only [Prod.lex_def, List.length_cons]
    omega
  · simp [Prod.lex_def]
  · simp [Prod.lex_def]

/-- Whether the pattern matches the name after some run of its first characters is taken off,
trying the shortest run first. -/
def searchRuns (pattern name : List Char) (steps : Nat) : Bool × Nat :=
  let (found, taken) := search pattern name steps
  if found then (true, taken)
  else
    match name with
    | [] => (false, taken)
    | _ :: others => searchRuns pattern others taken
termination_by (pattern.length, 1, name.length)
decreasing_by
  · simp [Prod.lex_def]
  · simp [Prod.lex_def]

end

/-- Whether a name matches a pattern for one path component. -/
def globMatch (pattern name : String) : Bool :=
  (search pattern.toList name.toList 0).1

end PromptScript.Pattern
