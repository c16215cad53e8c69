/-!
# Sets of characters

Sets of characters as they are written in brackets: ranges that hold both their ends, or all
characters outside them, and the sets that have names.
-/

namespace PromptScript.Pattern

/-- A set of characters: ranges that hold both their ends, or all characters outside them. -/
structure CharSet where
  ranges : List (Char × Char)
  negated : Bool
  deriving DecidableEq, Repr

namespace CharSet

/-- The characters of a list. -/
def ofList (members : List Char) : CharSet :=
  ⟨members.map fun c => (c, c), false⟩

/-- All characters. -/
def all : CharSet :=
  ⟨[], true⟩

/-- Whether a character belongs to the set. -/
def contains (set : CharSet) (c : Char) : Bool :=
  set.ranges.any (fun (low, high) => low ≤ c && c ≤ high) != set.negated

/-- All characters outside a set. -/
def complement (set : CharSet) : CharSet :=
  { set with negated := !set.negated }

theorem contains_complement (set : CharSet) (c : Char) :
    set.complement.contains c = !set.contains c := by
  cases h : set.negated <;> simp [complement, contains, h]

/-- The set and the small and capital letters of its members. -/
def foldCase (set : CharSet) : CharSet :=
  let shifted := set.ranges.flatMap fun (low, high) =>
    ((List.range 26).filterMap fun place =>
      let small := Char.ofNat (97 + place)
      let capital := Char.ofNat (65 + place)
      let holds (c : Char) : Bool := low ≤ c && c ≤ high
      if holds small == holds capital then none
      else some (if holds small then (capital, capital) else (small, small)))
  { set with ranges := set.ranges ++ shifted }

/-- The characters of words. -/
def wordChars : CharSet :=
  ⟨[('a', 'z'), ('A', 'Z'), ('0', '9'), ('_', '_')], false⟩

/-- The characters of blank space. -/
def spaces : CharSet :=
  ⟨[('\t', '\r'), (' ', ' ')], false⟩

/-- The set with a name of the portable classes. -/
def named? : String → Option CharSet
  | "alpha" => some ⟨[('a', 'z'), ('A', 'Z')], false⟩
  | "digit" => some ⟨[('0', '9')], false⟩
  | "alnum" => some ⟨[('a', 'z'), ('A', 'Z'), ('0', '9')], false⟩
  | "upper" => some ⟨[('A', 'Z')], false⟩
  | "lower" => some ⟨[('a', 'z')], false⟩
  | "space" => some spaces
  | "blank" => some (.ofList [' ', '\t'])
  | "punct" => some ⟨[('!', '/'), (':', '@'), ('[', '\x60'), ('\x7b', '~')], false⟩
  | "print" => some ⟨[(' ', '~')], false⟩
  | "graph" => some ⟨[('!', '~')], false⟩
  | "cntrl" => some ⟨[('\x00', '\x1f'), ('\x7f', '\x7f')], false⟩
  | "xdigit" => some ⟨[('0', '9'), ('a', 'f'), ('A', 'F')], false⟩
  | _ => none

end CharSet

end PromptScript.Pattern
