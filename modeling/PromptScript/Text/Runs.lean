/-!
# Runs of code points

Sets and labellings of the code points in run-length form.  A set is the list of lengths of runs
that lie outside and inside it by turns, beginning outside; what is not covered lies outside.  A
labelling is the list of its runs from zero on, each a label with a length.
-/

namespace PromptScript.Text

/-- A set of code points: the lengths of the runs outside and inside by turns. -/
abbrev Runs := List Nat

namespace Runs

/-- Whether a code point lies in a set whose first run is inside where `inside` holds. -/
def containsFrom (inside : Bool) : Runs → Nat → Bool
  | [], _ => false
  | length :: rest, code =>
    if code < length then inside else containsFrom (!inside) rest (code - length)

/-- Whether a code point lies in a set. -/
def contains (runs : Runs) (code : Nat) : Bool :=
  containsFrom false runs code

/-- The numbers in a text with spaces between them. -/
def ofText (text : String) : Runs :=
  (text.toList.foldr
    (fun c (place, numbers) =>
      match numbers, c.isDigit with
      | number :: rest, true => (place * 10, (number + place * (c.toNat - 48)) :: rest)
      | [], true => (10, [c.toNat - 48])
      | numbers, false => (1, 0 :: numbers))
    ((1, []) : Nat × List Nat)).2

theorem containsFrom_nil (inside : Bool) (code : Nat) : containsFrom inside [] code = false := rfl

end Runs

/-- The runs of a labelling in a text: a label of letters, then a length. -/
def labelledRuns (text : String) : List (String × Nat) :=
  let step (c : Char) (state : List Char × Nat × Nat × List (String × Nat)) :=
    let (letters, place, length, runs) := state
    if c.isDigit then
      let finished :=
        if letters.isEmpty then runs else (String.ofList letters, length) :: runs
      if letters.isEmpty then (([] : List Char), place * 10, length + place * (c.toNat - 48), runs)
      else ([], 10, c.toNat - 48, finished)
    else (c :: letters, place, length, runs)
  let (letters, _, length, runs) := text.toList.foldr step ([], 1, 0, [])
  if letters.isEmpty then runs else (String.ofList letters, length) :: runs

/-- The label of a code point. -/
def labelAt {Label : Type} (beyond : Label) : List (Label × Nat) → Nat → Label
  | [], _ => beyond
  | (label, length) :: rest, code =>
    if code < length then label else labelAt beyond rest (code - length)

end PromptScript.Text
