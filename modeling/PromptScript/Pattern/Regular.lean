import PromptScript.Pattern.CharSet

/-!
# Regular expressions of tools

Regular expressions as the standard tools match them: of all matches from a place the longest one
counts, and a group on the left takes as much as it can before one on the right.  An expression
without back references is followed through all its choices at once, so that a search takes
polynomial time.
-/

namespace PromptScript.Pattern

/-- A place that a regular expression can demand. -/
inductive Edge where
  /-- The beginning or end of a line. -/
  | lineStart | lineFinish
  /-- The beginning or end of the whole text. -/
  | textStart | textFinish
  /-- A beginning or end of a word, either of them, or none. -/
  | wordStart | wordFinish | wordEdge | noWordEdge
  deriving DecidableEq, Repr

/-- A regular expression. -/
inductive Regular where
  /-- The empty text. -/
  | empty
  /-- One character of a set. -/
  | one (set : CharSet)
  | edge (edge : Edge)
  | sequence (left right : Regular)
  | choice (left right : Regular)
  /-- At least `least` matches of the body in a row, and at most `most`. -/
  | times (least : Nat) (most : Option Nat) (body : Regular)
  /-- A body whose match is numbered. -/
  | group (index : Nat) (body : Regular)
  /-- The text that a group matched. -/
  | again (index : Nat)
  deriving Repr, Inhabited

namespace Regular

/-- Whether an expression refers back to a group. -/
def refersBack : Regular → Bool
  | again _ => true
  | sequence left right | choice left right => left.refersBack || right.refersBack
  | times _ _ body | group _ body => body.refersBack
  | _ => false

/-- A text that is searched. -/
structure Subject where
  text : Array Char
  /-- Whether line feeds end lines within the text. -/
  hasLines : Bool := false
  /-- Whether the place before the text is not the beginning of a line. -/
  isOpen : Bool := false

/-- A place of the text that was reached, with the places of the groups. -/
structure Reached where
  place : Nat
  groups : List (Nat × Nat × Nat)
  deriving DecidableEq, Repr

/-- Whether a place of a text is as demanded. -/
def Subject.isAt (subject : Subject) (edge : Edge) (place : Nat) : Bool :=
  let isWord (place : Nat) : Bool := (subject.text[place]?).any CharSet.wordChars.contains
  let before := place ≠ 0 && isWord (place - 1)
  let after := isWord place
  match edge with
  | .lineStart =>
    if place = 0 then !subject.isOpen else subject.hasLines && subject.text[place - 1]? == some '\n'
  | .lineFinish =>
    place == subject.text.size || (subject.hasLines && subject.text[place]? == some '\n')
  | .textStart => place == 0
  | .textFinish => place == subject.text.size
  | .wordStart => !before && after
  | .wordFinish => before && !after
  | .wordEdge => before != after
  | .noWordEdge => before == after

/-- The furthest places first; of several ways to one place the first one is kept, unless groups
can be asked for again. -/
def arrange (exact : Bool) (reached : List Reached) : List Reached :=
  let sorted := reached.mergeSort fun a b => b.place ≤ a.place
  thin sorted
where
  thin : List Reached → List Reached
    | a :: b :: rest =>
      if (if exact then a == b else a.place == b.place) then thin (a :: rest)
      else a :: thin (b :: rest)
    | rest => rest
  termination_by rest => rest.length

/-- Whether two texts have the same characters from two places on. -/
def sameText (text : Array Char) (a b : Nat) : Nat → Bool
  | 0 => true
  | count + 1 => text[a]? == text[b]? && (text[b]?).isSome && sameText text (a + 1) (b + 1) count

/-- The number of characters of a set from a place on, at most the given one. -/
def runLength (set : CharSet) (text : Array Char) (place : Nat) : Nat → Nat
  | 0 => 0
  | count + 1 =>
    if (text[place]?).any set.contains then runLength set text (place + 1) count + 1 else 0

/-- What is reached by repeating a step, the longest ways first.  Places that were reached before
are not followed again. -/
def repeated (step : Reached → List Reached) (exact : Bool) :
    Nat → (seen : List Reached) → List Reached → List Reached
  | 0, seen, _ => seen
  | _, seen, [] => seen
  | fuel + 1, seen, current =>
    let next := (current.flatMap fun state =>
      (step state).filter fun later => later.place != state.place)
    let fresh := next.filter fun state =>
      !(seen.any fun old => if exact then old == state else old.place == state.place)
    let fresh := arrange exact fresh
    repeated step exact fuel (seen ++ fresh) fresh

/-- What an expression can reach from a place, the furthest first. -/
def reach (subject : Subject) (exact : Bool) : Regular → Reached → List Reached
  | empty, state => [state]
  | one set, state =>
    if (subject.text[state.place]?).any set.contains
    then [{ state with place := state.place + 1 }] else []
  | edge wanted, state => if subject.isAt wanted state.place then [state] else []
  | sequence left right, state =>
    arrange exact ((reach subject exact left state).flatMap (reach subject exact right))
  | choice left right, state =>
    arrange exact (reach subject exact left state ++ reach subject exact right state)
  | times least most body, state =>
    let room := subject.text.size - state.place
    match body with
    | one set =>
      let count := runLength set subject.text state.place (most.getD room)
      ((List.range (count + 1 - least)).map fun offset =>
        { state with place := state.place + count - offset })
    | _ =>
      let step := reach subject exact body
      let required := (List.range least).foldl
        (fun states _ => arrange exact (states.flatMap step)) [state]
      let rounds := match most with
        | some most => most - least
        | none => room + 1
      arrange exact (repeated step exact rounds required required)
  | group index body, state =>
    (reach subject exact body state).map fun later =>
      { later with
        groups := (index, state.place, later.place)
          :: later.groups.filter fun group => group.1 != index }
  | again index, state =>
    match state.groups.lookup index with
    | none => []
    | some (low, high) =>
      if sameText subject.text low state.place (high - low)
      then [{ state with place := state.place + (high - low) }] else []

/-- The match of an expression at a place. -/
def matchAt? (expression : Regular) (subject : Subject) (place : Nat) : Option Reached :=
  (reach subject expression.refersBack expression ⟨place, []⟩).head?

/-- The first match of an expression that begins at a place from `place` on: where it begins, and
what it reached. -/
def search? (expression : Regular) (subject : Subject) (place : Nat) : Option (Nat × Reached) :=
  go (subject.text.size + 1 - place) place
where
  go : Nat → Nat → Option (Nat × Reached)
    | 0, _ => none
    | count + 1, place =>
      match matchAt? expression subject place with
      | some reached => some (place, reached)
      | none => go count (place + 1)

/-- Whether some part of a text matches. -/
def occursIn (expression : Regular) (text : List Char) : Bool :=
  (search? expression { text := text.toArray } 0).isSome

/-- The expression that small and capital letters match alike. -/
def foldCase : Regular → Regular
  | one set => one set.foldCase
  | sequence left right => sequence left.foldCase right.foldCase
  | choice left right => choice left.foldCase right.foldCase
  | times least most body => times least most body.foldCase
  | group index body => group index body.foldCase
  | other => other

/-- The expression in which sets that are named by what they lack also lack the line feed, so that
a match does not leave its line unless the expression says so. -/
def withinLine : Regular → Regular
  | one set => one (if set.negated then { set with ranges := ('\n', '\n') :: set.ranges } else set)
  | sequence left right => sequence left.withinLine right.withinLine
  | choice left right => choice left.withinLine right.withinLine
  | times least most body => times least most body.withinLine
  | group index body => group index body.withinLine
  | other => other

/-- The expression of a text that stands for itself. -/
def literal (text : List Char) : Regular :=
  text.foldr (fun c rest => .sequence (.one (.ofList [c])) rest) .empty

/-- The number of groups. -/
def groupCount : Regular → Nat
  | sequence left right | choice left right => max left.groupCount right.groupCount
  | times _ _ body => body.groupCount
  | group index body => max index body.groupCount
  | _ => 0

end Regular

end PromptScript.Pattern
