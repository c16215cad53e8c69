import PromptScript.Expression.Threads
import PromptScript.Expression.Wide

/-!
# Matchers

Expressions that are ready to be searched for in texts, by threads or by trials.
-/

namespace PromptScript.Expression

/-!
## Searching by trials

Programs for expressions with look-around and references.  They are followed by trying one choice
after the other; a search that has gone back too often is given up.  Parts that need no trials are
programs of their own, whose preferred match is kept.
-/

/-- A step of a program that is followed by trials.  Slots hold places and counts. -/
inductive Move where
  | one (members : CharClass)
  | place (condition : Condition)
  /-- Tries the first of two moves before the second. -/
  | fork (first second : Nat)
  | jump (target : Nat)
  /-- Keeps the place in a slot. -/
  | save (slot : Nat)
  | clear (slot : Nat)
  /-- Returns to the place in a slot. -/
  | restore (slot : Nat)
  /-- Counts a round of a repetition, or leaves it. -/
  | count (greedy : Bool) (least : Nat) (most : Option Nat) (behind slot : Nat)
  /-- As `count`, for a body that can be empty: a round that begins where the last one did fails. -/
  | countEmpty (greedy : Bool) (least behind slot last : Nat)
  | goBack (distance : Nat)
  /-- Ends a look-around that must not succeed. -/
  | refute
  /-- The text between the places of a pair of slots. -/
  | back (slot : Nat)
  | enterAtomic (slot : Nat)
  | leaveAtomic (slot : Nat)
  | whole (program : Program)
  | finish
  deriving Repr, Inhabited

/-- A way in which an expression cannot be searched for. -/
inductive BuildFault where
  /-- The matches of an expression that is looked at backwards differ in length. -/
  | lengthsDiffer
  /-- A program is too large. -/
  | tooLarge
  deriving DecidableEq, Repr

namespace Tree

/-- The greatest size of a program. -/
def maxWeight : Nat := 10 * 0x100000

mutual

/-- The size of the program of an expression. -/
def weight : Tree → Nat
  | empty => 32
  | one (.range low high) =>
    if low = high then 32 * low.utf8Size else if high.toNat < 0x80 then 40 else 160
  | one _ => 400
  | place _ => 32
  | sequence parts => weightOfParts parts
  | choice branches => 40 + weightOfParts branches
  | group _ body => 64 + weight body
  | times least most _ body =>
    match most with
    | some most => least * weight body + (most - least) * (weight body + 40)
    | none => (max 1 least) * weight body + 40
  | atomic body | ahead _ body | behind _ body => weight body
  | back _ => 32

/-- The size of the programs of expressions. -/
def weightOfParts : List Tree → Nat
  | [] => 0
  | first :: rest => weight first + weightOfParts rest

end

/-- The program of an expression that needs no trials. -/
def program? (tree : Tree) : Except BuildFault Program :=
  if maxWeight < tree.weight then .error .tooLarge else .ok (.ofTree tree)

end Tree

namespace Move

/-- The program of the given parts, which need no trials, as one move. -/
def ofEasyParts (parts : List Tree) : Except BuildFault (List Move) :=
  if parts.isEmpty then .ok []
  else (Tree.sequence parts).program?.map fun program => [.whole program]

/-- The moves of a choice between two alternatives. -/
def either (first second : Nat → Except BuildFault (List Move)) (start : Nat) :
    Except BuildFault (List Move) := do
  let left ← first (start + 1)
  let right ← second (start + left.length + 2)
  return .fork (start + 1) (start + left.length + 2) :: left
    ++ .jump (start + left.length + 2 + right.length) :: right

/-- Goes back before a body that is looked at backwards. -/
def backwards (extent : Extent) (body : Nat → Except BuildFault (List Move)) (start : Nat) :
    Except BuildFault (List Move) := do
  if !extent.exact then throw .lengthsDiffer
  return .goBack extent.least :: (← body (start + 1))

/-- The moves of a look-around that must succeed, and that returns to its place. -/
def affirm (slot : Nat) (body : Nat → Except BuildFault (List Move)) (start : Nat) :
    Except BuildFault (List Move) := do
  return .save slot :: (← body (start + 1)) ++ [.restore slot]

/-- The moves of a look-around that must not succeed. -/
def deny (body : Nat → Except BuildFault (List Move)) (start : Nat) :
    Except BuildFault (List Move) := do
  let moves ← body (start + 1)
  return .fork (start + 1) (start + moves.length + 2) :: moves ++ [.refute]

/-- The moves of a repetition.  The slots belong to the repetition alone. -/
def repeated (least : Nat) (most : Option Nat) (greedy canBeEmpty : Bool) (slot : Nat)
    (body : Nat → Except BuildFault (List Move)) (start : Nat) : Except BuildFault (List Move) := do
  let prefer (inside behind : Nat) : Move :=
    if greedy then .fork inside behind else .fork behind inside
  match least, most, canBeEmpty with
  | 0, some 1, _ =>
    let moves ← body (start + 1)
    return prefer (start + 1) (start + 1 + moves.length) :: moves
  | _, none, true =>
    let moves ← body (start + 2)
    return .clear slot :: .countEmpty greedy least (start + moves.length + 3) slot (slot + 1)
      :: moves ++ [.jump (start + 1)]
  | 0, none, false =>
    let moves ← body (start + 1)
    return prefer (start + 1) (start + moves.length + 2) :: moves ++ [.jump start]
  | 1, none, false =>
    let moves ← body start
    return moves ++ [prefer start (start + moves.length + 1)]
  | _, _, _ =>
    let moves ← body (start + 2)
    return .clear slot :: .count greedy least most (start + moves.length + 3) slot
      :: moves ++ [.jump (start + 1)]

/-- The moves of an expression that needs no trials, as one, unless the rest of the search may come
back into it; otherwise the given moves. -/
def unlessEasy (referred : List Nat) (tree : Tree) (hard : Bool)
    (moves : Unit → Except BuildFault (List Move)) : Except BuildFault (List Move) :=
  if !hard && !tree.isHard referred then ofEasyParts [tree] else moves ()

/-- The number of parts at the beginning that need no trials and have matches of one length. -/
def easyPrefix (referred : List Nat) (parts : List Tree) : Nat :=
  (parts.takeWhile fun part => part.extent.exact && !part.isHard referred).length

/-- The number of parts at the end that need no trials; where the rest of the search may come back
into them, their matches must have one length. -/
def easySuffix (referred : List Nat) (hard : Bool) (parts : List Tree) : Nat :=
  (parts.reverse.takeWhile fun part =>
    (!hard || part.extent.exact) && !part.isHard referred).length

mutual

/-- The moves of an expression, of which the first stands at `start`.  Where the rest of the search
may come back into it, `hard` holds.  The slots from `slots` on belong to moves, by their place. -/
def ofTree (referred : List Nat) (slots : Nat) :
    Tree → (hard : Bool) → (start : Nat) → Except BuildFault (List Move)
  | .empty, _, _ => .ok []
  | .one members, hard, _ =>
    unlessEasy referred (.one members) hard fun _ => .ok [.one members]
  | .place condition, hard, _ =>
    unlessEasy referred (.place condition) hard fun _ => .ok [.place condition]
  | .sequence parts, hard, start =>
    unlessEasy referred (.sequence parts) hard fun _ => do
      let before := easyPrefix referred parts
      let behind := easySuffix referred hard (parts.drop before)
      let first ← ofEasyParts (parts.take before)
      let middle ← ofMiddle referred slots before (parts.length - before - behind) parts
        (start + first.length)
      let last ← ofEasyParts (parts.drop (parts.length - behind))
      return first ++ middle ++ last
  | .choice branches, hard, start =>
    unlessEasy referred (.choice branches) hard fun _ =>
      ofBranches referred slots branches hard start
  | .group index body, hard, start =>
    unlessEasy referred (.group index body) hard fun _ => do
      let moves ← ofTree referred slots body hard (start + 1)
      return .save (2 * index) :: moves ++ [.save (2 * index + 1)]
  | .ahead wanted body, _, start =>
    if wanted then affirm (slots + 2 * start) (ofTree referred slots body false) start
    else deny (ofTree referred slots body false) start
  | .behind wanted (.choice branches), _, start =>
    if (Tree.choice branches).extent.exact then
      let body := backwards (Tree.choice branches).extent
        (ofTree referred slots (.choice branches) false)
      if wanted then affirm (slots + 2 * start) body start else deny body start
    else ofBehinds referred slots wanted branches start
  | .behind wanted body, _, start =>
    let inner := backwards body.extent (ofTree referred slots body false)
    if wanted then affirm (slots + 2 * start) inner start else deny inner start
  | .times least most greedy body, hard, start =>
    unlessEasy referred (.times least most greedy body) hard fun _ =>
      let inner := hard || (!(least == 0 && most == some 1) && body.isHard referred)
      repeated least most greedy (body.extent.least == 0) (slots + 2 * start)
        (ofTree referred slots body inner) start
  | .back index, _, _ => .ok [.back (2 * index)]
  | .atomic body, _, start => do
    let moves ← ofTree referred slots body false (start + 1)
    return .enterAtomic (slots + 2 * start) :: moves ++ [.leaveAtomic (slots + 2 * start)]

/-- The moves of the parts behind the first `skipped`, as many as `taken`. -/
def ofMiddle (referred : List Nat) (slots : Nat) : (skipped taken : Nat) → List Tree →
    (start : Nat) → Except BuildFault (List Move)
  | skipped + 1, taken, _ :: rest, start => ofMiddle referred slots skipped taken rest start
  | 0, taken + 1, first :: rest, start => do
    let moves ← ofTree referred slots first true start
    return moves ++ (← ofMiddle referred slots 0 taken rest (start + moves.length))
  | _, _, _, _ => .ok []

/-- The moves of a choice between branches. -/
def ofBranches (referred : List Nat) (slots : Nat) : List Tree → (hard : Bool) →
    (start : Nat) → Except BuildFault (List Move)
  | [], _, _ => .ok []
  | [last], hard, start => ofTree referred slots last hard start
  | first :: second :: rest, hard, start =>
    either (ofTree referred slots first hard)
      (ofBranches referred slots (second :: rest) hard) start

/-- The moves for branches of different lengths that are looked at backwards: one of them must
match, or none. -/
def ofBehinds (referred : List Nat) (slots : Nat) (wanted : Bool) : List Tree →
    (start : Nat) → Except BuildFault (List Move)
  | [], _ => .ok []
  | [last], start =>
    let inner := backwards last.extent (ofTree referred slots last false)
    if wanted then affirm (slots + 2 * start) inner start else deny inner start
  | first :: second :: rest, start =>
    let inner := backwards first.extent (ofTree referred slots first false)
    if wanted then
      either (fun start => affirm (slots + 2 * start) inner start)
        (ofBehinds referred slots wanted (second :: rest)) start
    else do
      let moves ← deny inner start
      return moves ++ (← ofBehinds referred slots wanted (second :: rest) (start + moves.length))

end

/-- The moves of a search for an expression from every place on. -/
def ofSearch (referred : List Nat) (slots : Nat) (tree : Tree) :
    Except BuildFault (Array Move) := do
  let moves ← ofTree referred slots tree true 4
  let first : List Move := [.fork 3 1, .one .anything, .jump 0, .save 0]
  let last : List Move := [.save 1, .finish]
  return (first ++ moves ++ last).toArray

end Move

/-- Why a search is given up. -/
inductive SearchFault where
  | tooManyTrials
  | tooManyChoices
  deriving DecidableEq, Repr

/-- The wording of a reason. -/
def SearchFault.message : SearchFault → String
  | tooManyTrials => "Max limit for backtracking count exceeded"
  | tooManyChoices => "Max stack size exceeded for backtracking while executing regex"

/-- A choice that is left to try: the move to go on with, the place, and the slots. -/
structure Choice where
  move : Nat
  place : Nat
  slots : List (Nat × Nat)

/-- How far a search by trials has come. -/
structure Trial where
  move : Nat
  place : Nat
  /-- The slots that hold something. -/
  slots : List (Nat × Nat)
  /-- The choices that are left, the last first. -/
  choices : List Choice
  /-- The number of choices that are left. -/
  depth : Nat

namespace Trial

/-- The contents of a slot. -/
def slot? (trial : Trial) (slot : Nat) : Option Nat :=
  trial.slots.lookup slot

/-- Puts something into a slot. -/
def put (trial : Trial) (slot value : Nat) : Trial :=
  { trial with slots := (slot, value) :: trial.slots.filter fun entry => entry.1 != slot }

/-- Goes on with a move. -/
def goTo (trial : Trial) (move : Nat) : Trial :=
  { trial with move }

/-- Goes on with the next move. -/
def next (trial : Trial) : Trial :=
  trial.goTo (trial.move + 1)

/-- Leaves a choice for later. -/
def leave (trial : Trial) (move : Nat) : Trial :=
  { trial with
    choices := ⟨move, trial.place, trial.slots⟩ :: trial.choices
    depth := trial.depth + 1 }

/-- Whether the text at the place is that between two places. -/
def repeats (text : Array Char) (place low high : Nat) : Bool :=
  (List.range (high - low)).all fun i =>
    match text[low + i]?, text[place + i]? with
    | some a, some b => a == b
    | _, _ => false

/-- The choices behind the one that goes on with a move. -/
def dropTo (move : Nat) : List Choice → Nat → List Choice × Nat
  | [], depth => ([], depth)
  | choice :: rest, depth =>
    if choice.move = move then (rest, depth - 1) else dropTo move rest (depth - 1)

/-- Makes a move; none where it fails.  The choices may change with a failure, too. -/
def make (text : Array Char) (trial : Trial) : Move → Trial × Bool
  | .one members =>
    match text[trial.place]? with
    | some c =>
      if members.contains c then ({ trial.next with place := trial.place + 1 }, true)
      else (trial, false)
    | none => (trial, false)
  | .place condition => (trial.next, condition.holds text trial.place)
  | .fork first second => ((trial.leave second).goTo first, true)
  | .jump target => (trial.goTo target, true)
  | .save slot => (trial.next.put slot trial.place, true)
  | .clear slot => (trial.next.put slot 0, true)
  | .restore slot => ({ trial.next with place := (trial.slot? slot).getD 0 }, true)
  | .count greedy least most behind slot =>
    let rounds := (trial.slot? slot).getD 0
    if most == some rounds then (trial.goTo behind, true)
    else
      let counted := trial.put slot (rounds + 1)
      if rounds < least then (counted.next, true)
      else if greedy then ((counted.leave behind).next, true)
      else ((counted.leave (trial.move + 1)).goTo behind, true)
  | .countEmpty greedy least behind slot last =>
    let rounds := (trial.slot? slot).getD 0
    if 0 < rounds && trial.slot? last == some trial.place then (trial, false)
    else
      let counted := trial.put slot (rounds + 1)
      if rounds < least then (counted.next, true)
      else
        let marked := counted.put last trial.place
        if greedy then ((marked.leave behind).next, true)
        else ((marked.leave (trial.move + 1)).goTo behind, true)
  | .goBack distance =>
    ({ trial.next with place := trial.place - distance }, distance ≤ trial.place)
  | .refute =>
    let (choices, depth) := dropTo (trial.move + 1) trial.choices trial.depth
    ({ trial with choices, depth }, false)
  | .back slot =>
    match trial.slot? slot, trial.slot? (slot + 1) with
    | some low, some high =>
      if repeats text trial.place low high then
        ({ trial.next with place := trial.place + (high - low) }, true)
      else (trial, false)
    | _, _ => (trial, false)
  | .enterAtomic slot => (trial.next.put slot trial.depth, true)
  | .leaveAtomic slot =>
    let kept := (trial.slot? slot).getD 0
    ({ trial.next with choices := trial.choices.drop (trial.depth - kept), depth := kept }, true)
  | .whole program =>
    match program.end? text trial.place with
    | some place => ({ trial.next with place }, true)
    | none => (trial, false)
  | .finish => (trial, true)

/-- How often a search may go back. -/
def maxTrials : Nat := 1000000

/-- How many choices may be left. -/
def maxChoices : Nat := 1000000

/-- Follows the moves until the search succeeds or no choice is left.  The fuel bounds the number of
moves; `tried` is the number of choices that were gone back to. -/
def run (moves : Array Move) (text : Array Char) :
    Nat → (tried : Nat) → Trial → Except SearchFault Bool
  | 0, _, _ => .error .tooManyTrials
  | fuel + 1, tried, trial =>
    match moves[trial.move]? with
    | none | some .finish => .ok true
    | some move =>
      match trial.make text move with
      | (after, true) =>
        if maxChoices < after.depth then .error .tooManyChoices
        else run moves text fuel tried after
      | (after, false) =>
        match after.choices with
        | [] => .ok false
        | choice :: rest =>
          if maxTrials ≤ tried then .error .tooManyTrials
          else
            run moves text fuel (tried + 1)
              ⟨choice.move, choice.place, choice.slots, rest, after.depth - 1⟩

/-- More moves than any search makes. -/
def maxMoves : Nat := 0x10000000000

end Trial

/-- Whether the moves of a search succeed on a text. -/
def Move.search (moves : Array Move) (text : Array Char) : Except SearchFault Bool :=
  Trial.run moves text Trial.maxMoves 0 ⟨0, 0, [], [], 0⟩

end PromptScript.Expression

namespace PromptScript

/-!
## Matchers

Expressions that are ready to be searched for in texts.
-/

open Expression

/-- An expression that is ready to be searched for. -/
inductive Matcher where
  | threads (program : Program)
  | trials (moves : Array Move)
  deriving Repr

namespace Matcher

/-- The matcher of an expression with a number of groups, some of which it refers to. -/
def ofTree? (tree : Tree) (referred : List Nat) (groups : Nat) : Option Matcher :=
  if tree.isHard referred then
    (Move.ofSearch referred (2 * groups + 2) tree).toOption.map .trials
  else tree.program?.toOption.map .threads

/-- Whether a text has the strict notation of an expression or one that only the wide notation
has. -/
def isExpression (text : String) : Bool :=
  (widen? (text.length + 1) text.toList).isSome

/-- The matcher of the expression that a text writes. -/
def read? (text : String) : Option Matcher := do
  let (tree, referred, groups) ← readWide? (← widen? (text.length + 1) text.toList)
  ofTree? tree referred groups

/-- Whether some part of a text matches. -/
def occursIn (matcher : Matcher) (text : String) : Except SearchFault Bool :=
  match matcher with
  | threads program => .ok (program.occursIn text.toList.toArray)
  | trials moves => Move.search moves text.toList.toArray

end Matcher

end PromptScript
