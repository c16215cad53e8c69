import PromptScript.Expression.Tree

/-!
# Searching by threads

Programs for expressions without look-around and references.  A program is followed through all its
choices at once: the threads that wait at a place of a text are kept in the order in which trying
one choice after the other would reach them, so the first thread that finishes shows the match that
is tried first, and no thread is followed twice.
-/

namespace PromptScript.Expression

/-- A step of a program. -/
inductive Step where
  | one (members : CharClass)
  | place (condition : Condition)
  /-- Goes on at two steps, of which the first is preferred. -/
  | fork (first second : Nat)
  | jump (target : Nat)
  | finish
  deriving Repr, Inhabited

namespace Step

/-- The steps of `count` copies of a part, one after the other; the first stands at `start`. -/
def copies (part : Nat → List Step) : (count start : Nat) → List Step
  | 0, _ => []
  | count + 1, start =>
    let first := part start
    first ++ copies part count (start + first.length)

/-- The steps of at most `count` copies of a part. -/
def optionalCopies (part : Nat → List Step) (greedy : Bool) : (count start : Nat) → List Step
  | 0, _ => []
  | count + 1, start =>
    let first := part (start + 1)
    let rest := optionalCopies part greedy count (start + 1 + first.length)
    let behind := start + 1 + first.length + rest.length
    (if greedy then .fork (start + 1) behind else .fork behind (start + 1)) :: first ++ rest

/-- The steps of any number of copies of a part.  A part that can be empty is entered once before
it is repeated. -/
def loop (part : Nat → List Step) (greedy canBeEmpty : Bool) (start : Nat) : List Step :=
  let prefer (inside behind : Nat) : Step :=
    if greedy then .fork inside behind else .fork behind inside
  let body := part (start + 1)
  let behind := start + body.length + 2
  if canBeEmpty then prefer (start + 1) behind :: body ++ [prefer (start + 1) behind]
  else prefer (start + 1) behind :: body ++ [.jump start]

mutual

/-- The steps of an expression, of which the first stands at `start`. -/
def ofTree : Tree → (start : Nat) → List Step
  | .one members, _ => [.one members]
  | .place condition, _ => [.place condition]
  | .sequence parts, start => ofParts parts start
  | .choice branches, start => ofBranches branches start
  | .group _ body, start | .atomic body, start => ofTree body start
  | .times least most greedy body, start =>
    let required := copies (ofTree body) least start
    let behind := start + required.length
    required ++ match most with
      | some most => optionalCopies (ofTree body) greedy (most - least) behind
      | none => loop (ofTree body) greedy (body.extent.least == 0) behind
  | .empty, _ | .ahead _ _, _ | .behind _ _, _ | .back _, _ => []

/-- The steps of expressions one after the other. -/
def ofParts : List Tree → (start : Nat) → List Step
  | [], _ => []
  | first :: rest, start =>
    let left := ofTree first start
    left ++ ofParts rest (start + left.length)

/-- The steps of a choice between branches. -/
def ofBranches : List Tree → (start : Nat) → List Step
  | [], _ => []
  | [last], start => ofTree last start
  | first :: second :: rest, start =>
    let left := ofTree first (start + 1)
    let others := ofBranches (second :: rest) (start + left.length + 2)
    .fork (start + 1) (start + left.length + 2) :: left
      ++ .jump (start + left.length + 2 + others.length) :: others

end

end Step

/-- A program: its steps, the last of which finishes. -/
abbrev Program := Array Step

/-- The program of an expression. -/
def Program.ofTree (tree : Tree) : Program :=
  (Step.ofTree tree 0 ++ [Step.finish]).toArray

/-- Threads at one place: the steps that were visited, as the set bits of a number, and the steps
that wait for a character or finish, the last first. -/
structure Threads where
  visited : Nat
  waiting : List Nat

namespace Threads

/-- No threads. -/
def none : Threads := ⟨0, []⟩

/-- Adds the threads that go on at the steps of a stack, the first of which is preferred.  The fuel
bounds the number of steps. -/
def follow (program : Program) (text : Array Char) (place : Nat) :
    Nat → List Nat → Threads → Threads
  | fuel + 1, step :: stack, threads =>
    if threads.visited.testBit step then follow program text place fuel stack threads
    else
      let visited := threads.visited ||| 1 <<< step
      match program[step]? with
      | some (.jump target) =>
        follow program text place fuel (target :: stack) ⟨visited, threads.waiting⟩
      | some (.fork first second) =>
        follow program text place fuel (first :: second :: stack) ⟨visited, threads.waiting⟩
      | some (.place condition) =>
        if condition.holds text place then
          follow program text place fuel ((step + 1) :: stack) ⟨visited, threads.waiting⟩
        else follow program text place fuel stack ⟨visited, threads.waiting⟩
      | some (.one _) | some .finish =>
        follow program text place fuel stack ⟨visited, step :: threads.waiting⟩
      | Option.none => follow program text place fuel stack ⟨visited, threads.waiting⟩
  | _, _, threads => threads

/-- Adds the threads that begin at a step. -/
def enter (program : Program) (text : Array Char) (place step : Nat) (threads : Threads) :
    Threads :=
  follow program text place (2 * program.size + 2) [step] threads

/-- Whether a step finishes. -/
def isFinish (program : Program) (step : Nat) : Bool :=
  match program[step]? with
  | some .finish => true
  | _ => false

/-- The threads behind the next character, of those that wait in the given order. -/
def advance (program : Program) (text : Array Char) (place : Nat) (waiting : List Nat) : Threads :=
  waiting.foldl
    (fun threads step =>
      match program[step]?, text[place]? with
      | some (Step.one members), some c =>
        if members.contains c then enter program text (place + 1) (step + 1) threads else threads
      | _, _ => threads)
    none

end Threads

/-- The end of the match that is preferred among those from a place on, where the threads that wait
there are given.  The fuel bounds the number of characters. -/
def Program.endFrom? (program : Program) (text : Array Char) :
    (fuel place : Nat) → List Nat → (known : Option Nat) → Option Nat
  | 0, _, _, known => known
  | fuel + 1, place, waiting, known =>
    let ahead := waiting.takeWhile fun step => !Threads.isFinish program step
    let known := if ahead.length < waiting.length then some place else known
    if ahead.isEmpty then known
    else
      program.endFrom? text fuel (place + 1)
        (Threads.advance program text place ahead).waiting.reverse known

/-- The end of the match from a place that is preferred. -/
def Program.end? (program : Program) (text : Array Char) (place : Nat) : Option Nat :=
  program.endFrom? text (text.size + 1 - place) place
    (Threads.enter program text place 0 .none).waiting.reverse none

/-- Whether a program matches somewhere from a place on.  The fuel bounds the number of
characters. -/
def Program.occursFrom (program : Program) (text : Array Char) :
    (fuel place : Nat) → Threads → Bool
  | 0, _, _ => false
  | fuel + 1, place, threads =>
    let threads := Threads.enter program text place 0 threads
    threads.waiting.any (Threads.isFinish program)
      || program.occursFrom text fuel (place + 1)
        (Threads.advance program text place threads.waiting.reverse)

/-- Whether a program matches some part of a text. -/
def Program.occursIn (program : Program) (text : Array Char) : Bool :=
  program.occursFrom text (text.size + 1) 0 .none

end PromptScript.Expression
