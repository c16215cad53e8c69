import PromptScript.Pattern.Regular.Reader
import PromptScript.Shell.Tool.Collation
import PromptScript.Shell.Tool.Basic

/-!
# Values of written expressions

The tool that works out an expression of which every part is an argument.
-/

namespace PromptScript.Shell.Tool

namespace Calculation

open Pattern (Regular)

/-- A value: a number where its text writes one. -/
inductive Value where
  | text (content : Octets)
  | number (value : Int)
  deriving DecidableEq

/-- The text of a value. -/
def Value.show : Value → Octets
  | text content => content
  | number value => Integer.text value

/-- The number of a value, where its text is one. -/
def Value.number? : Value → Option Int
  | number value => some value
  | text content =>
    let (isNegative, digits) := match content with
      | '-' :: rest => (true, rest)
      | _ => (false, content)
    (Integer.count? digits).map fun size => if isNegative then -(size : Int) else size

/-- Whether a value counts as none: it is empty or zero. -/
def Value.isNull : Value → Bool
  | number value => value == 0
  | text content =>
    content.isEmpty
      || (let digits := if content.head? == some '-' then content.drop 1 else content
          !digits.isEmpty && digits.all (· == '0'))

/-- Why an expression has no value. -/
inductive Fault where
  | unexpected (word : Octets)
  | missingAfter (word : Octets)
  | unclosedAfter (word : Octets)
  | unclosedBefore (word : Octets)
  | unopened
  | notInteger
  | divisionByZero
  | pattern (fault : Regular.Fault)

/-- The wording of a fault. -/
def Fault.message : Fault → Octets
  | unexpected word => octets "syntax error: unexpected argument " ++ quoted word
  | missingAfter word => octets "syntax error: missing argument after " ++ quoted word
  | unclosedAfter word => octets "syntax error: expecting ')' after " ++ quoted word
  | unclosedBefore word => octets "syntax error: expecting ')' instead of " ++ quoted word
  | unopened => octets "syntax error: unexpected ')'"
  | notInteger => octets "non-integer argument"
  | divisionByZero => octets "division by zero"
  | pattern fault => octets fault.message

/-- What is left of the arguments, with the last one that was read. -/
structure Input where
  rest : List Octets
  last : Octets := []

/-- A step of working out. -/
abbrev Step (α : Type) := StateT Input (Except Fault) α

/-- Takes an argument. -/
def next : Step Octets := do
  let input ← get
  match input.rest with
  | [] => throw (.missingAfter input.last)
  | word :: rest =>
    set { input with rest, last := word }
    return word

/-- Takes the next argument where it is one of some words. -/
def takes? (words : List String) : Step (Option String) := do
  let input ← get
  match input.rest with
  | word :: rest =>
    if words.contains (String.ofList word) then
      set { input with rest, last := word }
      return some (String.ofList word)
    else return none
  | [] => return none

/-- The part of a text that a pattern matches at its beginning: its first group, or its length. -/
def matched (text pattern : Octets) : Except Fault Value :=
  match Regular.read (.ofSearch false) pattern with
  | .error fault => .error (.pattern fault)
  | .ok expression =>
    let hasGroup := expression.groupCount ≠ 0
    match Regular.matchAt? expression { text := text.toArray } 0 with
    | none => .ok (if hasGroup then .text [] else .number 0)
    | some reached =>
      if !hasGroup then .ok (.number reached.place)
      else
        match reached.groups.lookup 1 with
        | some (low, high) => .ok (.text ((text.take high).drop low))
        | none => .ok (.text [])

/-- The numbers of two values. -/
def numbers (a b : Value) : Except Fault (Int × Int) :=
  match a.number?, b.number? with
  | some left, some right => .ok (left, right)
  | _, _ => .error .notInteger

/-- Whether two values stand in an order: as numbers where both are. -/
def compares (operator : String) (a b : Value) : Bool :=
  let order := match a.number?, b.number? with
    | some left, some right => compare left right
    | _, _ => Collation.ofChars a.show b.show
  match operator with
  | "<" => order == .lt
  | "<=" => order != .gt
  | "=" | "==" => order == .eq
  | "!=" => order != .eq
  | ">=" => order != .lt
  | _ => order == .gt

/-- The value of an operation on numbers. -/
def calculate (operator : String) (a b : Value) : Except Fault Value := do
  let (left, right) ← numbers a b
  match operator with
  | "+" => return .number (left + right)
  | "-" => return .number (left - right)
  | "*" => return .number (left * right)
  | "/" => if right = 0 then throw .divisionByZero else return .number (left.tdiv right)
  | _ => if right = 0 then throw .divisionByZero else return .number (left.tmod right)

/-- A part of a text, from a place on counted from one. -/
def substring (text : Octets) (place length : Value) : Value :=
  match place.number?, length.number? with
  | some place, some length =>
    if place ≤ 0 ∨ length ≤ 0 then .text []
    else .text ((text.drop (place - 1).toNat).take length.toNat)
  | _, _ => .text []

mutual

/-- The first of two values unless it counts as none. -/
def anyOf : Nat → (counts : Bool) → Step Value
  | 0, _ => return .number 0
  | fuel + 1, counts => do
    let left ← allOf fuel counts
    alternatives fuel counts left

/-- Further values behind the first one. -/
def alternatives : Nat → Bool → Value → Step Value
  | 0, _, left => return left
  | fuel + 1, counts, left => do
    match ← takes? ["|"] with
    | none => return left
    | some _ =>
      let right ← allOf fuel (counts && left.isNull)
      let value := if !left.isNull then left else if right.isNull then .number 0 else right
      alternatives fuel counts value

/-- The first of two values unless one counts as none. -/
def allOf : Nat → Bool → Step Value
  | 0, _ => return .number 0
  | fuel + 1, counts => do
    let left ← comparison fuel counts
    further fuel counts left

/-- Further values that must not count as none. -/
def further : Nat → Bool → Value → Step Value
  | 0, _, left => return left
  | fuel + 1, counts, left => do
    match ← takes? ["&"] with
    | none => return left
    | some _ =>
      let right ← comparison fuel (counts && !left.isNull)
      further fuel counts (if left.isNull || right.isNull then .number 0 else left)

/-- Comparisons. -/
def comparison : Nat → Bool → Step Value
  | 0, _ => return .number 0
  | fuel + 1, counts => do
    operations fuel counts 0 (← operand fuel counts 1)

/-- An operand of an operation at a level. -/
def operand : Nat → Bool → Nat → Step Value
  | 0, _, _ => return .number 0
  | fuel + 1, counts, level => do
    if level = 4 then primary fuel counts
    else operations fuel counts level (← operand fuel counts (level + 1))

/-- Operations of one level behind their first operand. -/
def operations : Nat → Bool → Nat → Value → Step Value
  | 0, _, _, left => return left
  | fuel + 1, counts, level, left => do
    let operators := match level with
      | 0 => ["<", "<=", "=", "==", "!=", ">=", ">"]
      | 1 => ["+", "-"]
      | 2 => ["*", "/", "%"]
      | _ => [":"]
    match ← takes? operators with
    | none => return left
    | some operator =>
      let right ← operand fuel counts (level + 1)
      let value ←
        if !counts then pure left
        else
          match level with
          | 0 => pure (.number (if compares operator left right then 1 else 0))
          | 3 =>
            match matched left.show right.show with
            | .ok value => pure value
            | .error fault => throw fault
          | _ =>
            match calculate operator left right with
            | .ok value => pure value
            | .error fault => throw fault
      operations fuel counts level value

/-- A word, an expression in parentheses, or an operation that is called by its name. -/
def primary : Nat → Bool → Step Value
  | 0, _ => return .number 0
  | fuel + 1, counts => do
    let word ← next
    match String.ofList word with
    | "(" =>
      let value ← anyOf fuel counts
      let input ← get
      match input.rest with
      | [] => throw (.unclosedAfter input.last)
      | other :: rest =>
        if other != [')'] then throw (.unclosedBefore other)
        set { input with rest, last := other }
        return value
    | ")" => throw .unopened
    | "+" => return .text (← next)
    | "length" =>
      let text ← primary fuel counts
      return .number text.show.length
    | "match" =>
      let text ← primary fuel counts
      let pattern ← primary fuel counts
      if !counts then return text
      match matched text.show pattern.show with
      | .ok value => return value
      | .error fault => throw fault
    | "index" =>
      let text ← primary fuel counts
      let chars ← primary fuel counts
      match text.show.findIdx? chars.show.contains with
      | some place => return .number (place + 1)
      | none => return .number 0
    | "substr" =>
      let text ← primary fuel counts
      let place ← primary fuel counts
      let length ← primary fuel counts
      return substring text.show place length
    | _ => return .text word

end

/-- The prime factors of a number that are not smaller than a divisor, the smallest one first; none
where that takes too long. -/
def primeFactors? : Nat → Nat → Nat → Option (List Nat)
  | 0, _, _ => none
  | fuel + 1, divisor, number =>
    if number < 2 then some []
    else if number < divisor * divisor then some [number]
    else if number % divisor = 0 then
      (primeFactors? fuel divisor (number / divisor)).map (divisor :: ·)
    else primeFactors? fuel (if divisor = 2 then 3 else divisor + 2) number

/-- The prime factors of a number; the length of the search is limited. -/
def factorsOf? (number : Nat) : Option (List Nat) :=
  primeFactors? 0x400000 2 number

end Calculation

open Calculation

/-- Prints the value of an expression. -/
def expr : Tool := fun _ words => do
  let words := if words.head? == some ['-', '-'] then words.drop 1 else words
  if words.isEmpty then misuse 2 (octets "missing operand")
  let fuel := 12 * words.length + 24
  match (anyOf fuel true).run { rest := words } with
  | .error fault => stop 2 fault.message
  | .ok (value, input) =>
    match input.rest with
    | word :: _ => stop 2 (Fault.unexpected word).message
    | [] =>
      Action.print (value.show ++ ['\n'])
      return if value.isNull then 1 else 0

/-- Prints the prime factors of numbers. -/
def factor : Tool := fun _ words => do
  let (options, operands) ← optionsOf
    { letters := plainLetters "h", names := [("exponents", 'h')] } words
  let given ← if operands.isEmpty then do
      let text ← Action.readAll
      pure ((Lines.pieces ' ' (text.map fun c => if c == '\n' || c == '\t' then ' ' else c)).filter
        fun word => !word.isEmpty)
    else pure operands
  let mut failed := false
  for word in given do
    let body := word.dropWhile (· == ' ')
    let body := if body.head? == some '+' then body.drop 1 else body
    if body.isEmpty || !body.all Char.isDigit then
      complain (quoted word ++ octets " is not a valid positive integer")
      failed := true
    else
      let number := Integer.ofDigits 10 body
      match factorsOf? number with
      | none => Action.hang .endless
      | some factors =>
        let shown := if has options 'h' then
            factors.eraseDups.map fun factor =>
              decimal factor ++ if factors.count factor = 1 then []
                else '^' :: decimal (factors.count factor)
          else factors.map decimal
        Action.print (decimal number ++ ':' :: (shown.flatMap (' ' :: ·)) ++ ['\n'])
  return if failed then 1 else 0

end PromptScript.Shell.Tool
