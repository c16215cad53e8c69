import PromptScript.Shell.Integer

/-!
# Arithmetic of shell scripts

Expressions over integers of 64 bits, as they stand in double parentheses.  An expression is
worked out while it is read, so of two mistakes the first one counts.
-/

namespace PromptScript.Shell.Arithmetic

/-- An operation on two numbers. -/
inductive Operation where
  | add | subtract | multiply | divide | modulo
  | shiftLeft | shiftRight | bitAnd | bitOr | bitXor
  | less | atMost | greater | atLeast | equal | different
  deriving DecidableEq, Repr

/-- The operators of two numbers with their rank: a lower rank binds tighter. -/
def operators : List (String × Nat × Operation) :=
  [("*", 0, .multiply), ("/", 0, .divide), ("%", 0, .modulo), ("+", 1, .add), ("-", 1, .subtract),
    ("<<", 2, .shiftLeft), (">>", 2, .shiftRight), ("<", 3, .less), ("<=", 3, .atMost),
    (">", 3, .greater), (">=", 3, .atLeast), ("==", 4, .equal), ("!=", 4, .different),
    ("&", 5, .bitAnd), ("^", 6, .bitXor), ("|", 7, .bitOr)]

/-- The rank behind the last one. -/
def lastRank : Nat := 8

/-- The signs of expressions.  Longer signs come before their beginnings. -/
def signs : List String :=
  ["<<=", ">>=", "<<", ">>", "<=", ">=", "==", "!=", "&&", "||", "*=", "/=", "%=", "+=", "-=",
    "&=", "^=", "|=", "*", "/", "%", "+", "-", "<", ">", "=", "!", "&", "^", "|", "~", "(", ")",
    "?", ":"]

/-- A token of an expression. -/
inductive Token where
  | number (value : Int)
  | name (name : Octets)
  | sign (text : String)
  | unknown
  | finish
  deriving DecidableEq, Repr

/-- The tokens of an expression. -/
def tokens : Nat → Octets → List Token
  | 0, _ => []
  | fuel + 1, text =>
    match text.dropWhile fun c => c == ' ' || c == '\t' || c == '\n' with
    | [] => []
    | c :: rest =>
      let text := c :: rest
      if c.isDigit then
        match Integer.leading? true text with
        | some reading => .number reading.value :: tokens fuel reading.rest
        | none => [.unknown]
      else if startsName c then
        let name := leadingName text
        .name name :: tokens fuel (text.drop name.length)
      else
        match signs.find? fun sign => sign.toList.isPrefixOf text with
        | some sign => .sign sign :: tokens fuel (text.drop sign.length)
        | none => [.unknown]

/-- Why an expression has no value. -/
inductive Fault where
  | primaryExpected
  | endExpected
  | parenthesisExpected
  | colonExpected
  | divisionByZero
  | notNumber (text : Octets)
  deriving DecidableEq, Repr

/-- What is left of an expression, and the values that its assignments gave. -/
structure Progress where
  tokens : List Token
  made : List (Octets × Int)

/-- A step of working out an expression. -/
abbrev Step (α : Type) := StateT Progress (Except Fault) α

/-- The next token, which is not taken. -/
def peek : Step Token := do
  return (← get).tokens.headD .finish

/-- Takes the next token. -/
def advance : Step Token := do
  let progress ← get
  set { progress with tokens := progress.tokens.drop 1 }
  return progress.tokens.headD .finish

/-- The value of a truth. -/
def truth (holds : Bool) : Int :=
  if holds then 1 else 0

/-- Works out an operation; none divides by zero. -/
def Operation.apply? (operation : Operation) (left right : Int) : Option Int :=
  match operation with
  | add => some (Integer.wrap (left + right))
  | subtract => some (Integer.wrap (left - right))
  | multiply => some (Integer.wrap (left * right))
  | divide => if right = 0 then none else some (Integer.wrap (left.tdiv right))
  | modulo => if right = 0 then none else some (Integer.wrap (left.tmod right))
  | shiftLeft => some (Integer.wrap (left * Nat.pow 2 (right % 64).toNat))
  | shiftRight => some (left / Nat.pow 2 (right % 64).toNat)
  | bitAnd => some ((Int64.ofInt left &&& Int64.ofInt right).toInt)
  | bitOr => some ((Int64.ofInt left ||| Int64.ofInt right).toInt)
  | bitXor => some ((Int64.ofInt left ^^^ Int64.ofInt right).toInt)
  | less => some (truth (left < right))
  | atMost => some (truth (left ≤ right))
  | greater => some (truth (right < left))
  | atLeast => some (truth (right ≤ left))
  | equal => some (truth (left = right))
  | different => some (truth (left ≠ right))

/-- Works out an operation. -/
def operate (operation : Operation) (left right : Int) : Step Int :=
  match operation.apply? left right with
  | some value => return value
  | none => throw .divisionByZero

/-- The number that the value of a variable writes; an empty value is zero. -/
def valueOf (text : Octets) : Except Fault Int :=
  if text.all Integer.isBlank then .ok 0
  else
    match Integer.whole? true text with
    | some value => .ok value
    | none => .error (.notNumber text)

/-- The number in a variable. -/
def lookup (read : Octets → Octets) (name : Octets) : Step Int := do
  match (← get).made.lookup name with
  | some value => return value
  | none => valueOf (read name)

/-- Gives a variable a number. -/
def assign (name : Octets) (value : Int) : Step Int := do
  modify fun progress => { progress with made := (name, value) :: progress.made }
  return value

/-- The operation that a sign stands for before an equals sign: none for a plain assignment. -/
def assignment? (token : Token) : Option (Option Operation) :=
  match token with
  | .sign "=" => some none
  | .sign text =>
    if ["*=", "/=", "%=", "+=", "-=", "<<=", ">>=", "&=", "^=", "|="].contains text then
      (operators.lookup (String.ofList text.toList.dropLast)).map fun (_, operation) =>
        some operation
    else none
  | _ => none

/-- The operation that a token stands for, with its rank. -/
def operation? (token : Token) : Option (Nat × Operation) :=
  match token with
  | .sign text => operators.lookup text
  | _ => none

mutual

/-- An assignment or a choice.  Where `idle` holds, no value is looked up or changed. -/
def choice (read : Octets → Octets) : Nat → Bool → Step Int
  | 0, _ => throw .primaryExpected
  | fuel + 1, idle => do
    match (← get).tokens with
    | .name name :: sign :: rest =>
      match assignment? sign with
      | some operation? =>
        modify fun progress => { progress with tokens := rest }
        let value ← choice read fuel idle
        if idle then return value
        match operation? with
        | none => assign name value
        | some operation => assign name (← operate operation (← lookup read name) value)
      | none => conditional read fuel idle
    | _ => conditional read fuel idle

/-- A choice by a condition. -/
def conditional (read : Octets → Octets) : Nat → Bool → Step Int
  | 0, _ => throw .primaryExpected
  | fuel + 1, idle => do
    let condition ← either read fuel idle
    if (← peek) != .sign "?" then return condition
    let _ ← advance
    let yes ← choice read fuel (idle || condition = 0)
    if (← advance) != .sign ":" then throw .colonExpected
    let no ← conditional read fuel (idle || condition ≠ 0)
    return if condition = 0 then no else yes

/-- Expressions of which one holds. -/
def either (read : Octets → Octets) : Nat → Bool → Step Int
  | 0, _ => throw .primaryExpected
  | fuel + 1, idle => do
    let left ← both read fuel idle
    if (← peek) != .sign "||" then return left
    let _ ← advance
    let right ← either read fuel (idle || left ≠ 0)
    return truth (left ≠ 0 ∨ right ≠ 0)

/-- Expressions that all hold. -/
def both (read : Octets → Octets) : Nat → Bool → Step Int
  | 0, _ => throw .primaryExpected
  | fuel + 1, idle => do
    let left ← operand read fuel idle
    let left ← operations read fuel idle lastRank left
    if (← peek) != .sign "&&" then return left
    let _ ← advance
    let right ← both read fuel (idle || left = 0)
    return truth (left ≠ 0 ∧ right ≠ 0)

/-- The operations behind a left side that bind tighter than the given rank. -/
def operations (read : Octets → Octets) : Nat → Bool → Nat → Int → Step Int
  | 0, _, _, _ => throw .primaryExpected
  | fuel + 1, idle, rank, left => do
    match operation? (← peek) with
    | none => return left
    | some (level, operation) =>
      if rank ≤ level then return left
      let _ ← advance
      let right ← operand read fuel idle
      let right ← operations read fuel idle level right
      let value ← if idle then pure right else operate operation left right
      operations read fuel idle rank value

/-- A number, a variable, or an expression with a sign or in parentheses. -/
def operand (read : Octets → Octets) : Nat → Bool → Step Int
  | 0, _ => throw .primaryExpected
  | fuel + 1, idle => do
    match ← advance with
    | .number value => return value
    | .name name => if idle then return 0 else lookup read name
    | .sign "+" => operand read fuel idle
    | .sign "-" => return Integer.wrap (-(← operand read fuel idle))
    | .sign "!" => return truth ((← operand read fuel idle) = 0)
    | .sign "~" => return -(← operand read fuel idle) - 1
    | .sign "(" =>
      let value ← choice read fuel idle
      if (← advance) != .sign ")" then throw .parenthesisExpected
      return value
    | _ => throw .primaryExpected

end

/-- The value of an expression over some variables, with the assignments made; the last one comes
first. -/
def evaluate (read : Octets → Octets) (text : Octets) : Except Fault (Int × List (Octets × Int)) :=
  let tokens := tokens (text.length + 1) text
  let work : Step Int := do
    let value ← choice read (12 * tokens.length + 12) false
    if (← peek) != .finish then throw .endExpected
    return value
  (work.run ⟨tokens, []⟩).map fun (value, progress) => (value, progress.made)

/-- The wording of a fault of an expression. -/
def Fault.message (fault : Fault) (expression : Octets) : Octets :=
  let within (reason : String) : Octets :=
    octets ("arithmetic expression: " ++ reason ++ ": \"") ++ expression ++ ['"']
  match fault with
  | primaryExpected => within "expecting primary"
  | endExpected => within "expecting EOF"
  | parenthesisExpected => within "expecting ')'"
  | colonExpected => within "expecting ':'"
  | divisionByZero => within "division by zero"
  | notNumber text => octets "Illegal number: " ++ text

end PromptScript.Shell.Arithmetic
