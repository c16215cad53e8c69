import PromptScript.Files.Tree
import PromptScript.Shell.Integer

/-!
# Conditions

The conditions that scripts test: on texts, on numbers and on files.
-/

namespace PromptScript.Shell.Condition

/-- The role of a word in a condition. -/
inductive Role where
  | unary
  | binary
  | not
  | both
  | either
  | opening
  | closing
  deriving DecidableEq

/-- The operators with one operand. -/
def unaryOperators : List String :=
  ["-r", "-w", "-x", "-e", "-f", "-d", "-c", "-b", "-p", "-u", "-g", "-k", "-s", "-t", "-z", "-n",
    "-h", "-O", "-G", "-L", "-S"]

/-- The operators with two operands. -/
def binaryOperators : List String :=
  ["=", "!=", "<", ">", "-eq", "-ne", "-ge", "-gt", "-le", "-lt", "-nt", "-ot", "-ef"]

/-- The role that a word can have. -/
def role? (word : Octets) : Option Role :=
  let text := String.ofList word
  if unaryOperators.contains text then some .unary
  else if binaryOperators.contains text then some .binary
  else
    match text with
    | "!" => some .not
    | "-a" => some .both
    | "-o" => some .either
    | "(" => some .opening
    | ")" => some .closing
    | _ => none

/-- The devices that can be opened. -/
def devices : List String := ["/dev/null", "/dev/zero", "/dev/full", "/dev/random", "/dev/urandom"]

/-- What a program file is called. -/
def isProgramPath (isProgram : String → Bool) (path : String) : Bool :=
  match Path.pieces path with
  | ["", "bin", name] | ["", "usr", "bin", name] => isProgram name
  | _ => false

/-- What conditions on files look at. -/
structure Setting where
  tree : FileTree
  /-- Whether a standard program has the given name. -/
  isProgram : String → Bool

/-- The value of a condition with one operand. -/
def unary (setting : Setting) (operator : String) (operand : Octets) : Bool :=
  let path := display operand
  let tree := setting.tree
  let isProgram := isProgramPath setting.isProgram path
  let isDevice := devices.contains path
  match operator with
  | "-n" => !operand.isEmpty
  | "-z" => operand.isEmpty
  | "-e" | "-r" | "-w" | "-O" | "-G" => tree.existsAt path || isProgram || isDevice
  | "-f" => tree.isFile path || isProgram
  | "-d" => tree.isDirectory path
  | "-c" => isDevice
  | "-s" =>
    isProgram || match tree.read path with
    | .ok content => !content.isEmpty
    | .error _ => tree.isDirectory path
  | "-x" =>
    isProgram || match tree.lookup path with
    | .ok (.file file) => file.executable
    | .ok .directory => true
    | .error _ => false
  | _ => false

/-- The time of the last change of a file. -/
def changeTime? (tree : FileTree) (path : Octets) : Option Int :=
  match tree.lookup (display path) with
  | .ok (.file file) => some file.modified
  | .ok .directory => some 0
  | .error _ => none

/-- Why a condition has no value. -/
inductive Fault where
  | missingBracket
  | unexpectedOperator (word : Octets)
  | argumentExpected (operator : Octets)
  | closingExpected
  | illegalNumber (word : Octets)
  deriving DecidableEq

/-- The wording of a fault. -/
def Fault.message : Fault → Octets
  | missingBracket => octets "missing ]"
  | unexpectedOperator word =>
    (if word.isEmpty then [] else word ++ octets ": ") ++ octets "unexpected operator"
  | argumentExpected operator => operator ++ octets ": argument expected"
  | closingExpected => octets "closing paren expected"
  | illegalNumber word => octets "Illegal number: " ++ word

/-- The number that an operand writes. -/
def number (word : Octets) : Except Fault Int :=
  match Integer.whole? false word with
  | some value => .ok value
  | none => .error (.illegalNumber word)

/-- The value of a condition with two operands. -/
def binary (setting : Setting) (operator : String) (left right : Octets) : Except Fault Bool := do
  let compare (holds : Int → Int → Bool) : Except Fault Bool := do
    let a ← number left
    let b ← number right
    return holds a b
  let times := (changeTime? setting.tree left, changeTime? setting.tree right)
  match operator with
  | "=" => return left == right
  | "!=" => return left != right
  | "<" => return String.ofList left < String.ofList right
  | ">" => return String.ofList right < String.ofList left
  | "-eq" => compare (· == ·)
  | "-ne" => compare (· != ·)
  | "-lt" => compare (· < ·)
  | "-le" => compare (· ≤ ·)
  | "-gt" => compare (· > ·)
  | "-ge" => compare (· ≥ ·)
  | "-nt" =>
    match times with
    | (some a, some b) => return b < a
    | _ => return false
  | "-ot" =>
    match times with
    | (some a, some b) => return a < b
    | _ => return false
  | _ =>
    match setting.tree.resolve (display left), setting.tree.resolve (display right) with
    | .ok a, .ok b => return a == b
    | _, _ => return false

/-- The role of the first of some words.  An operator with one operand counts as a text where no
operand follows it or where an operator with two operands does. -/
def leadingRole? (words : List Octets) : Option Role :=
  match words with
  | [] => none
  | word :: rest =>
    let isOperand : Bool := match rest with
      | [] => true
      | [_] => false
      | next :: _ => role? next == some .binary
    match role? word with
    | some .unary => if isOperand then none else some .unary
    | some .opening => if rest.isEmpty then none else some .opening
    | other => other

mutual

/-- Conditions of which one holds, and the words from the last one read on. -/
def anyOf (setting : Setting) : Nat → List Octets → Except Fault (Bool × List Octets)
  | 0, words => .ok (false, words)
  | fuel + 1, words => do
    let (first, rest) ← allOf setting fuel words
    if leadingRole? (rest.drop 1) == some .either then
      let (second, rest) ← anyOf setting fuel (rest.drop 2)
      return (first || second, rest)
    else return (first, rest)

/-- Conditions that all hold. -/
def allOf (setting : Setting) : Nat → List Octets → Except Fault (Bool × List Octets)
  | 0, words => .ok (false, words)
  | fuel + 1, words => do
    let (first, rest) ← negated setting fuel words
    if leadingRole? (rest.drop 1) == some .both then
      let (second, rest) ← allOf setting fuel (rest.drop 2)
      return (first && second, rest)
    else return (first, rest)

/-- A condition that may be turned around. -/
def negated (setting : Setting) : Nat → List Octets → Except Fault (Bool × List Octets)
  | 0, words => .ok (false, words)
  | fuel + 1, words => do
    if leadingRole? words == some .not then
      let rest := words.drop 1
      let (value, rest) ← if rest.isEmpty then pure (false, words)
        else negated setting fuel rest
      return (!value, rest)
    else primary setting fuel words

/-- One condition. -/
def primary (setting : Setting) : Nat → List Octets → Except Fault (Bool × List Octets)
  | 0, words => .ok (false, words)
  | fuel + 1, words => do
    match words with
    | [] => return (false, [])
    | word :: rest =>
      match leadingRole? words with
      | some .opening =>
        if leadingRole? rest == some .closing then return (false, rest)
        let (value, rest) ← anyOf setting fuel rest
        if leadingRole? (rest.drop 1) != some .closing then throw .closingExpected
        return (value, rest.drop 1)
      | some .unary =>
        match rest with
        | [] => throw (.argumentExpected word)
        | operand :: _ => return (unary setting (String.ofList word) operand, rest)
      | _ =>
        if leadingRole? rest == some .binary then
          match rest with
          | operator :: right :: _ =>
            return (← binary setting (String.ofList operator) word right, rest.drop 1)
          | operator :: [] => throw (.argumentExpected operator)
          | [] => return (false, words)
        else return (!word.isEmpty, words)

end

/-- The value of a whole condition. -/
def whole (setting : Setting) (words : List Octets) (binaryFirst : Bool) : Except Fault Bool := do
  let (value, rest) ←
    if binaryFirst then
      match words with
      | left :: operator :: right :: _ =>
        let value ← binary setting (String.ofList operator) left right
        pure (value, words.drop 2)
      | _ => pure (false, words)
    else anyOf setting (6 * words.length + 6) words
  match rest with
  | _ :: word :: _ => throw (.unexpectedOperator word)
  | _ => return value

/-- The value of a condition, where short ones are told apart by their number of words; it is
turned around once where a short one begins with a mark of that. -/
def evaluate (setting : Setting) : Nat → (inverted : Bool) → List Octets → Except Fault Bool
  | 0, _, _ => .ok false
  | fuel + 1, inverted, words =>
    let plain (words : List Octets) (binaryFirst : Bool) : Except Fault Bool :=
      (whole setting words binaryFirst).map (· != inverted)
    let special : Except Fault Bool :=
      if words.head? == some ['('] && words.getLast? == some [')'] then
        plain (words.drop 1).dropLast false
      else if words.head? == some ['!'] then evaluate setting fuel true (words.drop 1)
      else plain words false
    match words with
    | [] => .ok inverted
    | [_, operator, _] => if role? operator == some .binary then plain words true else special
    | [_, _, _, _] => special
    | _ => plain words false

/-- The value of the condition of a test command. -/
def test (setting : Setting) (name : Octets) (words : List Octets) : Except Fault Bool :=
  if name == ['['] then
    if words.getLast? == some [']'] then
      evaluate setting (words.length + 1) false words.dropLast
    else .error .missingBracket
  else evaluate setting (words.length + 1) false words

end PromptScript.Shell.Condition
