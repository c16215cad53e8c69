import PromptScript.Shell.State

/-!
# Arguments of the commands of the shell

The options and numbers that the commands of the shell itself take.
-/

namespace PromptScript.Shell.Builtin

/-- An option with its value, where it takes one. -/
abbrev GivenOption := Char × Octets

/-- Reads the options of a command up to its operands.  Letters that take a value are marked. -/
def readOptions (accepted : List (Char × Bool)) : Nat → List Octets →
    Action (List GivenOption × List Octets)
  | 0, words => return ([], words)
  | fuel + 1, words => do
    match words with
    | ['-', '-'] :: rest => return ([], rest)
    | ('-' :: letter :: more) :: rest =>
      match accepted.lookup letter with
      | none => Action.fail (octets "Illegal option -" ++ [letter])
      | some false =>
        let rest := if more.isEmpty then rest else ('-' :: more) :: rest
        let (options, operands) ← readOptions accepted fuel rest
        return ((letter, []) :: options, operands)
      | some true =>
        if !more.isEmpty then
          let (options, operands) ← readOptions accepted fuel rest
          return ((letter, more) :: options, operands)
        else
          match rest with
          | [] => Action.fail (octets "No arg for -" ++ [letter] ++ octets " option")
          | value :: rest =>
            let (options, operands) ← readOptions accepted fuel rest
            return ((letter, value) :: options, operands)
    | _ => return ([], words)

/-- The options and operands of a command. -/
def optionsOf (accepted : List (Char × Bool)) (words : List Octets) :
    Action (List GivenOption × List Octets) :=
  readOptions accepted (words.flatten.length + words.length + 1) words

/-- The operands of a command without options. -/
def operandsOf (words : List Octets) : Action (List Octets) := do
  return (← optionsOf [] words).2

/-- Whether an option is given. -/
def has (options : List GivenOption) (letter : Char) : Bool :=
  options.any fun option => option.1 == letter

/-- The number that a word of digits writes. -/
def number (word : Octets) : Action Nat := do
  match Integer.count? word with
  | some value => return value
  | none => Action.fail (octets "Illegal number: " ++ word)

/-- A text in single quotes. -/
def singleQuoted (text : Octets) : Octets :=
  '\'' :: (text.flatMap fun c =>
    if c == '\'' then ['\'', '"', '\'', '"', '\''] else [c]) ++ ['\'']

end PromptScript.Shell.Builtin
