import PromptScript.Shell.Builtin.Arguments
import PromptScript.Shell.Field
import PromptScript.Shell.Word

/-!
# Reading lines and options

The commands that read a line into variables, and the options of a script one after the other.
-/

namespace PromptScript.Shell.Builtin

/-- The pieces of a line, in which a backslash protects the next character and joins the line to
the next one; what follows the line, and whether a line feed ended it. -/
def linePieces (raw : Bool) : Octets → List Piece × Octets × Bool
  | [] => ([], [], false)
  | '\n' :: rest => ([], rest, true)
  | '\x00' :: rest => linePieces raw rest
  | '\\' :: c :: rest =>
    if raw then
      let (pieces, behind, ended) := linePieces raw (c :: rest)
      (.char '\\' .loose :: pieces, behind, ended)
    else
      let (pieces, behind, ended) := linePieces raw rest
      (if c == '\n' then pieces else .char c .quoted :: pieces, behind, ended)
  | ['\\'] => (if raw then [.char '\\' .loose] else [], [], false)
  | c :: rest =>
    let (pieces, behind, ended) := linePieces raw rest
    (.char c .loose :: pieces, behind, ended)

/-- The number of characters of a line, with what ends it. -/
def lineLength (raw : Bool) (text : Octets) : Nat :=
  go text 0
where
  go : Octets → Nat → Nat
    | [], count => count
    | '\n' :: _, count => count + 1
    | '\\' :: c :: rest, count => if raw then go (c :: rest) (count + 1) else go rest (count + 2)
    | _ :: rest, count => go rest (count + 1)

/-- How the text of the last variable of a line goes on at a character. -/
structure LastField where
  kept : Octets
  /-- What is dropped if nothing but separators follows. -/
  doubtful : Octets
  afterBlank : Bool

/-- The value of the last variable of a line, behind its first separator: blanks at its end do not
count, and one other separator at its end does not either where it is the only one. -/
def lastFieldRest (separators : Octets) : List Piece → LastField → Octets
  | [], state => state.kept
  | .char c origin :: rest, state =>
    let isSeparator := origin == .loose && separators.contains c
    let whole := state.kept ++ state.doubtful
    if isSeparator && blankSeparators.contains c then
      lastFieldRest separators rest { state with doubtful := state.doubtful ++ [c] }
    else if isSeparator && state.afterBlank && !state.doubtful.isEmpty then
      lastFieldRest separators rest ⟨state.kept, state.doubtful ++ [c], false⟩
    else lastFieldRest separators rest ⟨whole ++ [c], [], false⟩
  | _ :: rest, state => lastFieldRest separators rest state

/-- The value of the last variable of a line. -/
def lastField (separators : Octets) (pieces : List Piece) : Octets :=
  let isPlain (piece : Piece) : Bool := match piece with
    | .char c .loose => !separators.contains c
    | _ => true
  let first := pieces.takeWhile isPlain
  match pieces.drop first.length with
  | .char c _ :: rest =>
    lastFieldRest separators rest ⟨Piece.text first, [c], blankSeparators.contains c⟩
  | _ => Piece.text first

/-- Whether a piece is a blank that separates fields. -/
def isBlankSeparator (separators : Octets) (piece : Piece) : Bool :=
  match piece with
  | .char c .loose => separators.contains c && blankSeparators.contains c
  | _ => false

/-- The values of `count` variables for a line: one field each, and what is left for the last. -/
def lineFields (separators : Octets) : Nat → List Piece → List Octets
  | 0, _ => []
  | count + 1, pieces =>
    let pieces := pieces.dropWhile (isBlankSeparator separators)
    if count = 0 then [lastField separators pieces]
    else
      let isPlain (piece : Piece) : Bool := match piece with
        | .char c .loose => !separators.contains c
        | _ => true
      let field := pieces.takeWhile isPlain
      let behind := pieces.drop field.length
      let rest := behind.dropWhile (isBlankSeparator separators)
      let rest := match rest with
        | .char c .loose :: later => if separators.contains c then later else rest
        | _ => rest
      Piece.text field :: lineFields separators count rest

/-- Reads a line into variables. -/
def readLine (words : List Octets) : Action Nat := do
  let (options, names) ← optionsOf [('p', true), ('r', false)] words
  if names.isEmpty then Action.fail (octets "arg count")
  let raw := has options 'r'
  let taken ← Action.takeSome 0 fun text => text.splitAt (lineLength raw text)
  let (pieces, _, ended) := linePieces raw taken
  if !ended && (← get).isStuck then throw .endless
  let values := lineFields (separatorsOf (← get)) names.length pieces
  for (name, value) in names.zip values do
    if !isName name then Action.fail (name ++ octets ": bad variable name")
    Action.assign name value
  return if ended then 0 else 1

/-- What the next option of a group of arguments is. -/
structure OptionStep where
  /-- The letter, or a question mark or a colon where something is wrong. -/
  letter : Char
  value : Option Octets
  complaint : Option String
  /-- The number of the next argument. -/
  index : Nat
  /-- What is left of the group of options. -/
  place : Nat
  isOver : Bool

/-- The next option of some arguments. -/
def nextOption (accepted : Octets) (words : List Octets) (index place : Nat) : OptionStep :=
  let silent := accepted.head? == some ':'
  let current := if index ≤ 1 || place = 0 then [] else ((words[index - 2]?).getD []).drop place
  let finished (index : Nat) : OptionStep := ⟨'?', none, none, index, 0, true⟩
  let look (index place : Nat) (text : Octets) : OptionStep :=
    match text with
    | [] => finished index
    | letter :: rest =>
      let place := if rest.isEmpty then 0 else place + 1
      let known := accepted.dropWhile (· != letter)
      if known.isEmpty || letter == ':' then
        if silent then ⟨'?', some [letter], none, index, place, false⟩
        else ⟨'?', none, some ("Illegal option -" ++ String.ofList [letter]), index, place, false⟩
      else if known[1]? == some ':' then
        if !rest.isEmpty then ⟨letter, some rest, none, index, 0, false⟩
        else
          match words[index - 1]? with
          | some value => ⟨letter, some value, none, index + 1, 0, false⟩
          | none =>
            if silent then ⟨':', some [letter], none, index, 0, false⟩
            else
              ⟨'?', none, some ("No arg for -" ++ String.ofList [letter] ++ " option"), index, 0,
                false⟩
      else ⟨letter, some [], none, index, place, false⟩
  if !current.isEmpty then look index place current
  else
    match words[index - 1]? with
    | some ['-', '-'] => finished (index + 1)
    | some ('-' :: c :: rest) => look (index + 1) 1 (c :: rest)
    | _ => finished index

/-- Reads the next option of a script. -/
def readOption (words : List Octets) : Action Nat := do
  match words with
  | accepted :: name :: rest =>
    let shell ← get
    let arguments := if rest.isEmpty then shell.arguments else rest
    let index := ((shell.get? "OPTIND".toList).bind Integer.count?).getD 1
    let index := if arguments.length + 1 < index then 1 else max 1 index
    let step := nextOption accepted arguments index shell.optionPlace
    match step.value with
    | some value => Action.assign "OPTARG".toList value
    | none => if !step.isOver then modify fun shell => shell.forget "OPTARG".toList
    if let some complaint := step.complaint then Action.complain (octets complaint ++ ['\n'])
    Action.assign "OPTIND".toList (decimal step.index)
    if !isName name then Action.fail (name ++ octets ": bad variable name")
    Action.assign name [step.letter]
    modify fun shell => { shell with optionPlace := step.place }
    return if step.isOver then 1 else 0
  | _ => Action.fail (octets "Usage: getopts optstring var [arg]")

end PromptScript.Shell.Builtin
