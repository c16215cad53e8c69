import PromptScript.Shell.Edit.Run
import PromptScript.Shell.Record.Run

/-!
# Tools that follow a script

The tool that works record by record, and the editor.
-/

namespace PromptScript.Shell.Tool

/-!
## The record tool

The tool that works on texts record by record, by a program.
-/

namespace Records

/-- What the options say. -/
structure Choice where
  separator? : Option Octets := none
  assignments : List (Octets × Octets) := []
  /-- The text of the programs that come from files, and what messages about it begin with. -/
  program? : Option (Octets × Octets) := none

/-- Reads the options; the result also holds the words behind them. -/
def options : Nat → Choice → List Octets → Action (Choice × List Octets)
  | 0, choice, words => return (choice, words)
  | fuel + 1, choice, words => do
    match words with
    | [] | ['-'] :: _ => return (choice, words)
    | ['-', '-'] :: rest => return (choice, rest)
    | word :: rest =>
      match word with
      | '-' :: letter :: more =>
        if !(letter ∈ ['F', 'v', 'f', 'W']) then stop 2 (octets "not an option: " ++ word)
        let (value, rest) ← match more, rest with
          | [], value :: rest => pure (value, rest)
          | [], [] => stop 2 (octets "option -" ++ letter :: octets " lacks argument")
          | _, _ => pure (more, rest)
        match letter with
        | 'F' =>
          options fuel { choice with separator? := some value } rest
        | 'v' =>
          match splitAssignment? value with
          | some assignment =>
            options fuel { choice with assignments := choice.assignments ++ [assignment] } rest
          | none => stop 2 (octets "improper assignment: -v " ++ value)
        | 'f' =>
          match ← readFile value with
          | .ok text =>
            let before := (choice.program?.map (·.1)).getD []
            let joined := if Lines.isOpen before then before ++ '\n' :: text else before ++ text
            let lead := value ++ octets ": "
            options fuel { choice with program? := some (joined, lead) } rest
          | .error cause =>
            stop 2 (octets "cannot open \"" ++ value ++ octets ("\" (" ++ reasonOf cause ++ ")"))
        | _ => options fuel choice rest
      | _ => return (choice, words)

end Records

/-- Works on texts record by record. -/
def awk : Tool := fun start words => do
  let (choice, operands) ← Records.options (words.length + 1) {} words
  let ((text, lead), operands) ← match choice.program?, operands with
    | some found, operands => pure (found, operands)
    | none, text :: rest => pure ((text, []), rest)
    | none, [] => do
      Action.complain (octets "Usage: mawk [Options] [Program] [file ...]\n")
      throw (.exit 2)
  match Record.readProgram text with
  | .error messages =>
    for message in messages do
      complain (lead ++ message)
    return 2
  | .ok read =>
    let separator := choice.separator?.toList.map fun text => (octets "FS", text)
    Record.run { program := read.program, lists := read.lists, start }
      ((← get).name :: operands)
      (separator ++ choice.assignments)

/-!
## The editor

The tool that edits texts by a script.
-/

namespace Editor

open Edit

/-- A part of a script: where it comes from, and its text. -/
inductive Origin where
  | expression (number : Nat)
  | file (path : Octets)

/-- Ends the tool because of a fault of the script. -/
def refuse {α : Type} (origin : Origin) (fault : Fault) : Action α :=
  if fault.message == octets "character class syntax is [[:space:]], not [:space:]" then
    stop 4 fault.message
  else
    match origin with
    | .expression number =>
      stop 1 (octets "-e expression #" ++ decimal number ++ octets ", char " ++ decimal fault.place
        ++ octets ": " ++ fault.message)
    | .file path =>
      stop 1 (octets "file " ++ path ++ octets " line " ++ decimal fault.line ++ octets ": "
        ++ fault.message)

/-- Reads the parts of a script. -/
def readParts (isExtended isQuiet isConfined : Bool) (parts : List (Origin × Octets)) : Action Script := do
  let mut source : Source := { rest := [], isExtended, isConfined }
  let mut read : List Instruction := []
  let mut isFirst := true
  let mut origin : Origin := .expression 1
  for (from?, text) in parts do
    origin := from?
    let begun := { source with rest := text, place := 0, line := 1, isFirstPart := isFirst }
    let (result, after) := (Reading.part read).run.run begun
    match result with
    | .error fault => refuse from? fault
    | .ok instructions => read := instructions
    source := after
    isFirst := false
  if source.depth ≠ 0 then refuse origin ⟨octets "unmatched \x60\x7b'", 0, 0⟩
  let instructions := linked read
  for instruction in instructions do
    if let .jump _ label := instruction.verb then
      if !label.isEmpty && (labelPlace? instructions label).isNone then
        stop 4 (octets "can't find label for jump to \x60" ++ label ++ ['\''])
  return { instructions, isQuiet := isQuiet || source.isQuiet }

end Editor

/-- Edits texts by a script. -/
def sed : Tool := fun start words => do
  let (options, operands) ← optionsOf
    { letters := plainLetters "nErszuXYZ" ++ valuedLetters "efl"
      names := [("quiet", 'n'), ("silent", 'n'), ("expression", 'e'), ("file", 'f'),
        ("regexp-extended", 'E'), ("in-place", 'i'), ("line-length", 'l'), ("null-data", 'z'),
        ("zero-terminated", 'z'), ("separate", 's'), ("unbuffered", 'u'), ("posix", 'X'),
        ("sandbox", 'Y'), ("follow-symlinks", 'Z')]
      attached := ['i']
      optional := ['i']
      summary := "[OPTION]... \x7bscript-only-if-no-other-script\x7d [input-file]..." } words
  let given := options.filter fun option => option.1 == 'e' || option.1 == 'f'
  let (given, operands) ← match given, operands with
    | [], script :: rest => pure ([('e', script)], rest)
    | [], [] => do
      Action.complain (octets "Usage: " ++ (← get).name
        ++ octets " [OPTION]... \x7bscript-only-if-no-other-script\x7d [input-file]...\n")
      throw (.exit 1)
    | _, _ => pure (given, operands)
  let mut parts : List (Editor.Origin × Octets) := []
  let mut count := 0
  for (letter, text) in given do
    if letter == 'e' then
      count := count + 1
      parts := parts ++ [(.expression count, text)]
    else
      match ← readFile text with
      | .ok content =>
        let script := if content.getLast? == some '\n' then content.dropLast else content
        parts := parts ++ [(.file text, script)]
      | .error cause =>
        stop 4 (octets "couldn't open file " ++ text ++ octets (": " ++ reasonOf cause))
  let script ← Editor.readParts (has options 'E' || has options 'r') (has options 'n')
    (has options 'Y') parts
  let mark := if has options 'z' then '\x00' else '\n'
  let inPlace? := value? options 'i'
  let mut documents : List Edit.Document := []
  let mut failed := false
  for path in if operands.isEmpty then [['-']] else operands do
    let isInput := path == ['-'] && inPlace?.isNone
    let found ← if !isInput && path == ['-'] then pure (.error .notFound) else readFile path
    match found with
    | .ok text =>
      documents := documents ++ [{
        name := path
        lines := Lines.endedBy mark text
        isOpen := !text.isEmpty && text.getLast? != some mark
        isInput }]
    | .error .isDirectory =>
      if inPlace?.isSome then
        stop 4 (octets "couldn't edit " ++ path ++ octets ": not a regular file")
      stop 4 (octets "read error on " ++ path ++ octets ": Is a directory")
    | .error cause =>
      complain (octets "can't read " ++ path ++ octets (": " ++ reasonOf cause))
      failed := true
  let manner : Edit.Manner :=
    { script
      isSeparate := has options 's' || inPlace?.isSome
      inPlace?
      mark
      width := ((value? options 'l').bind Integer.count?).getD 70
      start }
  let status? ← Edit.Editing.run manner documents
  return status?.getD (if failed then 2 else 0)

end PromptScript.Shell.Tool
