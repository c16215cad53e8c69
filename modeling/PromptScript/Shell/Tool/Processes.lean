import PromptScript.Shell.Builtin.Signals
import PromptScript.Shell.Tool.Basic

/-!
# Tools that run programs

Tools that start other programs: with other variables, with words that they read, for some time,
or that only wait.
-/

namespace PromptScript.Shell.Tool

namespace Processes

/-- The length of a time in milliseconds. -/
def duration? (text : Octets) : Option Nat :=
  match text with
  | '-' :: _ => none
  | _ =>
    match Real.leading? text with
    | none => none
    | some (value, rest) =>
      let factor? : Option Float := match rest with
        | [] | ['s'] => some 1000
        | ['m'] => some 60000
        | ['h'] => some 3600000
        | ['d'] => some 86400000
        | _ => none
      if value.isNaN then none
      else factor?.map fun factor => (value * factor).ceil.toUInt64.toNat

/-- Runs a step until a time is over: none where it did not end in time. -/
def limited {α : Type} (milliseconds : Nat) (step : Action α) : Action (Option α) := do
  let outer ← get
  let ending := outer.world.elapsed + milliseconds
  if outer.world.limit ≤ ending then return some (← step)
  set { outer with world := { outer.world with limit := ending } }
  let result ← tryCatch (do return some (← step)) fun
    | .expired | .endless => return none
    | other => throw other
  modify fun inner =>
    { outer with
      world := { inner.world with
        tree := { inner.tree with workingDirectory := outer.tree.workingDirectory }
        limit := outer.world.limit
        elapsed := if result.isNone then ending else inner.world.elapsed
        isHeld := outer.world.isHeld } }
  return result

/-- Starts a program, or complains that it cannot be started. -/
def startOr (start : Starter) (complaint : FileError → Octets) (words : List Octets) :
    Action Nat := do
  match ← start words with
  | .ok result => return Builtin.statusOf result
  | .error cause =>
    complain (complaint cause)
    return if cause == .notFound || cause == .notDirectory then 127 else 126

/-- Starts a program under its plain name. -/
def startPlainly (start : Starter) (words : List Octets) : Action Nat :=
  startOr start (fun cause => quoted (words.headD []) ++ octets (": " ++ reasonOf cause)) words

end Processes

open Processes

/-- Waits. -/
def sleep : Tool := fun _ words => do
  let (_, operands) ← optionsOf {} words
  if operands.isEmpty then misuse 1 (octets "missing operand")
  let mut total := 0
  let mut failed := false
  for operand in operands do
    match duration? operand with
    | some length => total := total + length
    | none =>
      complain (octets "invalid time interval " ++ quoted operand)
      failed := true
  if failed then
    tryHelp
    return 1
  Action.wait total
  return 0

/-- Runs a program for some time at most. -/
def timeout : Tool := fun start words => do
  let (options, operands) ← optionsOf
    { letters := valuedLetters "ks" ++ plainLetters "vfp"
      names := [("kill-after", 'k'), ("signal", 's'), ("verbose", 'v'), ("foreground", 'f'),
        ("preserve-status", 'p')]
      mixes := false
      status := 125 } words
  match operands with
  | [] | [_] =>
    tryHelp
    return 125
  | length :: command =>
    let number? ← match value? options 's' with
      | none => pure (Signal.ofText? (octets "TERM"))
      | some text => pure (Signal.ofText? text)
    match duration? length, number? with
    | none, _ => misuse 125 (octets "invalid time interval " ++ quoted length)
    | _, none =>
      misuse 125 (quoted ((value? options 's').getD []) ++ octets ": invalid signal")
    | some length, some number =>
      let run : Action Nat := startOr start (fun cause =>
        octets "failed to run command " ++ quoted (command.headD [])
          ++ octets (": " ++ reasonOf cause)) command
      if length = 0 then run
      else
        match ← limited length run with
        | some status => return status
        | none =>
          if number = 9 then throw (.killed number)
          return if has options 'p' then 128 + number else 124

/-- Runs a program with other variables, or prints the variables. -/
def env : Tool := fun start words => do
  let words := if words.head? == some ['-'] then ['-', 'i'] :: words.drop 1 else words
  let (options, operands) ← optionsOf
    { letters := plainLetters "i0v" ++ valuedLetters "uCS"
      names := [("ignore-environment", 'i'), ("null", '0'), ("unset", 'u'), ("chdir", 'C')]
      mixes := false
      status := 125 } words
  if has options 'i' then modify fun shell => { shell with bindings := [] }
  for (letter, name) in options do
    if letter == 'u' then modify (·.forget name)
  let isSetting (word : Octets) : Bool := word.contains '=' && word.head? != some '='
  let settings := operands.takeWhile isSetting
  for setting in settings do
    let name := setting.takeWhile (· != '=')
    modify (·.bind name { value? := some (setting.drop (name.length + 1)), isExported := true })
  match operands.drop settings.length with
  | [] =>
    let mark := if has options '0' then '\x00' else '\n'
    for (name, value) in (← get).environment do
      Action.print (name ++ '=' :: value ++ [mark])
    return 0
  | command => startPlainly start command

/-- Prints the values of variables, or all variables. -/
def printenv : Tool := fun _ words => do
  let (options, operands) ← optionsOf
    { letters := plainLetters "0", names := [("null", '0')], mixes := false, status := 2 } words
  let mark := if has options '0' then '\x00' else '\n'
  let known := (← get).environment
  if operands.isEmpty then
    for (name, value) in known do
      Action.print (name ++ '=' :: value ++ [mark])
    return 0
  let mut failed := false
  for name in operands do
    match known.lookup name with
    | some value => Action.print (value ++ [mark])
    | none => failed := true
  return if failed then 1 else 0

/-- Runs a program with another priority. -/
def nice : Tool := fun start words => do
  let (_, operands) ← optionsOf
    { letters := valuedLetters "n"
      names := [("adjustment", 'n')]
      mixes := false
      status := 125 } words
  if operands.isEmpty then
    Action.print ['0', '\n']
    return 0
  startPlainly start operands

/-- Runs a program that outlives its shell. -/
def nohup : Tool := fun start words => do
  let (_, operands) ← optionsOf { mixes := false, status := 125 } words
  if operands.isEmpty then misuse 125 (octets "missing operand")
  startOr start (fun cause => octets "failed to run command " ++ quoted (operands.headD [])
    ++ octets (": " ++ reasonOf cause)) operands

/-- Runs a program in a session of its own. -/
def setsid : Tool := fun start words => do
  let (_, operands) ← optionsOf
    { letters := plainLetters "cfw", mixes := false } words
  if operands.isEmpty then misuse 1 (octets "no command specified")
  startOr start (fun cause => octets "failed to execute " ++ operands.headD []
    ++ octets (": " ++ reasonOf cause)) operands

/-- Runs a program whose output is not held back. -/
def stdbuf : Tool := fun start words => do
  let (_, operands) ← optionsOf
    { letters := valuedLetters "ioe"
      names := [("input", 'i'), ("output", 'o'), ("error", 'e')]
      mixes := false
      status := 125 } words
  if operands.isEmpty then misuse 125 (octets "missing operand")
  startOr start (fun cause => octets "failed to run command " ++ quoted (operands.headD [])
    ++ octets (": " ++ reasonOf cause)) operands

namespace Processes

/-- Why words cannot be read. -/
inductive WordFault where
  | singleQuote
  | doubleQuote
  deriving DecidableEq

/-- The characters that end a word. -/
def isGap (c : Char) : Bool :=
  c == ' ' || c == '\t' || c == '\n'

/-- The words of a text, in which quotes and backslashes count; with each word comes the number of
the line that it stands on; a blank at the end of a line lets the line go on.  Where `byLine` holds
only line feeds end words. -/
def splitArguments (byLine : Bool) : Nat → (line : Nat) → (current? : Option Octets) → Octets →
    List (Nat × Octets) × Option WordFault
  | 0, _, _, _ => ([], none)
  | fuel + 1, line, current?, text =>
    let finish (rest : List (Nat × Octets) × Option WordFault) :
        List (Nat × Octets) × Option WordFault :=
      match current? with
      | some current => ((line, current.reverse) :: rest.1, rest.2)
      | none => rest
    let add (c : Char) : Option Octets := some (c :: current?.getD [])
    let quotedText (mark : Char) (rest : Octets) (fault : WordFault) :
        List (Nat × Octets) × Option WordFault :=
      let body := rest.takeWhile fun c => c != mark && c != '\n'
      match rest.drop body.length with
      | c :: after =>
        if c == mark then
          splitArguments byLine fuel line (some (body.reverse ++ current?.getD [])) after
        else ([], some fault)
      | [] => ([], some fault)
    match text with
    | [] => finish ([], none)
    | '\'' :: rest => quotedText '\'' rest .singleQuote
    | '"' :: rest => quotedText '"' rest .doubleQuote
    | '\\' :: c :: rest => splitArguments byLine fuel line (add c) rest
    | c :: rest =>
      if c == '\n' then
        finish (splitArguments byLine fuel (line + 1) none rest)
      else if isGap c && (!byLine || current?.isNone) then
        let continues := !byLine && rest.head? == some '\n'
        if continues then finish (splitArguments byLine fuel line none (rest.drop 1))
        else finish (splitArguments byLine fuel line none rest)
      else splitArguments byLine fuel line (add c) rest

/-- The number of characters of a command; one ends each word. -/
def sizeOfWords (words : List Octets) : Nat :=
  words.flatten.length + words.length

/-- Lists of at most `most` words that take at most `room` characters; a word that takes more stands
alone. -/
def grouped (most room : Nat) (words : List Octets) : List (List Octets) :=
  go words [] 0 0
where
  go : List Octets → List Octets → Nat → Nat → List (List Octets)
    | [], group, _, _ => if group.isEmpty then [] else [group.reverse]
    | word :: rest, group, count, used =>
      let size := word.length + 1
      if group.isEmpty || (count < most && used + size ≤ room) then
        go rest (word :: group) (count + 1) (used + size)
      else group.reverse :: go rest [word] 1 size

/-- The words of some lines, and the words behind them: those of the line that was begun, and of
`count` more. -/
def firstLines : Nat → Option Nat → List (Nat × Octets) → List Octets × List (Nat × Octets)
  | _, _, [] => ([], [])
  | count, line?, (line, word) :: rest =>
    if line? == some line then
      let (words, behind) := firstLines count line? rest
      (word :: words, behind)
    else
      match count with
      | 0 => ([], (line, word) :: rest)
      | count + 1 =>
        let (words, behind) := firstLines count (some line) rest
        (word :: words, behind)

/-- Lists of the words of at most `count` lines. -/
def byLines (count : Nat) : Nat → List (Nat × Octets) → List (List Octets)
  | 0, _ => []
  | fuel + 1, words =>
    if words.isEmpty then []
    else
      let (here, behind) := firstLines (max 1 count) none words
      here :: byLines count fuel behind

/-- The greatest number of characters of a command, unless an option gives another one. -/
def commandSize : Nat := 131072

/-- The greatest number of characters that an option can give. -/
def largestCommandSize : Nat := 2092992

/-- A text with another one in all places of a mark. -/
def replaceAll (mark text : Octets) : Nat → Octets → Octets
  | 0, word => word
  | fuel + 1, word =>
    match word with
    | [] => []
    | c :: rest =>
      if !mark.isEmpty && mark.isPrefixOf word then
        text ++ replaceAll mark text fuel (word.drop mark.length)
      else c :: replaceAll mark text fuel rest

end Processes

/-- Runs a program with words that it reads. -/
def xargs : Tool := fun start words => do
  let (options, operands) ← optionsOf
    { letters := valuedLetters "nIdLPsaE" ++ plainLetters "0rtxop"
      names := [("max-args", 'n'), ("replace", 'I'), ("delimiter", 'd'), ("max-lines", 'L'),
        ("max-procs", 'P'), ("null", '0'), ("no-run-if-empty", 'r'), ("verbose", 't'),
        ("max-chars", 's'), ("arg-file", 'a'), ("exit", 'x')]
      mixes := false } words
  let command := if operands.isEmpty then [octets "echo"] else operands
  let count (letter : Char) : Action (Option Nat) := do
    match value? options letter with
    | none => return none
    | some text =>
      match Integer.count? text with
      | none => misuse 1 (octets "invalid number \"" ++ text ++ octets "\" for -" ++ letter
          :: octets " option")
      | some 0 => misuse 1 (octets "value " ++ text ++ octets " for -" ++ letter
          :: octets " option should be >= 1")
      | some number => return some number
  let most? ← count 'n'
  let lines? ← count 'L'
  let size ← match ← count 's' with
    | none => pure commandSize
    | some size =>
      if largestCommandSize < size then
        complain (octets "value " ++ decimal size ++ octets " for -s option should be <= "
          ++ decimal largestCommandSize)
      pure (min size largestCommandSize)
  let text ← match value? options 'a' with
    | none => Action.readAll
    | some path =>
      match ← readFile path with
      | .ok text => pure text
      | .error cause =>
        stop 1 (octets "Cannot open input file " ++ quoted path ++ octets (": " ++ reasonOf cause))
  let mark? := value? options 'I'
  let separator? : Option Char :=
    if has options '0' then some '\x00'
    else (value? options 'd').bind fun text => (Printf.unescape (text.length + 1) text).text.head?
  let (read, fault?) : List (Nat × Octets) × Option WordFault := match separator? with
    | some separator =>
      ((Lines.endedBy separator text).zipIdx.map fun (word, line) => (line, word), none)
    | none => splitArguments mark?.isSome (text.length + 1) 0 none text
  let given := read.map (·.2)
  let fuel := read.length + 1
  let commands : List (List Octets) := match mark? with
    | some mark => given.map fun word =>
        command.map fun part => replaceAll mark word (part.length + 1) part
    | none =>
      let groups := match lines?, most? with
        | some lines, _ => byLines lines fuel read
        | none, most? => grouped (most?.getD fuel) (size - sizeOfWords command) given
      let groups := if groups.isEmpty && !has options 'r' && fault?.isNone then [[]] else groups
      groups.map (command ++ ·)
  let mut status := 0
  for words in commands do
    if status < 124 then
      if size < sizeOfWords words then
        stop 1 (octets (if words.any fun word => size ≤ word.length + 1 then
            "argument line too long"
          else if lines?.isSome || mark?.isSome then "argument list too long"
          else "cannot fit single argument within argument list size limit"))
      if has options 't' then Action.complain ([' '].intercalate words ++ ['\n'])
      let before := (← get).handles
      modify (·.connect 0 .nothing)
      let result ← start words
      modify fun shell => { shell with handles := before }
      match result with
      | .error cause =>
        complain (words.headD [] ++ octets (": " ++ reasonOf cause))
        status := if cause == .notFound || cause == .notDirectory then 127 else 126
      | .ok (.code 0) => pure ()
      | .ok (.code 255) =>
        complain (words.headD [] ++ octets ": exited with status 255; aborting")
        status := 124
      | .ok (.code _) => status := 123
      | .ok (.signal number) =>
        complain (words.headD [] ++ octets ": terminated by signal " ++ decimal number)
        status := 125
  match fault? with
  | none => return status
  | some fault =>
    complain (octets ("unmatched " ++ (if fault == .singleQuote then "single" else "double")
      ++ " quote; by default quotes are special to xargs unless you use the -0 option"))
    return 1

end PromptScript.Shell.Tool
