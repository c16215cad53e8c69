import PromptScript.Shell.Printf
import PromptScript.Shell.State

/-!
# Tools

The programs that scripts call by name.  A tool takes its arguments, reads and writes by the open
files of its process, and gives a status.  Its messages begin with the name by which it was called,
and show words either between quotes with their special characters escaped, or written such that a
shell would read them again.
-/

namespace PromptScript.Shell.Quotation

/-- Whether a character is shown as it is. -/
def isPrintable (c : Char) : Bool :=
  ' ' ≤ c && c ≤ '~'

/-- The letter by which an escape writes a character. -/
def escapeLetter? : Char → Option Char
  | '\x07' => some 'a'
  | '\x08' => some 'b'
  | '\x0c' => some 'f'
  | '\n' => some 'n'
  | '\r' => some 'r'
  | '\t' => some 't'
  | '\x0b' => some 'v'
  | _ => none

/-- Three octal digits of the code of a character. -/
def octalCode (c : Char) : Octets :=
  [c.toNat / 64 % 8, c.toNat / 8 % 8, c.toNat % 8].map Nat.digitChar

/-- A character behind a backslash. -/
def escaped (c : Char) : Octets :=
  match escapeLetter? c with
  | some letter => ['\\', letter]
  | none => '\\' :: octalCode c

/-- A word between quotes; quotes and characters that cannot be shown are escaped. -/
def inQuotes (mark : Char) (word : Octets) : Octets :=
  mark :: (word.flatMap fun c =>
    if c == mark || c == '\\' then ['\\', c]
    else if isPrintable c then [c]
    else escaped c) ++ [mark]

/-- A word between single quotes. -/
def single (word : Octets) : Octets :=
  inQuotes '\'' word

/-- Whether a character means the same between double quotes as between single ones. -/
def isHarmless (c : Char) : Bool :=
  c.isAlphanum || c ∈ ['%', '+', ',', '-', '.', '/', ':', ']', '_', ' ', '#', '~', '\'']
    || (isPrintable c && c ∉ ['!', '"', '$', '&', '(', ')', '*', ';', '<', '=', '>', '[', '^',
      '\x60', '|', '?', '\\', '\x7b', '\x7d'])

/-- The body of a word for a shell; characters that cannot be shown stand in quotes of their own. -/
def shellBody (isEscaping : Bool) : Octets → Octets
  | [] => []
  | c :: rest =>
    if isPrintable c then
      (if isEscaping then ['\'', '\''] else [])
        ++ (if c == '\'' then ['\'', '\\', '\'', '\''] else [c]) ++ shellBody false rest
    else (if isEscaping then [] else ['\'', '$', '\'']) ++ escaped c ++ shellBody true rest

/-- A word as a shell would read it, always between quotes. -/
def forShell (word : Octets) : Octets :=
  if word.contains '\'' && word.all isHarmless then inQuotes '"' word
  else '\'' :: shellBody false word ++ ['\'']

/-- Whether a shell reads a character at a place of a word as itself. -/
def isPlainAt (place length : Nat) (c : Char) : Bool :=
  isPrintable c
    && c ∉ [' ', '!', '"', '$', '&', '(', ')', '*', ';', '<', '=', '>', '[', '^', '\x60', '|', '?',
      '\\', '\'', ':']
    && !((c == '\x7b' || c == '\x7d') && length == 1)
    && !((c == '#' || c == '~') && place == 0)

/-- A word as a shell would read it, between quotes only where it must be. -/
def asNeeded (word : Octets) : Octets :=
  let isPlain := !word.isEmpty
    && word.zipIdx.all fun (c, place) => isPlainAt place word.length c
  if isPlain then word else forShell word

end PromptScript.Shell.Quotation

namespace PromptScript.Shell

/-- How a tool starts other programs: it gives their words, and learns how they ended. -/
abbrev Starter := List Octets → Action (Except FileError ExitStatus)

/-- A tool. -/
abbrev Tool := Starter → List Octets → Action Nat

/-- The wording of a file error in messages. -/
def reasonOf : FileError → String
  | .notFound => "No such file or directory"
  | .permissionDenied => "Permission denied"
  | .alreadyExists => "File exists"
  | .notDirectory => "Not a directory"
  | .isDirectory => "Is a directory"
  | .nameTooLong => "File name too long"
  | .directoryNotEmpty => "Directory not empty"
  | .badExecutable => "Exec format error"
  | .notText => "Invalid or incomplete multibyte or wide character"
  | .nulInName | .nulInArgument => "No such file or directory"

namespace Tool

/-- Writes a message in the name of the tool. -/
def complain (message : Octets) : Action Unit := do
  Action.complain ((← get).name ++ octets ": " ++ message ++ ['\n'])

/-- Ends the tool with a message. -/
def stop {α : Type} (status : Nat) (message : Octets) : Action α := do
  complain message
  throw (.exit status)

/-- The hint that follows complaints about the use of a tool. -/
def tryHelp : Action Unit := do
  Action.complain (octets "Try '" ++ (← get).name ++ octets " --help' for more information.\n")

/-- The same hint as a message in the name of the tool. -/
def namedHelp : Action Unit := do
  complain (octets "Try '" ++ (← get).name ++ octets " --help' for more information.")

/-- Ends the tool with a message about its use. -/
def misuse {α : Type} (status : Nat) (message : Octets) : Action α := do
  complain message
  tryHelp
  throw (.exit status)

/-- A text in quotes, as messages show it. -/
def quoted (text : Octets) : Octets :=
  Quotation.single text

/-- The options that a tool takes: letters and long names, and whether they take a value. -/
structure Accepted where
  letters : List (Char × Bool) := []
  /-- Long names with the letters that they stand for. -/
  names : List (String × Char) := []
  /-- Options without a value of their own whose long name may have one. -/
  optional : List Char := []
  /-- Letters whose value is what follows them in the same word. -/
  attached : List Char := []
  /-- Whether options may stand behind operands. -/
  mixes : Bool := true
  /-- The status of a misuse. -/
  status : Nat := 1
  /-- What follows the name of the tool where its use is shown. -/
  summary : String := ""
  /-- Whether the hint at the help is a message in the name of the tool. -/
  namesHint : Bool := false

/-- An option with its value, where it takes one. -/
abbrev Given := Char × Octets

/-- Ends the tool because of its options. -/
def wrongOption {α : Type} (accepted : Accepted) (message : Octets) : Action α := do
  complain message
  if accepted.summary ≠ "" then
    Action.complain (octets "Usage: " ++ (← get).name ++ octets (" " ++ accepted.summary ++ "\n"))
  if accepted.namesHint then namedHelp else tryHelp
  throw (.exit accepted.status)

/-- Reads options and operands. -/
def readOptions (accepted : Accepted) : Nat → List Octets → Action (List Given × List Octets)
  | 0, words => return ([], words)
  | fuel + 1, words => do
    let further (option : Given) (rest : List Octets) : Action (List Given × List Octets) := do
      let (options, operands) ← readOptions accepted fuel rest
      return (option :: options, operands)
    match words with
    | [] => return ([], [])
    | ['-', '-'] :: rest => return ([], rest)
    | ('-' :: '-' :: long) :: rest =>
      let name := long.takeWhile (· != '=')
      let found := accepted.names.filter fun entry => name.isPrefixOf entry.1.toList
      let exact := found.filter fun entry => entry.1.toList == name
      let candidates := if exact.isEmpty then found else exact
      let full := octets "option '--" ++ octets ((candidates.map (·.1)).headD "")
      match (candidates.map (·.2)).eraseDups with
      | [letter] =>
        let takesValue := (accepted.letters.lookup letter).getD false
        let mayTakeValue := accepted.optional.contains letter
        if name.length < long.length then
          if takesValue || mayTakeValue then further (letter, long.drop (name.length + 1)) rest
          else wrongOption accepted (full ++ octets "' doesn't allow an argument")
        else if takesValue then
          match rest with
          | value :: rest => further (letter, value) rest
          | [] => wrongOption accepted (full ++ octets "' requires an argument")
        else further (letter, []) rest
      | [] =>
        wrongOption accepted (octets "unrecognized option '--" ++ name
          ++ long.drop name.length ++ ['\''])
      | _ =>
        wrongOption accepted (octets "option '--" ++ long ++ octets "' is ambiguous; possibilities:"
          ++ candidates.flatMap fun entry => octets (" '--" ++ entry.1 ++ "'"))
    | ('-' :: letter :: more) :: rest =>
      if accepted.attached.contains letter then
        return ← further (letter, more) rest
      match accepted.letters.lookup letter with
      | none => wrongOption accepted (octets "invalid option -- '" ++ [letter, '\''])
      | some false => further (letter, []) (if more.isEmpty then rest else ('-' :: more) :: rest)
      | some true =>
        if !more.isEmpty then further (letter, more) rest
        else
          match rest with
          | value :: rest => further (letter, value) rest
          | [] => wrongOption accepted (octets "option requires an argument -- '" ++ [letter, '\''])
    | operand :: rest =>
      if accepted.mixes then
        let (options, operands) ← readOptions accepted fuel rest
        return (options, operand :: operands)
      else return ([], words)

/-- The options and operands of a tool. -/
def optionsOf (accepted : Accepted) (words : List Octets) :
    Action (List Given × List Octets) :=
  readOptions accepted (words.flatten.length + words.length + 1) words

/-- Letters that take no value. -/
def plainLetters (letters : String) : List (Char × Bool) :=
  letters.toList.map fun letter => (letter, false)

/-- Letters that take a value. -/
def valuedLetters (letters : String) : List (Char × Bool) :=
  letters.toList.map fun letter => (letter, true)

/-- Whether an option is given. -/
def has (options : List Given) (letter : Char) : Bool :=
  options.any fun option => option.1 == letter

/-- The value of an option, the last one where it is given several times. -/
def value? (options : List Given) (letter : Char) : Option Octets :=
  options.reverse.lookup letter

/-- The text of the file with a name: a dash stands for the standard input. -/
def readFile (path : Octets) : Action (Except FileError Octets) := do
  match display path with
  | "-" | "/dev/stdin" | "/dev/fd/0" => return .ok (← Action.readAll)
  | "/dev/null" => return .ok []
  | "/dev/zero" | "/dev/full" | "/dev/random" | "/dev/urandom" =>
    modify fun shell => { shell with isStuck := true }
    return .ok Action.zeros
  | name => return ((← get).tree.read name).map ofBytes

/-- Writes a text to the file with a name, behind what stands there where `isAdded` holds. -/
def writeFile (path : Octets) (isAdded : Bool) (text : Octets) :
    Action (Except FileError Unit) := do
  match display path with
  | "/dev/null" | "/dev/zero" | "/dev/random" | "/dev/urandom" => return .ok ()
  | "/dev/stdout" | "/dev/fd/1" =>
    Action.print text
    return .ok ()
  | "/dev/stderr" | "/dev/fd/2" =>
    Action.complain text
    return .ok ()
  | name =>
    let shell ← get
    let before := if isAdded then
        match shell.tree.read name with
        | .ok bytes => bytes
        | .error _ => []
      else []
    Action.exert (before.length + text.length)
    match shell.tree.write name (before ++ toBytes text) with
    | .ok tree =>
      set (shell.withTree tree)
      return .ok ()
    | .error cause => return .error cause

/-- Whether a name is that of a device that gives bytes for ever. -/
def isEndless (path : Octets) : Bool :=
  ["/dev/zero", "/dev/full", "/dev/random", "/dev/urandom"].contains (display path)

/-- Complains about a file. -/
def complainFile (path : Octets) (cause : FileError) : Action Unit :=
  complain (Quotation.asNeeded path ++ octets (": " ++ reasonOf cause))

/-- The texts of some files, or of the standard input where there are none.  What cannot be read is
reported by `report`; the second result says whether something could not be read. -/
def readEach (operands : List Octets) (report : Octets → FileError → Action Unit) :
    Action (List (Octets × Octets) × Bool) := do
  let mut texts : List (Octets × Octets) := []
  let mut failed := false
  for operand in if operands.isEmpty then [['-']] else operands do
    match ← readFile operand with
    | .ok text => texts := (operand, text) :: texts
    | .error cause =>
      report operand cause
      failed := true
  return (texts.reverse, failed)

/-- The texts of some files, with plain complaints. -/
def readInputs (operands : List Octets) : Action (List (Octets × Octets) × Bool) :=
  readEach operands complainFile

/-- What a program prints that is started with other words to read, where such are given. -/
def outputOf (start : Starter) (words : List Octets) (input? : Option Octets) :
    Action (Octets × Except FileError ExitStatus) := do
  let before ← get
  let index := before.world.channels.size
  let opened := (before.openChannel { unread := [] }).connect 1 (.channel index)
  set (match input? with
    | some input => (opened.openChannel { unread := input }).connect 0 (.channel (index + 1))
    | none => opened)
  let result ← start words
  modify fun shell => { shell with handles := before.handles }
  return ((← get).writtenTo index, result)

/-- The words that run a command of the shell. -/
def shellWords (command : Octets) : List Octets :=
  [octets "sh", octets "-c", command]

/-- The number that a count with a unit writes: the letters of units stand for powers of 1024, and
of 1000 where a B follows.  A number out of range is held at its end. -/
def sizeOf? (text : Octets) : Option Nat :=
  let digits := text.takeWhile Char.isDigit
  let number := Integer.ofDigits 10 digits
  let power? (letter : Char) : Option Nat :=
    match ['k', 'm', 'g', 't', 'p', 'e', 'z', 'y'].findIdx? (· == letter.toLower) with
    | some place => if letter.isLower && place ≠ 0 && letter ≠ 'm' then none else some (place + 1)
    | none => none
  let factor? : Option Nat := match text.drop digits.length with
    | [] => some 1
    | ['b'] => some 512
    | [letter] => (power? letter).map (Nat.pow 1024)
    | [letter, 'B'] => (power? letter).map (Nat.pow 1000)
    | [letter, 'i', 'B'] => (power? letter).map (Nat.pow 1024)
    | _ => none
  if digits.isEmpty then none
  else factor?.map fun factor => min (number * factor) 0xffffffffffffffff

/-- A tool that prints what it makes of all its text. -/
def filterText (change : Octets → Octets) (operands : List Octets) : Action Nat := do
  let (texts, failed) ← readInputs operands
  Action.print (change (texts.flatMap (·.2)))
  return if failed then 1 else 0

end Tool

/-! ## Lines -/

namespace Lines

/-- The pieces of a text between the places of a character. -/
def pieces (separator : Char) : Octets → List Octets
  | [] => [[]]
  | c :: rest =>
    if c = separator then [] :: pieces separator rest
    else
      match pieces separator rest with
      | first :: others => (c :: first) :: others
      | [] => [[c]]

/-- The pieces of a text, each of which a character ends; it may be missing at the end. -/
def endedBy (mark : Char) (text : Octets) : List Octets :=
  let all := pieces mark text
  if all.getLast? == some [] then all.dropLast else all

/-- The lines of a text. -/
def ofText (text : Octets) : List Octets :=
  endedBy '\n' text

/-- The text of some lines, each with a line feed. -/
def toText (lines : List Octets) : Octets :=
  lines.flatMap fun line => line ++ ['\n']

/-- Whether the last line of a text has no line feed. -/
def isOpen (text : Octets) : Bool :=
  !text.isEmpty && text.getLast? != some '\n'

/-- The text of some lines, of which the last has a line feed only where that of `source` does. -/
def toTextLike (source : Octets) (lines : List Octets) : Octets :=
  if isOpen source then (toText lines).dropLast else toText lines

/-- A text with blanks before it, up to a width. -/
def padLeft (width : Nat) (text : Octets) : Octets :=
  List.replicate (width - text.length) ' ' ++ text

/-- A text with blanks behind it, up to a width. -/
def padRight (width : Nat) (text : Octets) : Octets :=
  text ++ List.replicate (width - text.length) ' '

end Lines

namespace Tool

/-! ## Walks through directories

The entries below a path, in the order of their names. -/

/-- An entry that a walk comes to. -/
structure Visit where
  path : Octets
  location : Location
  entry : Entry
  /-- The number of directories between the beginning of the walk and the entry. -/
  depth : Nat

/-- A path with a name behind it. -/
def pathWith (path name : Octets) : Octets :=
  if path.getLast? == some '/' then path ++ name else path ++ '/' :: name

/-- The entry at a location and all below it.  Directories come before what they hold, or behind
it where `inner` holds. -/
def walkFrom (tree : FileTree) (inner : Bool) : Nat → Octets → Location → Nat → List Visit
  | 0, _, _, _ => []
  | fuel + 1, path, location, depth =>
    match tree.get? location with
    | none => []
    | some entry =>
      let self : Visit := { path, location, entry, depth }
      let below := match entry with
        | .file _ => []
        | .directory => (tree.namesAt location).flatMap fun name =>
            walkFrom tree inner fuel (pathWith path (octets name)) (location ++ [name]) (depth + 1)
      if inner then below ++ [self] else self :: below

/-- The entry that a path names and all below it. -/
def walk (tree : FileTree) (inner : Bool) (path : Octets) : Except FileError (List Visit) := do
  let location ← tree.resolve (display path)
  return walkFrom tree inner (tree.entries.length + 2) path location 0

/-- The last name of a path, as tools show it: a path of slashes alone is one. -/
def baseName (path : Octets) : Octets :=
  let bare := (path.reverse.dropWhile (· == '/')).reverse
  if bare.isEmpty then path.take 1
  else (bare.reverse.takeWhile (· != '/')).reverse

end Tool

end PromptScript.Shell
