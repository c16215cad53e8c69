import PromptScript.Pattern.Regular.Reader
import PromptScript.Shell.Command
import PromptScript.Shell.Integer
import PromptScript.Shell.Printf

/-!
# Editing scripts

The commands of scripts that edit texts line by line, and their notation.  The commands of a script
stand in one list; a block is a command that says where it ends.  A script can come in several
parts; a fault is told with the place up to which its part was read.
-/

namespace PromptScript.Shell.Edit

open Pattern (Regular)

/-! ## Commands -/

/-- A pattern; the empty one stands for the last one that was used. -/
structure Wanted where
  expression? : Option Regular
  /-- Whether line feeds end lines within the text. -/
  hasLines : Bool := false

/-- Which lines a command is for. -/
inductive Address where
  | line (number : Nat)
  /-- Every line that lies some steps behind the first. -/
  | steps (first step : Nat)
  | last
  | pattern (pattern : Wanted)
  /-- As many lines behind the first one. -/
  | ahead (count : Nat)
  /-- Up to the next line with a number that is a multiple. -/
  | multiple (count : Nat)

/-- How the case of letters is changed. -/
inductive CaseChange where
  | none
  | upper
  | lower
  deriving DecidableEq

/-- A part of what is put in the place of a match. -/
inductive Piece where
  | text (content : Octets)
  /-- The text of a group; the whole match is the group zero. -/
  | group (index : Nat)
  /-- From here on letters are changed. -/
  | turn (change : CaseChange)
  /-- The next letter is changed. -/
  | turnNext (change : CaseChange)

/-- A substitution. -/
structure Substitution where
  pattern : Wanted
  pieces : List Piece
  isGlobal : Bool := false
  /-- The number of the first match that is replaced. -/
  number : Nat := 1
  prints : Bool := false
  /-- Whether the text is run as a command, and whether it is printed before. -/
  runs : Bool := false
  printsBefore : Bool := false
  file? : Option Octets := none

/-- When a jump is made. -/
inductive JumpTest where
  | always
  | afterChange
  | withoutChange
  deriving DecidableEq

/-- What a command does. -/
inductive Verb where
  /-- A block, and the place behind its end. -/
  | block (finish : Nat)
  /-- A place that does nothing. -/
  | idle
  | mark (label : Octets)
  | showNumber
  | append (text : Octets)
  | insert (text : Octets)
  | change (text : Octets)
  | jump (test : JumpTest) (label : Octets)
  | delete
  | deleteFirst
  /-- Runs a command, or the text itself. -/
  | execute (command? : Option Octets)
  | showName
  | fetch
  | fetchMore
  | keep
  | keepMore
  | exchange
  | list (width? : Option Nat)
  | next
  | nextMore
  | print
  | printFirst
  | quit (status : Nat) (isSilent : Bool)
  | readFile (path : Octets)
  | readLine (path : Octets)
  | substitute (substitution : Substitution)
  | writeFile (path : Octets)
  | writeFirst (path : Octets)
  | translate (pairs : List (Char × Char))
  | clear

/-- A command with the lines that it is for. -/
structure Instruction where
  first? : Option Address := none
  last? : Option Address := none
  isInverted : Bool := false
  verb : Verb

/-- A script. -/
structure Script where
  instructions : Array Instruction
  /-- Whether lines are printed only where a command says so. -/
  isQuiet : Bool

/-! ## Reading -/

/-- Why a script cannot be read. -/
structure Fault where
  message : Octets
  /-- The number of characters that were read. -/
  place : Nat
  /-- The number of the line that was read. -/
  line : Nat

/-- How far a part of a script was read. -/
structure Source where
  rest : Octets
  place : Nat := 0
  line : Nat := 1
  /-- Whether expressions are written in the extended notation. -/
  isExtended : Bool
  /-- Whether commands and files may not be used. -/
  isConfined : Bool := false
  isFirstPart : Bool := false
  isQuiet : Bool := false
  /-- The number of blocks that are open. -/
  depth : Nat := 0
  /-- A command whose text is to come with the next part. -/
  pending? : Option (Octets → Verb) := none

/-- A step of reading. -/
abbrev Reading (α : Type) := ExceptT Fault (StateM Source) α

namespace Reading

/-- Refuses the script. -/
def bad {α : Type} (message : String) : Reading α := do
  let source ← get
  throw ⟨octets message, source.place, source.line⟩

/-- Refuses the script as a whole. -/
def badWhole {α : Type} (message : String) : Reading α := do
  throw ⟨octets message, 0, 0⟩

/-- Refuses what is not allowed to confined scripts. -/
def beFree : Reading Unit := do
  if (← get).isConfined then bad "e/r/w commands disabled in sandbox mode"

/-- Takes a character: none at the end. -/
def next : Reading (Option Char) := do
  let source ← get
  match source.rest with
  | [] => return none
  | c :: rest =>
    set { source with
      rest
      place := source.place + 1
      line := if c == '\n' then source.line + 1 else source.line }
    return some c

/-- Puts a character back. -/
def back (c? : Option Char) : Reading Unit := do
  if let some c := c? then
    modify fun source =>
      { source with
        rest := c :: source.rest
        place := source.place - 1
        line := if c == '\n' then source.line - 1 else source.line }

/-- Takes all characters of a kind. -/
def takeAll (wanted : Char → Bool) : Reading Octets := do
  let source ← get
  let taken := source.rest.takeWhile wanted
  set { source with
    rest := source.rest.drop taken.length
    place := source.place + taken.length
    line := source.line + taken.count '\n' }
  return taken

/-- Whether a character is blank within a line. -/
def isBlank (c : Char) : Bool :=
  c == ' ' || c == '\t'

/-- Takes the next character that is not blank. -/
def nextFilled : Reading (Option Char) := do
  let _ ← takeAll isBlank
  next

/-- The number that begins with a digit that was taken. -/
def number (first? : Option Char) : Reading Nat := do
  match first? with
  | some first =>
    if first.isDigit then
      let others ← takeAll Char.isDigit
      return Integer.ofDigits 10 (first :: others)
    else
      back first?
      return 0
  | none => return 0

/-- What follows a class of characters up to the end of its opening part. -/
def bracketStart : Reading Octets := do
  let negation ← if (← get).rest.head? == some '^' then takeFew 1 else pure []
  let closing ← if (← get).rest.head? == some ']' then takeFew 1 else pure []
  return negation ++ closing
where
  takeFew (count : Nat) : Reading Octets := do
    let source ← get
    let taken := source.rest.take count
    set { source with rest := source.rest.drop count, place := source.place + taken.length }
    return taken

/-- The text up to a delimiter: none where it does not come before the end of the line.  In a
pattern the delimiter has no meaning within brackets. -/
def delimited (mark : Char) (isPattern : Bool) : Nat → (inBracket : Option (Option Char)) →
    Reading (Option Octets)
  | 0, _ => return none
  | fuel + 1, inBracket => do
    let put (text : Octets) (inBracket : Option (Option Char)) : Reading (Option Octets) := do
      return (← delimited mark isPattern fuel inBracket).map (text ++ ·)
    match ← next with
    | none => return none
    | some c =>
      if c == '\n' then
        back (some c)
        return none
      match inBracket with
      | some (some kind) =>
        if c == kind && (← get).rest.head? == some ']' then
          let _ ← next
          put [c, ']'] (some none)
        else put [c] inBracket
      | some none =>
        if c == ']' then put [c] none
        else if c == '[' then
          match (← get).rest.head? with
          | some kind =>
            if kind == ':' || kind == '.' || kind == '=' then
              let _ ← next
              put [c, kind] (some (some kind))
            else put [c] inBracket
          | none => put [c] inBracket
        else if c == '\\' && (← get).rest.head? == some 'n' then
          let _ ← next
          put ['\n'] inBracket
        else put [c] inBracket
      | none =>
        if c == mark then return some []
        else if c == '\\' then
          match ← next with
          | none => return none
          | some other =>
            if other == 'n' && isPattern then put ['\n'] none
            else if other == '\n' then put [other] none
            else if other == mark && (isPattern || other != '&') then put [other] none
            else put ['\\', other] none
        else if c == '[' && isPattern then
          let start ← bracketStart
          put (c :: start) (some none)
        else put [c] none

/-- The text up to a delimiter. -/
def upTo (mark : Char) (isPattern : Bool) : Reading (Option Octets) := do
  delimited mark isPattern ((← get).rest.length + 1) none

/-- The character that an escape with a code or a letter writes, behind its backslash, and what
follows it. -/
def escape? (text : Octets) : Option (Char × Octets) :=
  let coded (base count : Nat) (rest : Octets) : Option (Char × Octets) :=
    let digits := (rest.take count).takeWhile (Integer.isDigitIn base)
    if digits.isEmpty then none
    else some (Char.ofNat (Integer.ofDigits base digits % 256), rest.drop digits.length)
  match text with
  | 'a' :: rest => some ('\x07', rest)
  | 'f' :: rest => some ('\x0c', rest)
  | 'n' :: rest => some ('\n', rest)
  | 'r' :: rest => some ('\r', rest)
  | 't' :: rest => some ('\t', rest)
  | 'v' :: rest => some ('\x0b', rest)
  | 'c' :: c :: rest => some (Char.ofNat (c.toUpper.toNat ^^^ 64), rest)
  | 'd' :: rest => coded 10 3 rest
  | 'o' :: rest => coded 8 3 rest
  | 'x' :: rest => coded 16 2 rest
  | _ => none

/-- A pattern with the characters of escapes in it; one that has a meaning keeps a backslash. -/
def withEscapes : Nat → Octets → Octets
  | 0, text => text
  | fuel + 1, text =>
    match text with
    | '\\' :: rest =>
      match escape? rest with
      | some (c, after) =>
        let isMark := c ∈ ['^', '$', '.', '*', '[', ']', '\\', '/']
        (if isMark && rest.head? != some 'n' then ['\\', c] else [c]) ++ withEscapes fuel after
      | none => '\\' :: rest.take 1 ++ withEscapes fuel (rest.drop 1)
    | c :: rest => c :: withEscapes fuel rest
    | [] => []

/-- Reads a pattern with its flags. -/
def pattern (text : Octets) (folds hasLines : Bool) : Reading Wanted := do
  if text.isEmpty then return { expression? := none, hasLines }
  let source ← get
  let shape : Regular.Notation := if source.isExtended then .extended else .basic
  match Regular.read shape (withEscapes (text.length + 1) text) with
  | .ok expression =>
    let expression := if folds then expression.foldCase else expression
    return { expression? := some (if hasLines then expression.withinLine else expression), hasLines }
  | .error fault =>
    if fault == .misplacedClass then throw ⟨octets fault.message, 0, 0⟩
    throw ⟨octets fault.message, source.place, source.line⟩

/-- The flags behind the pattern of an address: whether the case of letters does not count, and
whether line feeds end lines. -/
def addressFlags : Nat → Bool → Bool → Reading (Bool × Bool)
  | 0, folds, hasLines => return (folds, hasLines)
  | fuel + 1, folds, hasLines => do
    match ← nextFilled with
    | some 'I' => addressFlags fuel true hasLines
    | some 'M' => addressFlags fuel folds true
    | other =>
      back other
      return (folds, hasLines)

/-- Reads an address that begins with a character. -/
def address? (first? : Option Char) : Reading (Option Address) := do
  let patternFrom (mark : Char) : Reading (Option Address) := do
    match ← upTo mark true with
    | none => bad "unterminated address regex"
    | some text =>
      let (folds, hasLines) ← addressFlags ((← get).rest.length + 1) false false
      return some (.pattern (← pattern text folds hasLines))
  match first? with
  | some '/' => patternFrom '/'
  | some '\\' =>
    match ← next with
    | some mark => patternFrom mark
    | none => bad "unterminated address regex"
  | some '$' => return some .last
  | some '+' => return some (.ahead (← number (← nextFilled)))
  | some '~' => return some (.multiple (← number (← nextFilled)))
  | some c =>
    if !c.isDigit then return none
    let first ← number first?
    match ← nextFilled with
    | some '~' =>
      let step ← number (← nextFilled)
      return some (if step = 0 then .line first else .steps first step)
    | other =>
      back other
      return some (.line first)
  | none => return none

/-- Sees to it that a command ends. -/
def finish : Reading Unit := do
  match ← nextFilled with
  | none | some '\n' | some ';' => return
  | some c =>
    if c == '\x7d' || c == '#' then back (some c)
    else bad "extra characters after command"

/-- Reads a label. -/
def label : Reading Octets := do
  let _ ← takeAll isBlank
  takeAll fun c => !Integer.isBlank c && c != ';' && c != '\x7d'

/-- Reads the name of a file. -/
def fileName : Reading Octets := do
  let _ ← takeAll isBlank
  let name ← takeAll (· != '\n')
  let _ ← next
  if name.isEmpty then bad "missing filename in r/R/w/W commands"
  return name

/-- The text of a command up to a line feed that no backslash escapes. -/
def textBody : Nat → Reading Octets
  | 0 => return []
  | fuel + 1 => do
    match ← next with
    | none => return []
    | some '\n' => return ['\n']
    | some '\\' =>
      let rest := (← get).rest
      match rest with
      | [] => return []
      | '\n' :: _ =>
        let _ ← next
        return '\n' :: (← textBody fuel)
      | c :: _ =>
        match if c == 'n' then none else escape? rest with
        | some (char, after) =>
          let count := rest.length - after.length
          for _ in List.range count do
            let _ ← next
          return char :: (← textBody fuel)
        | none =>
          let _ ← next
          return (if c == 'n' then '\n' else c) :: (← textBody fuel)
    | some c => return c :: (← textBody fuel)

/-- The text of a command, which always ends in a line feed. -/
def wholeText : Reading Octets := do
  let text ← textBody ((← get).rest.length + 1)
  return if text.getLast? == some '\n' then text else text ++ ['\n']

/-- Reads the text behind a command that adds text. -/
def addedText (make : Octets → Verb) : Reading Verb := do
  match ← nextFilled with
  | none => bad "expected \\ after \x60a', \x60c' or \x60i'"
  | some '\\' =>
    match (← get).rest with
    | [] =>
      modify fun source => { source with pending? := some make }
      return make []
    | '\n' :: _ =>
      let _ ← next
      return make (← wholeText)
    | c :: rest =>
      -- blanks before the end of the line count as the end
      let blanks := (c :: rest).takeWhile isBlank
      if (rest.drop (blanks.length - 1)).head? == some '\n' && !blanks.isEmpty then
        let _ ← takeAll isBlank
        let _ ← next
        return make (← wholeText)
      else return make (← escapedStart)
  | first =>
    back first
    return make (← wholeText)
where
  /-- A text of which the first character is itself. -/
  escapedStart : Reading Octets := do
    match (← get).rest with
    | '\\' :: _ => wholeText
    | _ =>
      match ← next with
      | some c => return c :: (← wholeText)
      | none => return ['\n']

/-- Reads what is put in the place of matches. -/
def pieces : Nat → Octets → List Piece
  | 0, _ => []
  | fuel + 1, text =>
    let plain := text.takeWhile fun c => c != '\\' && c != '&'
    if !plain.isEmpty then .text plain :: pieces fuel (text.drop plain.length)
    else
      match text with
      | '&' :: rest => .group 0 :: pieces fuel rest
      | '\\' :: c :: rest =>
        if c.isDigit then .group (c.toNat - 48) :: pieces fuel rest
        else
          match c with
          | 'U' => .turn .upper :: pieces fuel rest
          | 'L' => .turn .lower :: pieces fuel rest
          | 'E' => .turn .none :: pieces fuel rest
          | 'u' => .turnNext .upper :: pieces fuel rest
          | 'l' => .turnNext .lower :: pieces fuel rest
          | _ =>
            match escape? (c :: rest) with
            | some (char, after) => .text [char] :: pieces fuel after
            | none => .text [c] :: pieces fuel rest
      | '\\' :: [] => [.text ['\\']]
      | _ => []

/-- The flags of a substitution. -/
structure Flags where
  folds : Bool := false
  hasLines : Bool := false
  isGlobal : Bool := false
  prints : Bool := false
  printsBefore : Bool := false
  runs : Bool := false
  number? : Option Nat := none
  file? : Option Octets := none

/-- Reads the flags of a substitution. -/
def flags : Nat → Flags → Reading Flags
  | 0, read => return read
  | fuel + 1, read => do
    match ← next with
    | some 'i' | some 'I' => flags fuel { read with folds := true }
    | some 'm' | some 'M' => flags fuel { read with hasLines := true }
    | some 'e' =>
      beFree
      flags fuel { read with runs := true }
    | some 'p' =>
      if read.prints then bad "multiple \x60p' options to \x60s' command"
      flags fuel { read with prints := true, printsBefore := !read.runs }
    | some 'g' =>
      if read.isGlobal then bad "multiple \x60g' options to \x60s' command"
      flags fuel { read with isGlobal := true }
    | some 'w' =>
      beFree
      return { read with file? := some (← fileName) }
    | none | some '\n' | some ';' => return read
    | some ' ' | some '\t' => flags fuel read
    | some c =>
      if c == '\x7d' || c == '#' then
        back (some c)
        return read
      else if c.isDigit then
        if read.number?.isSome then bad "multiple number options to \x60s' command"
        let count ← number (some c)
        if count = 0 then bad "number option to \x60s' command may not be zero"
        flags fuel { read with number? := some count }
      else bad "unknown option to \x60s'"

/-- Reads a substitution. -/
def substitution : Reading Verb := do
  let unterminated {α : Type} : Reading α := bad "unterminated \x60s' command"
  match ← next with
  | none => unterminated
  | some mark =>
    match ← upTo mark true with
    | none => unterminated
    | some text =>
      match ← upTo mark false with
      | none => unterminated
      | some replaced =>
        let read ← flags ((← get).rest.length + 2) {}
        let wanted ← pattern text read.folds read.hasLines
        let parts := pieces (replaced.length + 1) replaced
        let groups := (wanted.expression?.map Regular.groupCount).getD 9
        for part in parts do
          if let .group index := part then
            if groups < index then
              bad s!"invalid reference \\{index} on \x60s' command's RHS"
        return .substitute
          { pattern := wanted
            pieces := parts
            isGlobal := read.isGlobal
            number := read.number?.getD 1
            prints := read.prints
            printsBefore := read.printsBefore
            runs := read.runs
            file? := read.file? }

/-- The characters of a list for a translation. -/
def listed : Nat → Octets → Octets
  | 0, text => text
  | fuel + 1, text =>
    match text with
    | '\\' :: c :: rest =>
      match if c == '\n' then none else escape? (c :: rest) with
      | some (char, after) => char :: listed fuel after
      | none => c :: listed fuel rest
    | c :: rest => c :: listed fuel rest
    | [] => []

/-- Reads a translation. -/
def translation : Reading Verb := do
  let unterminated {α : Type} : Reading α := bad "unterminated \x60y' command"
  match ← next with
  | none => unterminated
  | some mark =>
    match ← upTo mark false with
    | none => unterminated
    | some left =>
      match ← upTo mark false with
      | none => unterminated
      | some right =>
        let left := listed (left.length + 1) left
        let right := listed (right.length + 1) right
        if left.length ≠ right.length then
          bad "strings for \x60y' command are different lengths"
        finish
        return .translate (left.zip right).reverse

/-- Reads what a command does, by its letter. -/
def verb (hasAddress hasSecond : Bool) (letter? : Option Char) : Reading Verb := do
  let plain (verb : Verb) : Reading Verb := do
    finish
    return verb
  let counted : Reading (Option Nat) := do
    let first ← nextFilled
    let count ← if first.any Char.isDigit then some <$> number first
      else do
        back first
        pure none
    finish
    return count
  if letter?.any (· ∈ ['e', 'r', 'R', 'w', 'W']) then beFree
  match letter? with
  | none => bad "missing command"
  | some '#' =>
    if hasAddress then bad "comments don't accept any addresses"
    let source ← get
    if source.isFirstPart && source.place = 1 && source.rest.head? == some 'n' then
      set { source with isQuiet := true }
    let _ ← takeAll (· != '\n')
    return .idle
  | some '\x7b' =>
    modify fun source => { source with depth := source.depth + 1 }
    return .block 0
  | some '\x7d' =>
    if (← get).depth = 0 then bad "unexpected \x60\x7d'"
    if hasAddress then bad "\x7d doesn't want any addresses"
    modify fun source => { source with depth := source.depth - 1 }
    finish
    return .mark ['\x7d']
  | some ':' =>
    if hasAddress then bad ": doesn't want any addresses"
    let name ← label
    if name.isEmpty then bad "\":\" lacks a label"
    return .mark (':' :: name)
  | some '=' => plain .showNumber
  | some 'a' => addedText .append
  | some 'i' => addedText .insert
  | some 'c' => addedText .change
  | some 'b' => return .jump .always (← label)
  | some 't' => return .jump .afterChange (← label)
  | some 'T' => return .jump .withoutChange (← label)
  | some 'd' => plain .delete
  | some 'D' => plain .deleteFirst
  | some 'e' =>
    let _ ← takeAll isBlank
    let command ← takeAll (· != '\n')
    let _ ← next
    return .execute (if command.isEmpty then none else some command)
  | some 'F' => plain .showName
  | some 'g' => plain .fetch
  | some 'G' => plain .fetchMore
  | some 'h' => plain .keep
  | some 'H' => plain .keepMore
  | some 'x' => plain .exchange
  | some 'l' => return .list (← counted)
  | some 'n' => plain .next
  | some 'N' => plain .nextMore
  | some 'p' => plain .print
  | some 'P' => plain .printFirst
  | some 'q' =>
    if hasSecond then bad "command only uses one address"
    return .quit ((← counted).getD 0) false
  | some 'Q' =>
    if hasSecond then bad "command only uses one address"
    return .quit ((← counted).getD 0) true
  | some 'r' => return .readFile (← fileName)
  | some 'R' => return .readLine (← fileName)
  | some 's' => substitution
  | some 'v' =>
    let version ← label
    if !version.isEmpty && !((octets "4.9").take version.length == version
        || version.head?.any (· < '4') || "4.".toList.isPrefixOf version) then
      bad "expected newer version of sed"
    return .idle
  | some 'w' => return .writeFile (← fileName)
  | some 'W' => return .writeFirst (← fileName)
  | some 'y' => translation
  | some 'z' => plain .clear
  | some other => bad s!"unknown command: \x60{other}'"

/-- Reads the commands of a part of a script. -/
def instructions : Nat → List Instruction → Reading (List Instruction)
  | 0, read => return read
  | fuel + 1, read => do
    let _ ← takeAll fun c => c == ';' || Integer.isBlank c
    match ← next with
    | none => return read
    | first =>
      let mut letter := first
      let mut second? : Option Address := none
      let first? ← address? first
      if let some address := first? then
        if address matches .ahead _ || address matches .multiple _ then
          bad "invalid usage of +N or ~N as first address"
        letter ← nextFilled
        if letter == some ',' then
          match ← address? (← nextFilled) with
          | none => bad "unexpected \x60,'"
          | some address =>
            second? := some address
            letter ← nextFilled
        if address matches .line 0 then
          if !(second? matches some (.pattern _)) then bad "invalid usage of line address 0"
      let isInverted := letter == some '!'
      if isInverted then
        letter ← nextFilled
        if letter == some '!' then bad "multiple \x60!'s"
      let verb ← verb first?.isSome second?.isSome letter
      instructions fuel ({ first?, last? := second?, isInverted, verb } :: read)

/-- Reads a part of a script behind others. -/
def part (read : List Instruction) : Reading (List Instruction) := do
  match (← get).pending?, read with
  | some make, last :: others => do
    modify fun source => { source with pending? := none }
    let text ← wholeText
    let more ← instructions ((← get).rest.length + 1) ({ last with verb := make text } :: others)
    return more
  | _, _ => instructions ((← get).rest.length + 1) read

end Reading

/-- The place behind the end of a block that begins before a place. -/
def blockEnd (instructions : Array Instruction) : Nat → (depth place : Nat) → Nat
  | 0, _, place => place
  | fuel + 1, depth, place =>
    match instructions[place]? with
    | none => place
    | some instruction =>
      match instruction.verb with
      | .mark name =>
        if name != ['\x7d'] then blockEnd instructions fuel depth (place + 1)
        else if depth = 0 then place + 1
        else blockEnd instructions fuel (depth - 1) (place + 1)
      | .block _ => blockEnd instructions fuel (depth + 1) (place + 1)
      | _ => blockEnd instructions fuel depth (place + 1)

/-- The commands of a script, whose blocks know where they end. -/
def linked (read : List Instruction) : Array Instruction :=
  let instructions := read.reverse.toArray
  instructions.mapIdx fun place instruction =>
    match instruction.verb with
    | .block _ =>
      { instruction with verb := .block (blockEnd instructions instructions.size 0 (place + 1)) }
    | _ => instruction

/-- The place of a label. -/
def labelPlace? (instructions : Array Instruction) (label : Octets) : Option Nat :=
  instructions.findIdx? fun instruction => match instruction.verb with
    | .mark name => name == ':' :: label
    | _ => false

end PromptScript.Shell.Edit
