import PromptScript.Shell.Tool.Basic

/-!
# Tools that give texts out again

Texts as they are or with their lines in another form, and the ends of texts.
-/

namespace PromptScript.Shell.Tool

/-!
## Tools that pass texts on

Tools that give their text out again: as it is, with its lines numbered or in another order, or
with the characters made visible that cannot be seen.
-/

namespace Copying

/-- How a text is shown. -/
structure View where
  numbersAll : Bool
  numbersFilled : Bool
  squeezes : Bool
  showsEnds : Bool
  showsTabs : Bool
  showsHidden : Bool

/-- A character that cannot be seen, in a visible form. -/
def visible (c : Char) : Octets :=
  let low (code : Nat) : Octets :=
    if code < 32 then ['^', Char.ofNat (code + 64)]
    else if code = 127 then ['^', '?']
    else [Char.ofNat code]
  if c.toNat < 128 then low c.toNat else 'M' :: '-' :: low (c.toNat - 128)

/-- The characters of a line, as they are shown. -/
def lineBody (view : View) (line : Octets) : Octets :=
  line.flatMap fun c =>
    if c == '\t' then if view.showsTabs then ['^', 'I'] else [c]
    else if view.showsHidden then visible c
    else [c]

/-- A line before its line feed, as it is shown. -/
def endedBody (view : View) (line : Octets) : Octets :=
  if !view.showsEnds then lineBody view line
  else if !view.showsHidden && line.getLast? == some '\r' then
    lineBody view line.dropLast ++ ['^', 'M', '$']
  else lineBody view line ++ ['$']

/-- The text of some lines as they are shown; only the last one may lack its line feed. -/
def render (view : View) (isOpen : Bool) : Nat → (wasBlank : Bool) → List Octets → Octets
  | _, _, [] => []
  | number, wasBlank, line :: rest =>
    let isLast := isOpen && rest.isEmpty
    let isBlank := line.isEmpty
    if view.squeezes && wasBlank && isBlank then render view isOpen number true rest
    else
      let counts := if view.numbersFilled then !isBlank else view.numbersAll
      let lead := if counts then Lines.padLeft 6 (decimal number) ++ ['\t'] else []
      lead ++ (if isLast then lineBody view line else endedBody view line ++ ['\n'])
        ++ render view isOpen (if counts then number + 1 else number) isBlank rest

/-- A text turned around: its lines from the last to the first, each with what ends it. -/
def reversed (text : Octets) : Octets :=
  match (Lines.ofText text).reverse with
  | [] => []
  | last :: others => (if Lines.isOpen text then last else last ++ ['\n']) ++ Lines.toText others

end Copying

open Copying

/-- Prints files one behind the other. -/
def cat : Tool := fun _ words => do
  let accepted : Accepted :=
    { letters := plainLetters "AbeEnstTuv"
      names := [("number-nonblank", 'b'), ("number", 'n'), ("squeeze-blank", 's'),
        ("show-nonprinting", 'v'), ("show-ends", 'E'), ("show-tabs", 'T'), ("show-all", 'A')] }
  let (options, operands) ← optionsOf accepted words
  let given := has options
  let view : View :=
    { numbersAll := given 'n'
      numbersFilled := given 'b'
      squeezes := given 's'
      showsEnds := given 'A' || given 'e' || given 'E'
      showsTabs := given 'A' || given 't' || given 'T'
      showsHidden := given 'A' || given 'e' || given 't' || given 'v' }
  let change (text : Octets) : Octets :=
    if options.isEmpty then text
    else render view (Lines.isOpen text) 1 false (Lines.ofText text)
  filterText change operands

/-- Prints the lines of each file from the last to the first. -/
def tac : Tool := fun _ words => do
  let (_, operands) ← optionsOf {} words
  let (texts, failed) ← readEach operands fun path cause => do
    let verb := if cause == .isDirectory then "" else "failed to open "
    if cause == .isDirectory then
      complain (Quotation.asNeeded path ++ octets ": read error: Is a directory")
    else
      complain (octets verb ++ Quotation.forShell path ++ octets (" for reading: " ++ reasonOf cause))
  Action.print (texts.flatMap fun (_, text) => reversed text)
  return if failed then 1 else 0

/-- Prints lines with their characters from the last to the first. -/
def rev : Tool := fun _ words => do
  let (_, operands) ← optionsOf {} words
  let (texts, failed) ← readEach operands fun path cause =>
    complain (octets "cannot open " ++ path ++ octets (": " ++ reasonOf cause))
  Action.print (texts.flatMap fun (_, text) =>
    Lines.toTextLike text ((Lines.ofText text).map List.reverse))
  return if failed then 1 else 0

/-- Passes its text on and writes it to files as well. -/
def tee : Tool := fun _ words => do
  let (options, operands) ← optionsOf
    { letters := plainLetters "aip"
      names := [("append", 'a'), ("ignore-interrupts", 'i'), ("output-error", 'p')]
      optional := ['p'] } words
  let text ← Action.readAll
  Action.print text
  let mut failed := false
  for path in operands do
    if path == ['-'] then Action.print text
    else if let .error cause ← writeFile path (has options 'a') text then
      complainFile path cause
      failed := true
  return if failed then 1 else 0

/-- Prints a line again and again. -/
def yes : Tool := fun _ words => do
  let words := if words.head? == some ['-', '-'] then words.drop 1 else words
  let line := (if words.isEmpty then ['y'] else [' '].intercalate words) ++ ['\n']
  let count := Action.endlessLength / line.length + 1
  Action.print (List.replicate count line).flatten
  modify fun shell => { shell with isStuck := true }
  return 0

end PromptScript.Shell.Tool

namespace PromptScript.Shell.Tool

/-!
## The beginnings and ends of texts

Tools that print the first or the last lines or characters of their texts.  A beginning is read in
blocks: from a pipe, what stands in the last block behind the beginning is lost for other readers.
-/

namespace Ends

/-- Which end of a text is wanted. -/
structure Extent where
  count : Nat
  /-- Whether the count is one of characters, not of lines. -/
  ofChars : Bool := false
  /-- Whether the count tells what is left out at the other end, or where printing begins. -/
  fromOther : Bool := false
  /-- The character that ends a line. -/
  mark : Char := '\n'

/-- Cuts a text behind the given number of marks. -/
def cutLines (mark : Char) (count : Nat) (text : Octets) : Octets × Octets :=
  go count text []
where
  go : Nat → Octets → Octets → Octets × Octets
    | 0, rest, taken => (taken.reverse, rest)
    | _, [], taken => (taken.reverse, [])
    | count + 1, c :: rest, taken =>
      go (if c = mark then count else count + 1) rest (c :: taken)

/-- The number of lines of a text; the last one counts without its mark as well. -/
def lineCount (mark : Char) (text : Octets) : Nat :=
  (Lines.endedBy mark text).length

/-- The beginning of a text. -/
def first (extent : Extent) (text : Octets) : Octets :=
  if extent.ofChars then
    text.take (if extent.fromOther then text.length - extent.count else extent.count)
  else
    let count := if extent.fromOther then lineCount extent.mark text - extent.count
      else extent.count
    (cutLines extent.mark count text).1

/-- The end of a text. -/
def last (extent : Extent) (text : Octets) : Octets :=
  if extent.ofChars then
    text.drop (if extent.fromOther then extent.count - 1 else text.length - extent.count)
  else
    let skipped := if extent.fromOther then extent.count - 1
      else lineCount extent.mark text - extent.count
    (cutLines extent.mark skipped text).2

/-- The number of characters that are read at once. -/
def blockSize : Nat := 8192

/-- Reads the beginning of the standard input, and no more of it than must be. -/
def readFirst (extent : Extent) : Action Octets := do
  if extent.fromOther then return first extent (← Action.readAll)
  if extent.count = 0 then return []
  let shell ← get
  let isSeekable := match shell.handles.lookup 0 with
    | some (.channel index) => (shell.channel index).isSeekable
    | _ => false
  let taken ← Action.takeSome 0 fun text =>
    if extent.ofChars then text.splitAt extent.count
    else
      let (wanted, rest) := cutLines extent.mark extent.count text
      if isSeekable then (wanted, rest)
      else text.splitAt ((wanted.length + blockSize - 1) / blockSize * blockSize)
  return first extent taken

/-- The line that names a text among several. -/
def title (isFirst : Bool) (path : Octets) : Octets :=
  (if isFirst then [] else ['\n']) ++ octets "==> "
    ++ (if path == ['-'] then octets "standard input" else path) ++ octets " <==\n"

/-- Prints an end of each text, with titles where that is wanted.  A text that would not end is read
only as far as it is printed where `stopsEarly` holds. -/
def printEach (operands : List Octets) (titled stopsEarly : Bool) (piece : Octets → Octets)
    (fromInput : Action Octets) : Action Nat := do
  let operands := if operands.isEmpty then [['-']] else operands
  let mut failed := false
  let mut isFirst := true
  for path in operands do
    let found : Except FileError Octets ←
      if path == ['-'] then do
        if titled then Action.print (title isFirst path)
        pure (Except.ok (← fromInput))
      else do
        let wasStuck := (← get).isStuck
        let found ← if stopsEarly && isEndless path then
            let _ ← readFile path
            pure (Except.ok (Action.zerosFor fun text => (piece text).length == text.length))
          else readFile path
        if let .ok text := found then
          if stopsEarly && (piece text).length < text.length then
            modify fun shell => { shell with isStuck := wasStuck }
        if titled && (found matches .ok _ || found matches .error .isDirectory) then
          Action.print (title isFirst path)
        pure (found.map piece)
    match found with
    | .ok text =>
      Action.print text
      isFirst := false
    | .error .isDirectory =>
      complain (octets "error reading " ++ Quotation.forShell path ++ octets ": Is a directory")
      isFirst := false
      failed := true
    | .error cause =>
      complain (octets "cannot open " ++ Quotation.forShell path
        ++ octets (" for reading: " ++ reasonOf cause))
      failed := true
  return if failed then 1 else 0

/-- The count of an option. -/
def countOf (ofChars : Bool) (text shown : Octets) : Action Nat := do
  match sizeOf? text with
  | some count => return count
  | none =>
    stop 1 (octets ("invalid number of " ++ (if ofChars then "bytes" else "lines") ++ ": ")
      ++ quoted shown)

/-- Options in the old notation, a count behind a dash, as they are written today. -/
def modernWords (words : List Octets) : List Octets :=
  match words with
  | ('-' :: rest) :: others =>
    let digits := rest.takeWhile Char.isDigit
    let letters := rest.drop digits.length
    if digits.isEmpty || !letters.all (· ∈ ['b', 'c', 'k', 'l', 'm', 'q', 'v', 'z', 'f']) then words
    else
      let unit : Octets := (letters.filter (· ∈ ['b', 'k', 'm'])).take 1
      let measure : Octets :=
        if letters.any (· ∈ ['b', 'c', 'k', 'm']) then ['-', 'c'] else ['-', 'n']
      let flags := (letters.filter (· ∈ ['q', 'v', 'z', 'f'])).map fun letter => ['-', letter]
      (measure ++ digits ++ unit.map fun c => if c = 'm' then 'M' else c) :: flags ++ others
  | _ => words

/-- The options of both tools. -/
def accepted : Accepted :=
  { letters := valuedLetters "nc" ++ plainLetters "qvz"
    names := [("lines", 'n'), ("bytes", 'c'), ("quiet", 'q'), ("silent", 'q'), ("verbose", 'v'),
      ("zero-terminated", 'z')] }

/-- Whether titles are printed. -/
def isTitled (options : List Given) (operands : List Octets) : Bool :=
  match (options.filter fun option => option.1 == 'q' || option.1 == 'v').getLast? with
  | some ('v', _) => true
  | some _ => false
  | none => 1 < operands.length

end Ends

open Ends

/-- Prints the beginnings of texts. -/
def head : Tool := fun _ words => do
  let (options, operands) ← optionsOf accepted (modernWords words)
  let mut extent : Extent := { count := 10 }
  for (letter, value) in options do
    if letter == 'n' || letter == 'c' then
      let fromOther := value.head? == some '-'
      let digits := if fromOther then value.drop 1 else value
      extent :=
        { count := ← countOf (letter == 'c') digits digits
          ofChars := letter == 'c'
          fromOther }
  extent := { extent with mark := if has options 'z' then '\x00' else '\n' }
  let chosen := extent
  printEach operands (isTitled options operands) true (first chosen)
    (readFirst chosen)

/-- Prints the ends of texts. -/
def tail : Tool := fun _ words => do
  let words := match words with
    | ('+' :: rest) :: others =>
      if !rest.isEmpty && rest.all Char.isDigit && others.length ≤ 1 then
        ('-' :: 'n' :: '+' :: rest) :: others
      else words
    | _ => modernWords words
  let (options, operands) ← optionsOf
    { accepted with
      letters := accepted.letters ++ plainLetters "fF" ++ valuedLetters "s"
      names := accepted.names ++ [("follow", 'f'), ("sleep-interval", 's')]
      optional := ['f'] } words
  let mut extent : Extent := { count := 10 }
  for (letter, value) in options do
    if letter == 'n' || letter == 'c' then
      let fromOther := value.head? == some '+'
      let digits := if fromOther || value.head? == some '-' then value.drop 1 else value
      extent :=
        { count := ← countOf (letter == 'c') digits value
          ofChars := letter == 'c'
          fromOther }
  extent := { extent with mark := if has options 'z' then '\x00' else '\n' }
  let chosen := extent
  let status ← printEach operands (isTitled options operands) false (last chosen)
    (do return last chosen (← Action.readAll))
  if (has options 'f' || has options 'F') && !operands.isEmpty then
    modify fun shell => { shell with isStuck := true }
  return status

end PromptScript.Shell.Tool
