import PromptScript.Shell.Format
import PromptScript.Shell.Tool.Basic

/-!
# Tools that report on texts

Counts of a text, and where two texts begin to differ.
-/

namespace PromptScript.Shell.Tool

/-!
## Counts

The tool that counts the lines, words and characters of texts.
-/

namespace Count

/-- The counts of a text. -/
structure Counts where
  lines : Nat := 0
  words : Nat := 0
  chars : Nat := 0
  /-- The greatest width of a line. -/
  width : Nat := 0

/-- How far the counting of words and widths came. -/
structure Progress where
  words : Nat := 0
  isInWord : Bool := false
  column : Nat := 0
  width : Nat := 0

/-- Counts one character. -/
def step (progress : Progress) (c : Char) : Progress :=
  let width := max progress.width progress.column
  let ended : Progress :=
    { progress with
      words := if progress.isInWord then progress.words + 1 else progress.words
      isInWord := false }
  if c == '\n' || c == '\r' || c == '\x0c' then { ended with width, column := 0 }
  else if c == '\t' then { ended with column := progress.column / 8 * 8 + 8 }
  else if c == '\x0b' then ended
  else if c == ' ' then { ended with column := progress.column + 1 }
  else if Quotation.isPrintable c then
    { progress with isInWord := true, column := progress.column + 1 }
  else progress

/-- The counts of a text. -/
def ofText (text : Octets) : Counts :=
  let counted := step (text.foldl step {}) '\r'
  { lines := text.count '\n'
    words := counted.words
    chars := text.length
    width := counted.width }

/-- The counts of two texts together. -/
def add (a b : Counts) : Counts :=
  { lines := a.lines + b.lines
    words := a.words + b.words
    chars := a.chars + b.chars
    width := max a.width b.width }

/-- A line with the wanted counts. -/
def line (given : Char → Bool) (width : Nat) (counts : Counts) (path : Option Octets) : Octets :=
  let shown := [('l', counts.lines), ('w', counts.words), ('m', counts.chars), ('c', counts.chars),
    ('L', counts.width)].filter fun entry => given entry.1
  [' '].intercalate (shown.map fun entry => Lines.padLeft width (decimal entry.2))
    ++ (match path with
      | some path => ' ' :: path
      | none => []) ++ ['\n']

/-- The size of what stands behind an operand where that is a file, and whether it is something
else. -/
def sizeOf (operand : Octets) : Action (Nat × Bool) := do
  let shell ← get
  if operand == ['-'] then
    match shell.handles.lookup 0 with
    | some (.channel index) =>
      let channel := shell.channel index
      if channel.isSeekable then return (channel.unread.length, false) else return (0, true)
    | _ => return (0, true)
  else
    match shell.tree.lookup (display operand) with
    | .ok (.file file) => return (file.content.length, false)
    | .ok .directory => return (0, true)
    | .error _ => return (0, (display operand).startsWith "/dev/")

end Count

open Count

/-- Prints counts of texts. -/
def wc : Tool := fun _ words => do
  let (options, operands) ← optionsOf
    { letters := plainLetters "clLmw"
      names := [("bytes", 'c'), ("chars", 'm'), ("lines", 'l'), ("words", 'w'),
        ("max-line-length", 'L')] } words
  let letters := (options.map (·.1)).eraseDups
  let letters := if letters.isEmpty then ['l', 'w', 'c'] else letters
  let inputs := if operands.isEmpty then [['-']] else operands
  let mut width := 1
  if 1 < inputs.length || 1 < letters.length then
    let mut total := 0
    let mut least := 1
    for operand in inputs do
      let (size, isOther) ← sizeOf operand
      total := total + size
      if isOther then least := 7
    width := max least (decimal total).length
  let mut failed := false
  let mut sum : Counts := {}
  for operand in inputs do
    let shown := if operands.isEmpty then none else some operand
    match ← readFile operand with
    | .ok text =>
      let counts := Count.ofText text
      sum := Count.add sum counts
      Action.print (line letters.contains width counts shown)
    | .error cause =>
      complainFile operand cause
      failed := true
      if cause == .isDirectory then Action.print (line letters.contains width {} shown)
  if 1 < inputs.length then Action.print (line letters.contains width sum (some (octets "total")))
  return if failed then 1 else 0

end PromptScript.Shell.Tool

namespace PromptScript.Shell.Tool

/-!
## Comparisons

The tool that tells where two files begin to differ.
-/

namespace Comparison

/-- A place at which two texts have different characters. -/
structure Difference where
  /-- The number of the character, from one on. -/
  place : Nat
  line : Nat
  first : Char
  second : Char

/-- The differences of two texts as far as the shorter one goes; then the number of the characters
and of the line feeds that were compared. -/
def differences : Nat → Nat → Octets → Octets → List Difference × Nat × Nat
  | place, line, a :: first, b :: second =>
    let (found, ending) := differences (place + 1) (if a == '\n' then line + 1 else line) first second
    (if a == b then found else ⟨place + 1, line + 1, a, b⟩ :: found, ending)
  | place, line, _, _ => ([], place, line)

/-- A character as it can be seen. -/
def visible (c : Char) : Octets :=
  let low := c.toNat % 128
  let mark := if 128 ≤ c.toNat then octets "M-" else []
  mark ++ if low < 32 then ['^', Char.ofNat (low + 64)]
    else if low = 127 then ['^', '?']
    else [Char.ofNat low]

/-- The octal number of a character. -/
def octal (c : Char) : Octets :=
  Lines.padLeft 3 (Nat.toDigits 8 c.toNat)

end Comparison

open Comparison

/-- Compares two files. -/
def cmp : Tool := fun _ words => do
  let explain (message : Octets) : Action Nat := do
    complain message
    namedHelp
    return 2
  let (options, operands) ← optionsOf
    { letters := plainLetters "bls" ++ valuedLetters "n"
      names := [("print-bytes", 'b'), ("verbose", 'l'), ("quiet", 's'), ("silent", 's'),
        ("bytes", 'n')]
      status := 2
      namesHint := true } words
  match operands with
  | [] => explain (octets "missing operand after 'cmp'")
  | path :: others =>
    let other := others.headD ['-']
    let limit (text : Octets) : Octets :=
      match (value? options 'n').bind sizeOf? with
      | some count => text.take count
      | none => text
    if path == other then return 0
    match ← readFile path, ← readFile other with
    | .error cause, _ =>
      if !has options 's' || cause == .isDirectory then
        complain (path ++ octets (": " ++ reasonOf cause))
      return 2
    | .ok _, .error cause =>
      if !has options 's' || cause == .isDirectory then
        complain (other ++ octets (": " ++ reasonOf cause))
      return 2
    | .ok first, .ok second =>
      let first := limit first
      let second := limit second
      let (found, place, line) := differences 0 0 first second
      if has options 's' then return if found.isEmpty && first.length = second.length then 0 else 1
      let seen (c : Char) : Octets := octal c ++ if has options 'b' then ' ' :: visible c else []
      if has options 'l' then
        let width := (decimal (max first.length second.length)).length
        for difference in found do
          Action.print (Lines.padLeft width (decimal difference.place)
            ++ ' ' :: (if has options 'b' then Lines.padRight 9 (seen difference.first)
              else octal difference.first ++ [' ']) ++ seen difference.second ++ ['\n'])
      else if let difference :: _ := found then
        Action.print (path ++ ' ' :: other ++ octets " differ: "
          ++ octets (if has options 'b' then "byte " else "char ") ++ decimal difference.place
          ++ octets ", line " ++ decimal difference.line
          ++ (if has options 'b' then
            octets " is " ++ seen difference.first ++ ' ' :: seen difference.second else [])
          ++ ['\n'])
        return 1
      if first.length = second.length then return if found.isEmpty then 0 else 1
      let (name, shorter) := if first.length < second.length then (path, first)
        else (other, second)
      let isWhole := shorter.getLast? == some '\n'
      complain (octets "EOF on " ++ name
        ++ if shorter.isEmpty then octets " which is empty"
          else octets " after byte " ++ decimal place
            ++ if has options 'l' then []
              else if isWhole then octets ", line " ++ decimal line
              else octets ", in line " ++ decimal (line + 1))
      return 1

end PromptScript.Shell.Tool
