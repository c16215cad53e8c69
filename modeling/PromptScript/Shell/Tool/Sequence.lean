import PromptScript.Pattern.Regular.Reader
import PromptScript.Shell.Tool.Basic

/-!
# Sequences of numbers

Tools that count: one prints numbers at equal distances, the other puts numbers before lines.
-/

namespace PromptScript.Shell.Tool

namespace Sequence

/-- A decimal number: digits and the number of them behind the point. -/
structure Numeral where
  digits : Int
  places : Nat
  /-- The length of the text that wrote it. -/
  width : Nat
  /-- Whether it is greater than all numbers. -/
  isInfinite : Bool := false

/-- The number that a text writes. -/
def readNumeral? (text : Octets) : Option Numeral :=
  let bare := text.dropWhile Integer.isBlank
  let (isNegative, body) := match bare with
    | '-' :: rest => (true, rest)
    | '+' :: rest => (false, rest)
    | _ => (false, bare)
  let signed (size : Nat) : Int := if isNegative then -(size : Int) else size
  let width := if bare.head? == some '+' then bare.length - 1 else bare.length
  if ["inf", "infinity"].contains (String.ofList (body.map Char.toLower)) then
    some { digits := signed 1, places := 0, width, isInfinite := true }
  else
    let (whole, fraction, rest) := Real.digits 10 body
    if whole.isEmpty && fraction.isEmpty then none
    else
      let (power, rest) := Real.exponent? ['e', 'E'] rest
      if !rest.isEmpty || 400 < power || power < -400 then none
      else
        let places : Int := fraction.length - power
        let digits := Integer.ofDigits 10 (whole ++ fraction) * Nat.pow 10 (-places).toNat
        let width := if whole.isEmpty then width + 1 else width
        let width := if fraction.isEmpty && body[whole.length]? == some '.' then width - 1 else width
        some { digits := signed digits, places := places.toNat, width }

/-- The digits of a number at a greater number of places. -/
def Numeral.scaled (numeral : Numeral) (places : Nat) : Int :=
  numeral.digits * Nat.pow 10 (places - numeral.places)

/-- The greatest count of numbers that are printed. -/
def maxCount : Nat := 1000000

/-- The text of a number with digits behind the point, filled with zeros up to a width. -/
def shown (places width : Nat) (digits : Int) : Octets :=
  let body := Directive.pointed false ((Directive.padded (places + 1) digits.natAbs).length - places)
    (Directive.padded (places + 1) digits.natAbs)
  ({ flags := ['0'], width, letter := 'f' } : Directive).fill true
    (if digits < 0 then ['-'] else []) body

/-- A format with one directive: what stands before it, the directive, and what stands behind. -/
def readFormat (format : Octets) : Except Octets (Octets × Directive × Octets) :=
  go (format.length + 1) format []
where
  /-- A text in which two percent signs stand for one. -/
  plain : Octets → Except Octets Octets
    | '%' :: '%' :: rest => do return '%' :: (← plain rest)
    | '%' :: _ => .error (octets " has too many % directives")
    | c :: rest => do return c :: (← plain rest)
    | [] => .ok []
  go : Nat → Octets → Octets → Except Octets (Octets × Directive × Octets)
    | 0, _, _ => .error []
    | _, [], _ => .error (octets " has no % directive")
    | fuel + 1, '%' :: '%' :: rest, before => go fuel rest ('%' :: before)
    | _, '%' :: rest, before => do
      let (text, behind) := readDirective rest
      match behind with
      | [] => throw (octets " ends in %")
      | letter :: behind =>
        if letter ∉ ['a', 'A', 'e', 'E', 'f', 'F', 'g', 'G'] then
          throw (octets " has unknown %" ++ letter :: octets " directive")
        return (before.reverse, text.complete 0 0 letter, ← plain behind)
    | fuel + 1, c :: rest, before => go fuel rest (c :: before)

/-- The real number with some digits behind its point. -/
def toReal (places : Nat) (digits : Int) : Float :=
  let size := Real.ofDecimal digits.natAbs (-places)
  if digits < 0 then -size else size

/-- Separates options from numbers, which may begin with a sign. -/
def splitWords (words : List Octets) : List Octets × List Octets :=
  match words with
  | [] => ([], [])
  | ['-', '-'] :: rest => ([], rest)
  | ('-' :: c :: more) :: rest =>
    if c == '.' || c.isDigit then ([], words)
    else if more.isEmpty && (c == 's' || c == 'f') then
      match rest with
      | value :: rest =>
        let (options, numbers) := splitWords rest
        (['-', c] :: value :: options, numbers)
      | [] => ([['-', c]], [])
    else
      let (options, numbers) := splitWords rest
      (('-' :: c :: more) :: options, numbers)
  | _ => ([], words)

end Sequence

open Sequence

/-- Prints numbers at equal distances. -/
def seq : Tool := fun _ words => do
  let (leading, numbers) := splitWords words
  let (options, _) ← optionsOf
    { letters := valuedLetters "sf" ++ plainLetters "w"
      names := [("separator", 's'), ("format", 'f'), ("equal-width", 'w')] } leading
  let read (text : Octets) : Action Numeral := do
    match readNumeral? text with
    | some numeral => return numeral
    | none =>
      if (Real.leading? text).any fun found => found.1.isNaN && found.2.isEmpty then
        misuse 1 (octets "invalid 'not-a-number' argument: " ++ quoted text)
      misuse 1 (octets "invalid floating point argument: " ++ quoted text)
  let one : Numeral := { digits := 1, places := 0, width := 1 }
  if numbers.isEmpty then misuse 1 (octets "missing operand")
  if 3 < numbers.length then
    misuse 1 (octets "extra operand " ++ quoted ((numbers[3]?).getD []))
  let read ← numbers.mapM read
  let (first, step, last) := match read with
    | [last] => (one, one, last)
    | [first, last] => (first, one, last)
    | first :: step :: last :: _ => (first, step, last)
    | [] => (one, one, one)
  if step.digits = 0 then
    misuse 1 (octets "invalid Zero increment value: " ++ quoted ((numbers[1]?).getD []))
  let format? ← match value? options 'f' with
    | none => pure none
    | some format =>
      match readFormat format with
      | .ok found => pure (some found)
      | .error cause => stop 1 (octets "format " ++ quoted format ++ cause)
  if has options 'w' && format?.isSome then
    misuse 1 (octets "format string may not be specified when printing equal width strings")
  let places := max first.places step.places
  let common := max places last.places
  let start := first.scaled common
  let distance := step.scaled common
  let finish := last.scaled common
  let count : Nat :=
    if last.isInfinite then if (0 < distance) == (0 < last.digits) then maxCount + 1 else 0
    else if 0 < distance then if finish < start then 0 else ((finish - start) / distance).toNat + 1
    else if start < finish then 0 else ((start - finish) / (-distance)).toNat + 1
  let widthOf (numeral : Numeral) : Nat :=
    if numeral.places = 0 && places ≠ 0 then numeral.width + 1 + places
    else if numeral.places ≠ 0 && places = 0 then numeral.width - numeral.places - 1
    else numeral.width + places - numeral.places
  let width := if has options 'w' then max (widthOf first) (widthOf last) else 0
  let text (index : Nat) : Octets :=
    let value := start + distance * index
    match format? with
    | some (before, directive, behind) => before ++ directive.real (toReal common value) ++ behind
    | none => shown places width (value / Nat.pow 10 (common - places))
  let separator := (value? options 's').getD ['\n']
  let texts := (List.range (min count maxCount)).map text
  if !texts.isEmpty then Action.print (separator.intercalate texts ++ ['\n'])
  if maxCount < count then modify fun shell => { shell with isStuck := true }
  return 0

namespace Sequence

/-- How lines are numbered. -/
structure Numbering where
  first : Int := 1
  step : Int := 1
  width : Nat := 6
  separator : Octets := ['\t']
  isLeft : Bool := false
  hasZeros : Bool := false
  /-- The number of empty lines of which only the last one counts. -/
  blanks : Nat := 1
  keepsCount : Bool := false
  sectionMark : Octets := ['\\', ':']

/-- Which lines of a section get numbers. -/
inductive Style where
  | all
  | filled
  | none
  | matching (expression : Pattern.Regular)

/-- The styles of the three sections of a page. -/
structure Styles where
  header : Style := .none
  body : Style := .filled
  footer : Style := .none

/-- How far the numbering came. -/
structure Progress where
  number : Int
  style : Style
  blanks : Nat := 0
  output : List Octets := []

/-- Numbers one line. -/
def numberLine (numbering : Numbering) (styles : Styles) (progress : Progress) (line : Octets) :
    Progress :=
  let mark := numbering.sectionMark
  let enter (style : Style) (starts : Bool) : Progress :=
    { progress with
      style
      number := if starts && !numbering.keepsCount then numbering.first else progress.number
      output := ['\n'] :: progress.output }
  if mark.length ≠ 0 && line == mark ++ mark ++ mark then enter styles.header true
  else if mark.length ≠ 0 && line == mark ++ mark then enter styles.body true
  else if mark.length ≠ 0 && line == mark then enter styles.footer true
  else
    let blanks := if line.isEmpty then progress.blanks + 1 else 0
    let counts := match progress.style with
      | .all => !line.isEmpty || numbering.blanks ≤ blanks
      | .filled => !line.isEmpty
      | .none => false
      | .matching expression => expression.occursIn line
    if counts then
      let digits := Integer.text progress.number
      let shown := if numbering.isLeft then Lines.padRight numbering.width digits
        else if numbering.hasZeros then
          ({ flags := ['0'], width := numbering.width, letter := 'd' } : Directive).signed
            progress.number
        else Lines.padLeft numbering.width digits
      { progress with
        number := progress.number + numbering.step
        blanks := 0
        output := (shown ++ numbering.separator ++ line ++ ['\n']) :: progress.output }
    else
      let gap := List.replicate (numbering.width + numbering.separator.length) ' '
      { progress with blanks, output := (gap ++ line ++ ['\n']) :: progress.output }

/-- Reads a style. -/
def readStyle (what : String) (text : Octets) : Action Style := do
  match text with
  | 'a' :: _ => return .all
  | 't' :: _ => return .filled
  | 'n' :: _ => return .none
  | 'p' :: pattern =>
    match Pattern.Regular.read .basic pattern with
    | .ok expression => return .matching expression
    | .error fault => stop 1 (octets fault.message)
  | _ => misuse 1 (octets ("invalid " ++ what ++ " numbering style: ") ++ quoted text)

end Sequence

/-- Prints lines behind their numbers. -/
def nl : Tool := fun _ words => do
  let (options, operands) ← optionsOf
    { letters := valuedLetters "bhfvilnswd" ++ plainLetters "p"
      names := [("body-numbering", 'b'), ("header-numbering", 'h'), ("footer-numbering", 'f'),
        ("starting-line-number", 'v'), ("line-increment", 'i'), ("join-blank-lines", 'l'),
        ("number-format", 'n'), ("number-separator", 's'), ("number-width", 'w'),
        ("section-delimiter", 'd'), ("no-renumber", 'p')] } words
  let number (letter : Char) (what : String) (value : Int) : Action Int := do
    match value? options letter with
    | none => return value
    | some text =>
      match Integer.whole? false text with
      | some number => return number
      | none => stop 1 (octets ("invalid " ++ what ++ ": ") ++ quoted text)
  let style (letter : Char) (what : String) (usual : Style) : Action Style :=
    match value? options letter with
    | none => return usual
    | some text => readStyle what text
  let styles : Styles :=
    { header := ← style 'h' "header" .none
      body := ← style 'b' "body" .filled
      footer := ← style 'f' "footer" .none }
  let form := (value? options 'n').getD ['r', 'n']
  if !(["ln", "rn", "rz"].contains (String.ofList form)) then
    misuse 1 (octets "invalid line numbering format: " ++ quoted form)
  let numbering : Numbering :=
    { first := ← number 'v' "starting line number" 1
      step := ← number 'i' "line number increment" 1
      width := (← number 'w' "line number field width" 6).toNat
      separator := (value? options 's').getD ['\t']
      isLeft := form == ['l', 'n']
      hasZeros := form == ['r', 'z']
      blanks := (← number 'l' "line number of blank lines" 1).toNat
      keepsCount := has options 'p'
      sectionMark := match value? options 'd' with
        | none => ['\\', ':']
        | some [c] => [c, ':']
        | some mark => mark }
  let (texts, failed) ← readInputs operands
  let lines := texts.flatMap fun (_, text) => Lines.ofText text
  let progress := lines.foldl (numberLine numbering styles)
    { number := numbering.first, style := styles.body }
  Action.print progress.output.reverse.flatten
  return if failed then 1 else 0

end PromptScript.Shell.Tool
