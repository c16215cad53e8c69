import PromptScript.Shell.Format
import PromptScript.Shell.State

/-!
# Formatted output of scripts

The escapes of printed texts and the formats that put arguments into them.
-/

namespace PromptScript.Shell.Printf

/-- A text, and whether printing ends with it. -/
structure Printed where
  text : Octets
  stops : Bool

/-- The octal digits at the beginning of a text, at most `count` of them. -/
def octalDigits (count : Nat) (text : Octets) : Octets :=
  (text.take count).takeWhile fun c => '0' ≤ c && c ≤ '7'

/-- The character with the code that octal digits write, modulo 256. -/
def octalChar (digits : Octets) : Char :=
  Char.ofNat (Integer.ofDigits 8 digits % 256)

/-- The character that a letter behind a backslash stands for. -/
def escapeOf? : Char → Option Char
  | 'a' => some '\x07'
  | 'b' => some '\x08'
  | 'f' => some '\x0c'
  | 'n' => some '\n'
  | 'r' => some '\r'
  | 't' => some '\t'
  | 'v' => some '\x0b'
  | '\\' => some '\\'
  | _ => none

/-- The character of an escape in a format, and what follows it. -/
def escape (text : Octets) : Char × Octets :=
  match text with
  | [] => ('\\', [])
  | c :: rest =>
    let digits := octalDigits 3 text
    if !digits.isEmpty then (octalChar digits, text.drop digits.length)
    else
      match escapeOf? c with
      | some char => (char, rest)
      | none => ('\\', text)

/-- Puts the characters of escapes into a text.  Octal codes may follow a zero. -/
def unescape : Nat → Octets → Printed
  | 0, _ => ⟨[], false⟩
  | fuel + 1, text =>
    match text with
    | [] => ⟨[], false⟩
    | '\\' :: 'c' :: _ => ⟨[], true⟩
    | '\\' :: '0' :: rest =>
      let digits := octalDigits 3 rest
      let later := unescape fuel (rest.drop digits.length)
      ⟨octalChar digits :: later.text, later.stops⟩
    | '\\' :: rest =>
      let (char, rest) := escape rest
      let later := unescape fuel rest
      ⟨char :: later.text, later.stops⟩
    | c :: rest =>
      let later := unescape fuel rest
      ⟨c :: later.text, later.stops⟩

/-- The text that is printed for the words of an echo command. -/
def echo (words : List Octets) : Octets :=
  let (words, feed) := match words with
    | ['-', 'n'] :: rest => (rest, false)
    | _ => (words, true)
  let text := [' '].intercalate words
  let printed := unescape (text.length + 1) text
  if printed.stops || !feed then printed.text else printed.text ++ ['\n']

/-- What is printed, and what is left of the arguments. -/
structure Progress where
  arguments : List Octets
  printed : List Octets := []
  status : Nat := 0

/-- A step of printing. -/
abbrev Printing (α : Type) := StateT Progress Action α

/-- Prints a text. -/
def put (text : Octets) : Printing Unit :=
  modify fun progress => { progress with printed := text :: progress.printed }

/-- Takes the next argument. -/
def next? : Printing (Option Octets) := do
  let progress ← get
  set { progress with arguments := progress.arguments.drop 1 }
  return progress.arguments.head?

/-- Complains about an argument that is no number as a whole. -/
def complainNumber (argument : Octets) (reason : String) : Printing Unit := do
  Action.warn (argument ++ octets (": " ++ reason))
  modify fun progress => { progress with status := 1 }

/-- Complains about what follows a number in an argument. -/
def checkRest (argument rest : Octets) : Printing Unit := do
  if !rest.isEmpty then
    complainNumber argument
      (if rest.length = argument.length then "expected numeric value"
        else "not completely converted")

/-- The code behind a quote at the beginning of an argument. -/
def quotedCode? (argument : Octets) : Option Nat :=
  match argument with
  | '"' :: rest | '\'' :: rest => some ((rest.headD '\x00').toNat)
  | _ => none

/-- The integer of the next argument, held at the ends of the range. -/
def nextInteger (low high : Int) : Printing Int := do
  match ← next? with
  | none => return 0
  | some argument =>
    match quotedCode? argument with
    | some code => return code
    | none =>
      let text := argument.dropWhile Integer.isBlank
      let (negative, body) := match text with
        | '-' :: rest => (true, rest)
        | '+' :: rest => (false, rest)
        | _ => (false, text)
      let (base, digits, rest) := Integer.digitsOf true body
      if digits.isEmpty then
        checkRest argument argument
        return 0
      let size : Int := Integer.ofDigits base digits
      let value := if negative then -size else size
      let isOut := if low < 0 then value < low || high < value else high < size
      if !rest.isEmpty then checkRest argument rest
      else if isOut then complainNumber argument "Numerical result out of range"
      if isOut then return if negative && low < 0 then low else high
      return value

/-- The real number of the next argument. -/
def nextReal : Printing Float := do
  match ← next? with
  | none => return 0.0
  | some argument =>
    match quotedCode? argument with
    | some code => return Float.ofNat code
    | none =>
      match Real.leading? argument with
      | some (value, rest) =>
        checkRest argument rest
        if rest.isEmpty && value.isInf && !argument.any (· == 'n') && !argument.any (· == 'N') then
          complainNumber argument "Numerical result out of range"
        return value
      | none =>
        checkRest argument argument
        return 0.0

/-- Prints a directive with its arguments; the result says whether printing stops. -/
def printDirective (text : DirectiveText) (letter : Char) : Printing Bool := do
  let width ← if text.width.isNone then nextInteger Integer.least Integer.greatest else pure 0
  let precision ← if text.precision == some none
    then nextInteger Integer.least Integer.greatest else pure 0
  let directive := text.complete width precision letter
  Action.bounded (max directive.width (directive.precision.getD 0))
  if letter == 'b' then
    let content := (← next?).getD []
    let printed := unescape (content.length + 1) content
    put (directive.text printed.text)
    return printed.stops
  else if letter == 'c' then
    put (({ directive with precision := none }).text [((← next?).getD []).headD '\x00'])
    return false
  else if letter == 's' then
    put (directive.text ((← next?).getD []))
    return false
  else if letter == 'd' || letter == 'i' then
    put (directive.signed (← nextInteger Integer.least Integer.greatest))
    return false
  else if letter ∈ ['o', 'u', 'x', 'X'] then
    let value ← nextInteger 0 0xffffffffffffffff
    put (directive.unsigned (value % 0x10000000000000000).toNat)
    return false
  else
    put (directive.real (← nextReal))
    return false

/-- Prints a format once; the result says whether printing stops. -/
def printOnce : Nat → Octets → Printing Bool
  | 0, _ => return false
  | fuel + 1, format => do
    match format with
    | [] => return false
    | '%' :: '%' :: rest =>
      put ['%']
      printOnce fuel rest
    | '%' :: rest =>
      let (text, behind) := readDirective rest
      match behind with
      | [] =>
        flush
        Action.fail (octets "missing format character")
      | letter :: behind =>
        if !(letter ∈ ['b', 'c', 's', 'd', 'i', 'o', 'u', 'x', 'X', 'a', 'A', 'e', 'E', 'f', 'F',
            'g', 'G']) then
          flush
          Action.fail ('%' :: rest.take (rest.length - behind.length)
            ++ octets ": invalid directive")
        if ← printDirective text letter then return true
        printOnce fuel behind
    | '\\' :: rest =>
      let (char, rest) := escape rest
      put [char]
      printOnce fuel rest
    | c :: rest =>
      let run := (c :: rest).takeWhile fun c => c != '%' && c != '\\'
      put run
      printOnce fuel ((c :: rest).drop run.length)
where
  /-- Writes what was printed so far. -/
  flush : Printing Unit := do
    let progress ← get
    Action.print progress.printed.reverse.flatten
    set { progress with printed := [] }

/-- Prints a format again and again until no arguments are left. -/
def printRounds (format : Octets) : Nat → Printing Unit
  | 0 => return
  | fuel + 1 => do
    let before := (← get).arguments.length
    if ← printOnce (format.length + 1) format then return
    let left := (← get).arguments.length
    if left = 0 || left = before then return
    printRounds format fuel

/-- Prints a format with its arguments; the result is the status. -/
def run (words : List Octets) : Action Nat := do
  let words := if words.head? == some ['-', '-'] then words.drop 1 else words
  match words with
  | [] => Action.fail (octets "usage: printf format [arg ...]")
  | format :: arguments =>
    match format with
    | '-' :: letter :: _ => Action.fail (octets "Illegal option -" ++ [letter])
    | _ =>
      let ((), progress) ← (printRounds format (arguments.length + 1)).run { arguments }
      Action.print progress.printed.reverse.flatten
      return progress.status

end PromptScript.Shell.Printf
