import PromptScript.Decimal.Shortest
import PromptScript.Shell.Integer

/-!
# Formats

Directives of formats: how a text or a number is written at a given width and precision.
-/

namespace PromptScript.Shell

/-- How an argument is written. -/
structure Directive where
  flags : List Char := []
  width : Nat := 0
  precision : Option Nat := none
  letter : Char
  deriving Repr

namespace Directive

/-- Whether a flag is given. -/
def has (directive : Directive) (flag : Char) : Bool :=
  directive.flags.contains flag

/-- Fills a text up to the width; zeros go behind the lead. -/
def fill (directive : Directive) (withZeros : Bool) (lead body : Octets) : Octets :=
  let missing := directive.width - (lead.length + body.length)
  if directive.has '-' then lead ++ body ++ List.replicate missing ' '
  else if withZeros && directive.has '0' then lead ++ List.replicate missing '0' ++ body
  else List.replicate missing ' ' ++ lead ++ body

/-- Writes a text, of which the precision is the greatest length. -/
def text (directive : Directive) (content : Octets) : Octets :=
  directive.fill false [] (match directive.precision with
    | some length => content.take length
    | none => content)

/-- The sign before a number. -/
def sign (directive : Directive) (isNegative : Bool) : Octets :=
  if isNegative then ['-']
  else if directive.has '+' then ['+']
  else if directive.has ' ' then [' ']
  else []

/-- The digits of a number, of which the precision is the least count. -/
def digits (directive : Directive) (base value : Nat) : Octets :=
  let digits := if value = 0 ∧ directive.precision = some 0 then [] else Nat.toDigits base value
  List.replicate (directive.precision.getD 1 - digits.length) '0' ++ digits

/-- Writes an integer with its sign. -/
def signed (directive : Directive) (value : Int) : Octets :=
  directive.fill directive.precision.isNone (directive.sign (value < 0))
    (directive.digits 10 value.natAbs)

/-- Writes an integer without a sign, in the base of the letter. -/
def unsigned (directive : Directive) (value : Nat) : Octets :=
  let alternative := directive.has '#'
  let (lead, body) := match directive.letter with
    | 'o' =>
      let body := directive.digits 8 value
      ([], if alternative && body.head? != some '0' then '0' :: body else body)
    | 'x' =>
      (if alternative && value ≠ 0 then ['0', 'x'] else [], directive.digits 16 value)
    | 'X' =>
      (if alternative && value ≠ 0 then ['0', 'X'] else [],
        (directive.digits 16 value).map Char.toUpper)
    | _ => ([], directive.digits 10 value)
  directive.fill directive.precision.isNone lead body

/-- Digits with a point behind the first `whole` of them. -/
def pointed (keepsPoint : Bool) (whole : Nat) (digits : Octets) : Octets :=
  let fraction := digits.drop whole
  digits.take whole ++ if fraction.isEmpty && !keepsPoint then [] else '.' :: fraction

/-- A natural number with at least `count` digits. -/
def padded (count value : Nat) : Octets :=
  let digits := Nat.toDigits 10 value
  List.replicate (count - digits.length) '0' ++ digits

/-- An exponent behind its letter, with two digits at least. -/
def exponentText (letter : Char) (least : Nat) (power : Int) : Octets :=
  letter :: (if power < 0 then '-' else '+') :: padded least power.natAbs

/-- A fraction with the given number of places. -/
def fixedText (keepsPoint : Bool) (places numerator denominator : Nat) : Octets :=
  let digits := padded (places + 1)
    (Decimal.roundQuotient (numerator * Nat.pow 10 places) denominator)
  pointed keepsPoint (digits.length - places) digits

/-- A text of digits without the zeros at its end, where it has a point. -/
def withoutEndingZeros (text : Octets) : Octets :=
  if text.contains '.' then
    let cut := text.reverse.dropWhile (· == '0')
    (match cut with
      | '.' :: rest => rest
      | _ => cut).reverse
  else text

/-- The body of a finite number in hexadecimal notation, behind its lead. -/
def hexadecimalBody (directive : Directive) (m : Decimal.Magnitude) : Octets :=
  if m.significand = 0 then
    pointed (directive.has '#') 1 ('0' :: List.replicate (directive.precision.getD 0) '0')
      ++ ['p', '+', '0']
  else
    let shift := 53 - (Nat.log2 m.significand + 1)
    let significand := m.significand * Nat.pow 2 shift
    let power : Int := m.exponent + 52 - shift
    let hexDigits (value count : Nat) : Octets :=
      let digits := Nat.toDigits 16 value
      List.replicate (count - digits.length) '0' ++ digits
    let digits := match directive.precision with
      | some places =>
        if places < 13 then
          hexDigits (Decimal.roundQuotient significand (Nat.pow 16 (13 - places))) (places + 1)
        else hexDigits significand 14 ++ List.replicate (places - 13) '0'
      | none =>
        match (hexDigits significand 14).reverse.dropWhile (· == '0') with
        | [] => ['1']
        | rest => rest.reverse
    pointed (directive.has '#') 1 digits
      ++ 'p' :: (if power < 0 then '-' else '+') :: decimal power.natAbs

/-- The body of a finite number by the letter of the directive. -/
def realBody (directive : Directive) (m : Decimal.Magnitude) : Octets :=
  let (numerator, denominator) := m.fraction
  let places := directive.precision.getD 6
  let keepsPoint := directive.has '#'
  let withExponent (count : Nat) : Octets :=
    let (digits, power) := Decimal.scientific count numerator denominator
    pointed keepsPoint 1 (padded count digits) ++ exponentText 'e' 2 power
  match directive.letter.toLower with
  | 'e' => withExponent (places + 1)
  | 'g' =>
    let count := max 1 places
    let (digits, power) := Decimal.scientific count numerator denominator
    let trim (text : Octets) : Octets := if keepsPoint then text else withoutEndingZeros text
    if power < -4 ∨ (count : Int) ≤ power then
      trim (pointed keepsPoint 1 (padded count digits)) ++ exponentText 'e' 2 power
    else trim (fixedText keepsPoint ((count : Int) - 1 - power).toNat numerator denominator)
  | 'a' => directive.hexadecimalBody m
  | _ => fixedText keepsPoint places numerator denominator

/-- Writes a real number. -/
def real (directive : Directive) (value : Float) : Octets :=
  let isNegative := Decimal.isNegative value
  let capital (text : Octets) : Octets :=
    if directive.letter.isUpper then text.map Char.toUpper else text
  let sign := directive.sign isNegative
  if value.isNaN then directive.fill false sign (capital "nan".toList)
  else if value.isInf then directive.fill false sign (capital "inf".toList)
  else
    let body := directive.realBody (Decimal.magnitude value)
    let lead := if directive.letter.toLower == 'a' then ['0', 'x'] else []
    directive.fill true (sign ++ capital lead) (capital body)

end Directive

/-- A part of a format that was read: the directive, whose counts may be arguments. -/
structure DirectiveText where
  flags : List Char
  /-- None where the width is an argument. -/
  width : Option Nat
  /-- None where there is no precision, and `some none` where it is an argument. -/
  precision : Option (Option Nat)
  deriving Repr

/-- A count or a star at the beginning of a text, and what follows it. -/
def readFormatCount (text : Octets) : Option Nat × Octets :=
  match text with
  | '*' :: rest => (none, rest)
  | _ =>
    let digits := text.takeWhile Char.isDigit
    (some (Integer.ofDigits 10 digits), text.drop digits.length)

/-- Reads a directive behind its percent sign, up to its letter. -/
def readDirective (text : Octets) : DirectiveText × Octets :=
  let flags := text.takeWhile fun c => c ∈ ['#', '-', '+', ' ', '0']
  let (width, rest) := readFormatCount (text.drop flags.length)
  match rest with
  | '.' :: rest =>
    let (precision, rest) := readFormatCount rest
    (⟨flags, width, some precision⟩, rest)
  | _ => (⟨flags, width, none⟩, rest)

/-- A directive with the counts that were arguments.  A width below zero fills at the end, and a
precision below zero is none. -/
def DirectiveText.complete (text : DirectiveText) (width precision : Int) (letter : Char) :
    Directive :=
  let (flags, width) := match text.width with
    | some width => (text.flags, width)
    | none => if width < 0 then ('-' :: text.flags, width.natAbs) else (text.flags, width.toNat)
  let precision := match text.precision with
    | some (some count) => some count
    | some none => if precision < 0 then none else some precision.toNat
    | none => none
  { flags, width, precision, letter }

end PromptScript.Shell
