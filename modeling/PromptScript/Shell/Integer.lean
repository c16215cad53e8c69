import PromptScript.Shell.Command

/-!
# Integers as they are written

Integers of 64 bits in the notation of scripts: decimal, octal behind a zero, hexadecimal behind a
zero and an x.  A number out of range is held at the end of the range.
-/

namespace PromptScript.Shell.Integer

/-- The least integer. -/
def least : Int := -0x8000000000000000

/-- The greatest integer. -/
def greatest : Int := 0x7fffffffffffffff

/-- Whether a character is blank. -/
def isBlank (c : Char) : Bool :=
  c == ' ' || ('\t' ≤ c && c ≤ '\r')

/-- The value of a digit, also of one above nine. -/
def digit? (c : Char) : Option Nat :=
  if c.isDigit then some (c.toNat - 48)
  else if 'a' ≤ c && c ≤ 'z' then some (c.toNat - 87)
  else if 'A' ≤ c && c ≤ 'Z' then some (c.toNat - 55)
  else none

/-- Whether a character is a digit in a base. -/
def isDigitIn (base : Nat) (c : Char) : Bool :=
  (digit? c).any (· < base)

/-- The number that digits write in a base. -/
def ofDigits (base : Nat) (digits : Octets) : Nat :=
  digits.foldl (fun value c => value * base + (digit? c).getD 0) 0

/-- The digits of a number at the beginning of a text with their base, and what follows them.  The
marks of the base count only where `prefixed` holds. -/
def digitsOf (prefixed : Bool) (text : Octets) : Nat × Octets × Octets :=
  let cut (base : Nat) (text : Octets) : Nat × Octets × Octets :=
    let digits := text.takeWhile (isDigitIn base)
    (base, digits, text.drop digits.length)
  if !prefixed then cut 10 text
  else
    match text with
    | '0' :: x :: c :: rest =>
      if (x == 'x' || x == 'X') && isDigitIn 16 c then cut 16 (c :: rest) else cut 8 text
    | '0' :: _ => cut 8 text
    | _ => cut 10 text

/-- A number that was read. -/
structure Reading where
  value : Int
  /-- Whether the number was held at an end of the range. -/
  isClipped : Bool
  rest : Octets

/-- The number at the beginning of a text, behind blanks and a sign. -/
def leading? (prefixed : Bool) (text : Octets) : Option Reading :=
  let text := text.dropWhile isBlank
  let (negative, text) := match text with
    | '-' :: rest => (true, rest)
    | '+' :: rest => (false, rest)
    | _ => (false, text)
  let (base, digits, rest) := digitsOf prefixed text
  if digits.isEmpty then none
  else
    let size : Int := ofDigits base digits
    let value := if negative then -size else size
    some ⟨max least (min greatest value), value < least || greatest < value, rest⟩

/-- The number that a whole text writes, with blanks around it. -/
def whole? (prefixed : Bool) (text : Octets) : Option Int :=
  match leading? prefixed text with
  | some reading =>
    if reading.isClipped || !reading.rest.all isBlank then none else some reading.value
  | none => none

/-- The number that a text of digits writes, as for counts. -/
def count? (text : Octets) : Option Nat :=
  if !text.isEmpty && text.all Char.isDigit then some (ofDigits 10 text) else none

/-- A number that wraps around at 64 bits. -/
def wrap (value : Int) : Int :=
  Int.bmod value 0x10000000000000000

/-- The text of an integer. -/
def text (value : Int) : Octets :=
  (toString value).toList

end PromptScript.Shell.Integer

/-!
## Real numbers as they are written

Numbers with a fraction and an exponent at the beginning of a text, also in hexadecimal notation,
and the words for the numbers that are none.
-/

namespace PromptScript.Shell.Real

/-- The number that is greater than all others. -/
def infinity : Float := 1.0 / 0.0

/-- The number that is no number. -/
def notNumber : Float := Float.ofBits 0x7ff8000000000000

/-- The exponent behind its letter, with a sign, and what follows it. -/
def exponent? (letters : List Char) (text : Octets) : Int × Octets :=
  match text with
  | letter :: rest =>
    if !letters.contains letter then (0, text)
    else
      let (negative, digits) := match rest with
        | '-' :: rest => (true, rest)
        | '+' :: rest => (false, rest)
        | _ => (false, rest)
      let found := digits.takeWhile Char.isDigit
      if found.isEmpty then (0, text)
      else
        let size : Int := min 100000 (Integer.ofDigits 10 found)
        (if negative then -size else size, digits.drop found.length)
  | [] => (0, text)

/-- The digits before and behind a point, and what follows them. -/
def digits (base : Nat) (text : Octets) : Octets × Octets × Octets :=
  let whole := text.takeWhile (Integer.isDigitIn base)
  match text.drop whole.length with
  | '.' :: rest =>
    let fraction := rest.takeWhile (Integer.isDigitIn base)
    if whole.isEmpty && fraction.isEmpty then (whole, fraction, text)
    else (whole, fraction, rest.drop fraction.length)
  | rest => (whole, [], rest)

/-- The number `significand * 10 ^ power`. -/
def ofDecimal (significand : Nat) (power : Int) : Float :=
  if significand = 0 then 0.0
  else if power < -30000 then 0.0
  else if 0 ≤ power then Float.ofScientific significand false (min 30000 power.toNat)
  else Float.ofScientific significand true (-power).toNat

/-- The unsigned number at the beginning of a text, and what follows it. -/
def magnitude? (text : Octets) : Option (Float × Octets) :=
  let word := text.map Char.toLower
  if "infinity".toList.isPrefixOf word then some (infinity, text.drop 8)
  else if "inf".toList.isPrefixOf word then some (infinity, text.drop 3)
  else if "nan".toList.isPrefixOf word then some (notNumber, text.drop 3)
  else
    let hexadecimal? : Option (Float × Octets) := match text with
      | '0' :: x :: rest =>
        if x == 'x' || x == 'X' then
          let (whole, fraction, rest) := digits 16 rest
          if whole.isEmpty && fraction.isEmpty then none
          else
            let (power, rest) := exponent? ['p', 'P'] rest
            let significand := Integer.ofDigits 16 (whole ++ fraction)
            some ((Float.ofNat significand).scaleB (power - 4 * fraction.length), rest)
        else none
      | _ => none
    match hexadecimal? with
    | some found => some found
    | none =>
      let (whole, fraction, rest) := digits 10 text
      if whole.isEmpty && fraction.isEmpty then none
      else
        let (power, rest) := exponent? ['e', 'E'] rest
        some (ofDecimal (Integer.ofDigits 10 (whole ++ fraction)) (power - fraction.length), rest)

/-- The number at the beginning of a text, behind blanks and a sign, and what follows it. -/
def leading? (text : Octets) : Option (Float × Octets) :=
  match text.dropWhile Integer.isBlank with
  | '-' :: rest => (magnitude? rest).map fun (value, rest) => (-value, rest)
  | '+' :: rest => magnitude? rest
  | rest => magnitude? rest

end PromptScript.Shell.Real
