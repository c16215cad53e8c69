import PromptScript.Shell.Integer

/-!
# Orders of texts

The orders in which lines can be sorted: by their characters, by the numbers, months or versions at
their beginnings.
-/

namespace PromptScript.Shell.Collation

/-- Whether a character separates fields by itself. -/
def isGap (c : Char) : Bool :=
  c == ' ' || c == '\t' || c == '\n'

/-- The order of two lists of characters. -/
def ofChars : Octets → Octets → Ordering
  | [], [] => .eq
  | [], _ :: _ => .lt
  | _ :: _, [] => .gt
  | a :: left, b :: right => (compare a b).then (ofChars left right)

/-- A decimal number at the beginning of a text: its sign, its whole digits without zeros before
them, and its fraction without zeros behind it. -/
structure Numeral where
  isNegative : Bool
  whole : Octets
  fraction : Octets
  rest : Octets

/-- The numeral at the beginning of a text, behind blanks. -/
def numeral (text : Octets) : Numeral :=
  let text := text.dropWhile isGap
  let (isNegative, text) := match text with
    | '-' :: rest => (true, rest)
    | _ => (false, text)
  let whole := text.takeWhile Char.isDigit
  let rest := text.drop whole.length
  let (fraction, rest) := match rest with
    | '.' :: rest =>
      let fraction := rest.takeWhile Char.isDigit
      (fraction, rest.drop fraction.length)
    | _ => ([], rest)
  { isNegative
    whole := whole.dropWhile (· == '0')
    fraction := (fraction.reverse.dropWhile (· == '0')).reverse
    rest }

/-- Whether a numeral is zero. -/
def Numeral.isZero (numeral : Numeral) : Bool :=
  numeral.whole.isEmpty && numeral.fraction.isEmpty

/-- The order of the sizes of two numerals. -/
def sizeOrder (a b : Numeral) : Ordering :=
  ((compare a.whole.length b.whole.length).then (ofChars a.whole b.whole)).then
    (ofChars a.fraction b.fraction)

/-- The sign of a numeral: zero has none. -/
def Numeral.sign (numeral : Numeral) : Int :=
  if numeral.isZero then 0 else if numeral.isNegative then -1 else 1

/-- The order of two numerals. -/
def ofNumerals (a b : Numeral) : Ordering :=
  (compare a.sign b.sign).then
    (if a.sign < 0 then sizeOrder b a else sizeOrder a b)

/-- The order by the numbers at the beginnings. -/
def numeric (a b : Octets) : Ordering :=
  ofNumerals (numeral a) (numeral b)

/-- The power that the letter of a unit stands for. -/
def unitPower (numeral : Numeral) : Int :=
  let power : Int := match numeral.rest.head? with
    | some 'k' | some 'K' => 1
    | some 'M' => 2
    | some 'G' => 3
    | some 'T' => 4
    | some 'P' => 5
    | some 'E' => 6
    | some 'Z' => 7
    | some 'Y' => 8
    | _ => 0
  power * numeral.sign

/-- The order by numbers with units: first by the unit. -/
def human (a b : Octets) : Ordering :=
  let left := numeral a
  let right := numeral b
  ((compare left.sign right.sign).then (compare (unitPower left) (unitPower right))).then
    (ofNumerals left right)

/-- The order by real numbers: texts without one come first, then those that are no number. -/
def general (a b : Octets) : Ordering :=
  match Real.leading? a, Real.leading? b with
  | none, none => .eq
  | none, some _ => .lt
  | some _, none => .gt
  | some (left, _), some (right, _) =>
    if left < right then .lt
    else if right < left then .gt
    else if left == right then .eq
    else if left.isNaN && right.isNaN then .eq
    else if left.isNaN then .lt
    else .gt

/-- The names of the months. -/
def months : List String :=
  ["JAN", "FEB", "MAR", "APR", "MAY", "JUN", "JUL", "AUG", "SEP", "OCT", "NOV", "DEC"]

/-- The number of the month at the beginning of a text, or zero. -/
def month (text : Octets) : Nat :=
  let name := String.ofList (((text.dropWhile isGap).take 3).map Char.toUpper)
  match months.findIdx? (· == name) with
  | some place => place + 1
  | none => 0

/-- The weight of a character in versions: a tilde stands before the end, letters before others. -/
def versionWeight : Option Char → Int
  | none => -1
  | some '~' => -2
  | some c => if c.isDigit then 0 else if c.isAlpha then c.toNat else c.toNat + 256

/-- The order of the parts of versions without digits. -/
def versionWords : Octets → Octets → Ordering
  | [], [] => .eq
  | [], b :: _ => compare (versionWeight none) (versionWeight (some b))
  | a :: _, [] => compare (versionWeight (some a)) (versionWeight none)
  | a :: left, b :: right =>
    (compare (versionWeight (some a)) (versionWeight (some b))).then (versionWords left right)

/-- The order of versions: words and numbers in turn. -/
def versionParts : Nat → Octets → Octets → Ordering
  | 0, _, _ => .eq
  | fuel + 1, a, b =>
    if a.isEmpty && b.isEmpty then .eq
    else
      let isWord (c : Char) : Bool := !c.isDigit
      let wordA := a.takeWhile isWord
      let wordB := b.takeWhile isWord
      let restA := a.drop wordA.length
      let restB := b.drop wordB.length
      let padded (word rest : Octets) : Octets := if rest.isEmpty then word else word ++ ['0']
      match versionWords (padded wordA restA) (padded wordB restB) with
      | .eq =>
        let digitsA := restA.takeWhile Char.isDigit
        let digitsB := restB.takeWhile Char.isDigit
        (compare (Integer.ofDigits 10 digitsA) (Integer.ofDigits 10 digitsB)).then
          (versionParts fuel (restA.drop digitsA.length) (restB.drop digitsB.length))
      | other => other

/-- A file name without its endings of letters and digits behind dots. -/
def withoutEndings (text : Octets) : Octets :=
  go (text.length + 1) text
where
  go : Nat → Octets → Octets
    | 0, text => text
    | fuel + 1, text =>
      let ending := (text.reverse.takeWhile fun c => c.isAlphanum || c == '~').reverse
      let before := text.take (text.length - ending.length)
      match before.getLast?, ending with
      | some '.', first :: _ =>
        if (first.isAlpha || first == '~') && 1 < before.length then go fuel before.dropLast
        else text
      | _, _ => text

/-- The order of texts as versions. -/
def version (a b : Octets) : Ordering :=
  if a == b then .eq
  else if a.isEmpty then .lt
  else if b.isEmpty then .gt
  else
    let dots (left right : Octets) : Bool := left.head? == some '.' && right.head? != some '.'
    if dots a b then .lt
    else if dots b a then .gt
    else
      let fuel := a.length + b.length + 1
      (versionParts fuel (withoutEndings a) (withoutEndings b)).then (versionParts fuel a b)

end PromptScript.Shell.Collation
