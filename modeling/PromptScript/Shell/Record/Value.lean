import PromptScript.Shell.Format

/-!
# Values of record programs

Record programs know numbers and texts.  A text that was read counts as a number as well, where it
looks like one, and a variable without a value is both an empty text and zero.
-/

namespace PromptScript.Shell.Record

/-- A value of a record program. -/
inductive Value where
  | unset
  | number (value : Float)
  | text (content : Octets)
  /-- A text that was read. -/
  | input (content : Octets)
  deriving Inhabited

/-- Whether a character is blank within a line, or ends it. -/
def isBlank (c : Char) : Bool :=
  c == ' ' || c == '\t' || c == '\n'

/-- The number at the beginning of a text; zero where there is none. -/
def numberOf (text : Octets) : Float :=
  ((Real.leading? text).map (·.1)).getD 0.0

/-- The number that a whole text writes between blanks. -/
def wholeNumber? (text : Octets) : Option Float :=
  let body := text.dropWhile isBlank
  let core := (body.reverse.dropWhile isBlank).reverse
  let begins := core.head?.any fun c => c.isDigit || c == '+' || c == '-' || c == '.'
  let ends := core.getLast?.any fun c => c.isDigit || c == '.'
  if begins && ends then
    match Real.leading? core with
    | some (value, []) => some value
    | _ => none
  else none

/-- The integer that is a number, where it is one. -/
def integer? (value : Float) : Option Int :=
  if value.isNaN || value.isInf then none
  else
    let (numerator, denominator) := (Decimal.magnitude value).fraction
    if numerator % denominator ≠ 0 then none
    else
      let size : Int := numerator / denominator
      some (if Decimal.isNegative value then -size else size)

/-- The integer that a number becomes where an integer is wanted: its fraction is dropped. -/
def truncated (value : Float) : Int :=
  if value.isNaN then Integer.least
  else if value.isInf then if Decimal.isNegative value then Integer.least else 0xffffffffffffffff
  else
    let (numerator, denominator) := (Decimal.magnitude value).fraction
    let size : Int := numerator / denominator
    if Decimal.isNegative value then -size else size

/-- Writes a number by a format of one directive, with any text around it. -/
def written (format : Octets) (value : Float) : Octets :=
  let lead := format.takeWhile (· != '%')
  match format.drop lead.length with
  | [] => lead
  | _ :: rest =>
    let (text, after) := readDirective rest
    match after with
    | [] => lead
    | letter :: tail =>
      let directive := text.complete 0 0 letter
      let body := match letter with
        | 'd' | 'i' => directive.signed (truncated value)
        | _ =>
          let body := directive.real value
          if value.isNaN && body.head? != some '-' then '-' :: body else body
      lead ++ body ++ tail

/-- The text of a number: its digits where it is an integer, else by a format. -/
def textOf (format : Octets) (value : Float) : Octets :=
  match integer? value with
  | some integer =>
    if 0 ≤ integer && integer ≤ 0x10000000000000000 then Integer.text (min integer 0xffffffffffffffff)
    else if Integer.least ≤ integer && integer < 0 then Integer.text integer
    else written format value
  | none => written format value

namespace Value

/-- The number of a value. -/
def toNumber : Value → Float
  | unset => 0.0
  | number value => value
  | text content | input content => numberOf content

/-- The text of a value; `format` is that of numbers with a fraction. -/
def toText (format : Octets) : Value → Octets
  | unset => []
  | number value => textOf format value
  | text content | input content => content

/-- The number of a value that counts as one. -/
def number? : Value → Option Float
  | unset => some 0.0
  | number value => some value
  | text _ => none
  | input content => wholeNumber? content

/-- Whether a value holds as a condition. -/
def isTrue : Value → Bool
  | unset => false
  | number value => value != 0.0
  | text content => !content.isEmpty
  | input content =>
    match wholeNumber? content with
    | some value => value != 0.0
    | none => !content.isEmpty

/-- The value of a condition. -/
def ofBool (holds : Bool) : Value :=
  number (if holds then 1.0 else 0.0)

/-- The value of a count. -/
def ofNat (count : Nat) : Value :=
  number count.toFloat

end Value

/-- How two values can stand to each other. -/
inductive Relation where
  | less
  | atMost
  | equal
  | unequal
  | greater
  | atLeast
  deriving DecidableEq, Repr

/-- Whether an order of two things satisfies a relation. -/
def Relation.holds (relation : Relation) (order : Ordering) : Bool :=
  match relation with
  | less => order == .lt
  | atMost => order != .gt
  | equal => order == .eq
  | unequal => order != .eq
  | greater => order == .gt
  | atLeast => order != .lt

/-- The order of two texts, byte by byte. -/
def compareTexts : Octets → Octets → Ordering
  | [], [] => .eq
  | [], _ :: _ => .lt
  | _ :: _, [] => .gt
  | a :: as, b :: bs => if a < b then .lt else if b < a then .gt else compareTexts as bs

/-- The order of two values: as numbers where both count as such, else as texts. -/
def compareValues (format : Octets) (a b : Value) : Ordering :=
  let asTexts := compareTexts (a.toText format) (b.toText format)
  match a, b with
  | .unset, .text _ | .text _, .unset => asTexts
  | _, _ =>
    match a.number?, b.number? with
    | some x, some y => if x < y then .lt else if x == y then .eq else .gt
    | _, _ => asTexts

end PromptScript.Shell.Record
