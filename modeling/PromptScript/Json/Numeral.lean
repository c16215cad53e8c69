import PromptScript.Json.Basic

/-!
# Places and numbers in a JSON text

What a reader has before it, and how it reads a number.
-/

namespace PromptScript.Json

/-!
## Places in a JSON text

The unread part of a text with the place where it begins, and what can be wrong there.  Lines are
counted from one; a column is the number of bytes of the line that have been read.
-/

/-- What makes a text no JSON. -/
inductive Fault where
  | eofInValue
  | eofInList
  | eofInObject
  | eofInString
  | expectedValue
  | expectedIdent
  | expectedColon
  | expectedListEnd
  | expectedObjectEnd
  | keyNotString
  | trailingComma
  | trailingCharacters
  | invalidNumber
  | numberOutOfRange
  | invalidEscape
  | loneSurrogate
  | endOfHexEscape
  | controlCharacter
  | recursionLimit
  /-- A value of another kind than the one that is wanted. -/
  | unexpected (found wanted : String)
  deriving DecidableEq, Repr

/-- The wording of a fault. -/
def Fault.text : Fault → String
  | eofInValue => "EOF while parsing a value"
  | eofInList => "EOF while parsing a list"
  | eofInObject => "EOF while parsing an object"
  | eofInString => "EOF while parsing a string"
  | expectedValue => "expected value"
  | expectedIdent => "expected ident"
  | expectedColon => "expected `:`"
  | expectedListEnd => "expected `,` or `]`"
  | expectedObjectEnd => "expected `,` or `\x7d`"
  | keyNotString => "key must be a string"
  | trailingComma => "trailing comma"
  | trailingCharacters => "trailing characters"
  | invalidNumber => "invalid number"
  | numberOutOfRange => "number out of range"
  | invalidEscape => "invalid escape"
  | loneSurrogate => "lone leading surrogate in hex escape"
  | endOfHexEscape => "unexpected end of hex escape"
  | controlCharacter => "control character (\\u0000-\\u001F) found while parsing a string"
  | recursionLimit => "recursion limit exceeded"
  | unexpected found wanted => "invalid type: " ++ found ++ ", expected " ++ wanted

/-- A fault and its place. -/
structure ReadError where
  fault : Fault
  line : Nat
  column : Nat
  deriving DecidableEq, Repr

/-- The full text of a read error. -/
def ReadError.message (error : ReadError) : String :=
  error.fault.text ++ " at line " ++ toString error.line ++ " column " ++ toString error.column

/-- The unread part of a text and the place where it begins. -/
structure Cursor where
  rest : List Char
  line : Nat
  column : Nat
  deriving DecidableEq, Repr

namespace Cursor

/-- The beginning of a text. -/
def start (text : List Char) : Cursor :=
  ⟨text, 1, 0⟩

/-- The cursor behind a character, with the given text left. -/
def past (cursor : Cursor) (c : Char) (rest : List Char) : Cursor :=
  if c = '\n' then ⟨rest, cursor.line + 1, 0⟩
  else ⟨rest, cursor.line, cursor.column + c.utf8Size⟩

/-- The cursor behind its next character. -/
def advance (cursor : Cursor) : Cursor :=
  match cursor.rest with
  | [] => cursor
  | c :: rest => cursor.past c rest

/-- The cursor behind as many characters as the list has. -/
def advanceOver (cursor : Cursor) : List Char → Cursor
  | [] => cursor
  | _ :: more => cursor.advance.advanceOver more

/-- A fault at the cursor. -/
def fail {α : Type} (cursor : Cursor) (fault : Fault) : Except ReadError α :=
  .error ⟨fault, cursor.line, cursor.column⟩

/-- A fault at the next byte, which counts as read; at the end of the text, a fault there. -/
def failNext {α : Type} (cursor : Cursor) (fault : Fault) : Except ReadError α :=
  match cursor.rest with
  | [] => cursor.fail fault
  | c :: _ =>
    if c = '\n' then .error ⟨fault, cursor.line + 1, 0⟩
    else .error ⟨fault, cursor.line, cursor.column + 1⟩

/-- A blank of JSON. -/
def isSpace (c : Char) : Bool :=
  c == ' ' || c == '\n' || c == '\t' || c == '\r'

/-- The cursor behind the blanks that begin a text. -/
def skipSpaceFrom (cursor : Cursor) : List Char → Cursor
  | [] => cursor
  | c :: rest => if isSpace c then (cursor.past c rest).skipSpaceFrom rest else cursor

/-- The cursor behind the blanks that come next. -/
def skipSpace (cursor : Cursor) : Cursor :=
  cursor.skipSpaceFrom cursor.rest

end Cursor

/-!
## Reading JSON numbers

A numeral is read into a significand of at most 64 bits and a power of ten.  Digits that no longer
fit the significand are dropped; in the whole part each dropped digit raises the power.  A numeral
without point, exponent and dropped digits is a whole number, all others are binary64 numbers.
-/

/-- The greatest significand. -/
def maxSignificand : Nat := 0xffffffffffffffff

/-- Appends digits to a significand as long as it fits; the number of digits left over is
counted. -/
def accumulate (significand : Nat) : List Char → Nat × Nat
  | [] => (significand, 0)
  | d :: rest =>
    let next := significand * 10 + (d.toNat - '0'.toNat)
    if next ≤ maxSignificand then accumulate next rest else (significand, rest.length + 1)

/-- The binary64 power of ten. -/
def powerOfTen (exponent : Nat) : Float :=
  Float.ofScientific 1 false exponent

/-- Divides by ten to a power that is beyond the powers of binary64, in steps. -/
def scaleDown : Nat → Float → Nat → Float
  | 0, x, _ => x
  | fuel + 1, x, exponent =>
    if exponent ≤ 308 then x / powerOfTen exponent
    else if x == 0.0 then x
    else scaleDown fuel (x / powerOfTen 308) (exponent - 308)

/-- The magnitude `significand * 10 ^ exponent`, computed by one division or product where the
power is one of binary64; none where it is out of range. -/
def scaled? (significand : Nat) (exponent : Int) : Option Float :=
  let x := (UInt64.ofNat significand).toFloat
  match exponent with
  | .ofNat power =>
    if power ≤ 308 then
      let product := x * powerOfTen power
      if product.isInf then none else some product
    else if x == 0.0 then some x
    else none
  | .negSucc below => some (scaleDown 4 x (below + 1))

/-- The characters of a text up to the first that is no digit, and the cursor behind them. -/
def takeDigits (cursor : Cursor) : List Char × Cursor :=
  let digits := cursor.rest.takeWhile Char.isDigit
  (digits, cursor.advanceOver digits)

/-- The number of a significand and a power of ten. -/
def finishFloat (cursor : Cursor) (positive : Bool) (significand : Nat) (exponent : Int) :
    Except ReadError (Number × Cursor) :=
  match scaled? significand exponent with
  | some x => .ok (.float (if positive then x else -x), cursor)
  | none => cursor.fail .numberOutOfRange

/-- The value of digits, or none with the number of digits that were read where it passes
`2 ^ 31 - 1`. -/
def exponentValue (value read : Nat) : List Char → Except Nat Nat
  | [] => .ok value
  | d :: rest =>
    let next := value * 10 + (d.toNat - '0'.toNat)
    if next ≤ 0x7fffffff then exponentValue next (read + 1) rest else .error (read + 1)

/-- Reads an exponent; the cursor stands behind its mark. -/
def readExponent (cursor : Cursor) (positive : Bool) (significand : Nat) (scale : Int) :
    Except ReadError (Number × Cursor) :=
  let (up, unsigned) :=
    match cursor.rest with
    | '+' :: _ => (true, cursor.advance)
    | '-' :: _ => (false, cursor.advance)
    | _ => (true, cursor)
  match unsigned.rest with
  | [] => unsigned.fail .eofInValue
  | c :: _ =>
    if !c.isDigit then unsigned.failNext .invalidNumber
    else
      let (digits, behind) := takeDigits unsigned
      match exponentValue 0 0 digits with
      | .ok power =>
        finishFloat behind positive significand (if up then scale + power else scale - power)
      | .error read =>
        if significand ≠ 0 && up then
          (unsigned.advanceOver (digits.take read)).fail .numberOutOfRange
        else .ok (.float (if positive then 0.0 else -0.0), behind)

/-- Reads what follows the digits of a number that is not whole. -/
def readFloatEnd (cursor : Cursor) (positive : Bool) (significand : Nat) (scale : Int) :
    Except ReadError (Number × Cursor) :=
  match cursor.rest with
  | 'e' :: _ | 'E' :: _ => readExponent cursor.advance positive significand scale
  | _ => finishFloat cursor positive significand scale

/-- Reads the digits behind a point. -/
def readFraction (cursor : Cursor) (positive : Bool) (significand : Nat) (scale : Int) :
    Except ReadError (Number × Cursor) :=
  let (digits, behind) := takeDigits cursor
  if digits.isEmpty then
    match cursor.rest with
    | [] => cursor.fail .eofInValue
    | _ => cursor.failNext .invalidNumber
  else
    let (longer, dropped) := accumulate significand digits
    readFloatEnd behind positive longer (scale - (digits.length - dropped : Nat))

/-- The whole number of a significand with its sign; zero with a sign and numbers below
`-2 ^ 63` are not whole. -/
def wholeNumber (positive : Bool) (significand : Nat) : Number :=
  if positive then .int significand
  else if 0 < significand ∧ significand ≤ 0x8000000000000000 then .int (-significand)
  else .float (-(UInt64.ofNat significand).toFloat)

/-- Reads what follows the whole part of a number. -/
def readWholeEnd (cursor : Cursor) (positive : Bool) (significand dropped : Nat) :
    Except ReadError (Number × Cursor) :=
  match cursor.rest with
  | '.' :: _ => readFraction cursor.advance positive significand dropped
  | 'e' :: _ | 'E' :: _ => readExponent cursor.advance positive significand dropped
  | _ =>
    if dropped = 0 then .ok (wholeNumber positive significand, cursor)
    else finishFloat cursor positive significand dropped

/-- Reads a number; the cursor stands behind the minus sign where there is one. -/
def readNumber (positive : Bool) (cursor : Cursor) : Except ReadError (Number × Cursor) :=
  match cursor.rest with
  | [] => cursor.fail .eofInValue
  | '0' :: second :: _ =>
    if second.isDigit then cursor.advance.failNext .invalidNumber
    else readWholeEnd cursor.advance positive 0 0
  | c :: _ =>
    if !c.isDigit then cursor.failNext .invalidNumber
    else
      let (digits, behind) := takeDigits cursor
      let (significand, dropped) := accumulate 0 digits
      readWholeEnd behind positive significand dropped

end PromptScript.Json
