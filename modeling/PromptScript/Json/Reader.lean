import PromptScript.Json.Numeral
import PromptScript.Text.Basic

/-!
# Reading JSON

The reader of JSON texts.  It takes the grammar of JSON without extensions, refuses more than 127
arrays and objects inside one another, and says at which byte a text that is no JSON fails.
-/

namespace PromptScript.Json

/-- Reads the rest of a word. -/
def readWord (cursor : Cursor) : List Char → Except ReadError Cursor
  | [] => .ok cursor
  | expected :: more =>
    match cursor.rest with
    | [] => cursor.fail .eofInValue
    | c :: _ => if c = expected then readWord cursor.advance more else cursor.failNext .expectedIdent

/-- The value of a hexadecimal digit. -/
def hexDigit? (c : Char) : Option Nat :=
  if c.isDigit then some (c.toNat - '0'.toNat)
  else if 'a' ≤ c ∧ c ≤ 'f' then some (c.toNat - 'a'.toNat + 10)
  else if 'A' ≤ c ∧ c ≤ 'F' then some (c.toNat - 'A'.toNat + 10)
  else none

/-- Reads four hexadecimal digits.  Where four bytes are left that are not such digits, they
count as read. -/
def readFourHex (cursor : Cursor) : Except ReadError (Nat × Cursor) :=
  match cursor.rest with
  | a :: b :: c :: d :: _ =>
    match hexDigit? a, hexDigit? b, hexDigit? c, hexDigit? d with
    | some p, some q, some r, some s =>
      .ok (((p * 16 + q) * 16 + r) * 16 + s, cursor.advance.advance.advance.advance)
    | _, _, _, _ => .error (invalid cursor.rest)
  | few => .error (invalid few)
where
  /-- The error for the bytes of `rest`, which are not four hexadecimal digits. -/
  invalid (rest : List Char) : ReadError :=
    let bytes := Text.byteLength rest
    if bytes < 4 then
      let behind := cursor.advanceOver rest
      ⟨.eofInString, behind.line, behind.column⟩
    else
      let read := leading 4 rest
      match read.reverse.dropWhile (· ≠ '\n') with
      | [] => ⟨.invalidEscape, cursor.line, cursor.column + 4⟩
      | upTo =>
        ⟨.invalidEscape, cursor.line + upTo.count '\n', 4 - Text.byteLength upTo⟩
  /-- The characters that begin among the first `bytes` bytes. -/
  leading : Nat → List Char → List Char
    | 0, _ => []
    | _, [] => []
    | bytes + 1, c :: rest => c :: leading (bytes + 1 - c.utf8Size) rest

/-- Reads the code units behind `\u`: one, or two that form a pair. -/
def readUnicodeEscape (cursor : Cursor) : Except ReadError (Char × Cursor) := do
  let (first, behind) ← readFourHex cursor
  if 0xDC00 ≤ first ∧ first ≤ 0xDFFF then behind.fail .loneSurrogate
  else if first < 0xD800 ∨ 0xDBFF < first then return (Char.ofNat first, behind)
  else
    match behind.rest with
    | [] => behind.fail .eofInString
    | '\\' :: [] => behind.advance.fail .eofInString
    | '\\' :: 'u' :: _ =>
      let (second, last) ← readFourHex behind.advance.advance
      if second < 0xDC00 ∨ 0xDFFF < second then last.fail .loneSurrogate
      else
        return (Char.ofNat (0x10000 + (first - 0xD800) * 0x400 + (second - 0xDC00)), last)
    | '\\' :: _ => behind.advance.failNext .endOfHexEscape
    | _ => behind.failNext .endOfHexEscape

/-- Reads an escape; the cursor stands behind the backslash. -/
def readEscape (cursor : Cursor) : Except ReadError (Char × Cursor) :=
  match cursor.rest with
  | [] => cursor.fail .eofInString
  | '"' :: _ => .ok ('"', cursor.advance)
  | '\\' :: _ => .ok ('\\', cursor.advance)
  | '/' :: _ => .ok ('/', cursor.advance)
  | 'b' :: _ => .ok ('\x08', cursor.advance)
  | 'f' :: _ => .ok ('\x0c', cursor.advance)
  | 'n' :: _ => .ok ('\n', cursor.advance)
  | 'r' :: _ => .ok ('\r', cursor.advance)
  | 't' :: _ => .ok ('\t', cursor.advance)
  | 'u' :: _ => readUnicodeEscape cursor.advance
  | _ => cursor.failNext .invalidEscape

/-- Reads the characters of a string up to its closing quote.  The fuel bounds their number. -/
def readStringBody : Nat → Cursor → List Char → Except ReadError (List Char × Cursor)
  | 0, cursor, _ => cursor.fail .eofInString
  | fuel + 1, cursor, read =>
    match cursor.rest with
    | [] => cursor.fail .eofInString
    | c :: rest =>
      if c = '"' then .ok (read.reverse, cursor.past c rest)
      else if c = '\\' then
        match readEscape (cursor.past c rest) with
        | .ok (escaped, behind) => readStringBody fuel behind (escaped :: read)
        | .error error => .error error
      else if c.toNat < 0x20 then (cursor.past c rest).fail .controlCharacter
      else readStringBody fuel (cursor.past c rest) (c :: read)

/-- Reads a string; the cursor stands behind its opening quote. -/
def readString (cursor : Cursor) : Except ReadError (String × Cursor) :=
  (readStringBody (cursor.rest.length + 1) cursor []).map fun (body, behind) =>
    (String.ofList body, behind)

/-- Reads the colon behind a member's name. -/
def readColon (cursor : Cursor) : Except ReadError Cursor :=
  let next := cursor.skipSpace
  match next.rest with
  | ':' :: _ => .ok next.advance
  | [] => next.fail .eofInObject
  | _ => next.failNext .expectedColon

/-- Finds the next item of an array, or none at the array's end.  The cursor stands behind the
opening bracket or behind an item. -/
def nextItem (first : Bool) (cursor : Cursor) : Except ReadError (Option Cursor × Cursor) :=
  let next := cursor.skipSpace
  match next.rest with
  | [] => next.fail .eofInList
  | ']' :: _ => .ok (none, next.advance)
  | c :: _ =>
    if first then .ok (some next, next)
    else if c = ',' then
      let item := next.advance.skipSpace
      match item.rest with
      | [] => item.fail .eofInValue
      | ']' :: _ => item.failNext .trailingComma
      | _ => .ok (some item, item)
    else next.failNext .expectedListEnd

/-- Finds the next member of an object, or none at the object's end; the first cursor then stands
behind the opening quote of the member's name. -/
def nextMember (first : Bool) (cursor : Cursor) : Except ReadError (Option Cursor × Cursor) :=
  let next := cursor.skipSpace
  match next.rest with
  | [] => next.fail .eofInObject
  | '\x7d' :: _ => .ok (none, next.advance)
  | c :: _ =>
    if first then
      if c = '"' then .ok (some next.advance, next) else next.failNext .keyNotString
    else if c = ',' then
      let member := next.advance.skipSpace
      match member.rest with
      | '"' :: _ => .ok (some member.advance, member)
      | '\x7d' :: _ => member.failNext .trailingComma
      | [] => member.fail .eofInValue
      | _ => member.failNext .keyNotString
    else next.failNext .expectedObjectEnd

mutual

/-- Reads a value.  The fuel bounds the number of steps, the depth the number of arrays and
objects inside one another. -/
def readValue : (fuel depth : Nat) → Cursor → Except ReadError (Json × Cursor)
  | 0, _, cursor => cursor.fail .eofInValue
  | fuel + 1, depth, cursor =>
    let next := cursor.skipSpace
    match next.rest with
    | [] => next.fail .eofInValue
    | 'n' :: _ => do return (.null, ← readWord next.advance ['u', 'l', 'l'])
    | 't' :: _ => do return (.bool true, ← readWord next.advance ['r', 'u', 'e'])
    | 'f' :: _ => do return (.bool false, ← readWord next.advance ['a', 'l', 's', 'e'])
    | '-' :: _ => do
      let (value, behind) ← readNumber false next.advance
      return (.number value, behind)
    | '"' :: _ => do
      let (text, behind) ← readString next.advance
      return (.string text, behind)
    | '[' :: _ =>
      match depth with
      | 0 | 1 => next.failNext .recursionLimit
      | deeper + 1 => do
        let (items, behind) ← readItems fuel deeper true next.advance
        return (.array items, behind)
    | '\x7b' :: _ =>
      match depth with
      | 0 | 1 => next.failNext .recursionLimit
      | deeper + 1 => do
        let (members, behind) ← readMembers fuel deeper true next.advance
        return (.object members, behind)
    | c :: _ =>
      if c.isDigit then do
        let (value, behind) ← readNumber true next
        return (.number value, behind)
      else next.failNext .expectedValue

/-- Reads the items of an array up to its end. -/
def readItems : (fuel depth : Nat) → (first : Bool) → Cursor →
    Except ReadError (List Json × Cursor)
  | 0, _, _, cursor => cursor.fail .eofInList
  | fuel + 1, depth, first, cursor => do
    match ← nextItem first cursor with
    | (none, behind) => return ([], behind)
    | (some item, _) =>
      let (value, behind) ← readValue fuel depth item
      let (rest, last) ← readItems fuel depth false behind
      return (value :: rest, last)

/-- Reads the members of an object up to its end. -/
def readMembers : (fuel depth : Nat) → (first : Bool) → Cursor →
    Except ReadError (List (String × Json) × Cursor)
  | 0, _, _, cursor => cursor.fail .eofInObject
  | fuel + 1, depth, first, cursor => do
    match ← nextMember first cursor with
    | (none, behind) => return ([], behind)
    | (some member, _) =>
      let (name, named) ← readString member
      let colon ← readColon named
      let (value, behind) ← readValue fuel depth colon
      let (rest, last) ← readMembers fuel depth false behind
      return ((name, value) :: rest, last)

end

/-- The number of arrays and objects inside one another that a text may not reach. -/
def depthLimit : Nat := 128

/-- Checks that nothing but blanks follows. -/
def readEnd (cursor : Cursor) : Except ReadError Unit :=
  let next := cursor.skipSpace
  if next.rest.isEmpty then .ok () else next.failNext .trailingCharacters

/-- The value that a JSON text writes, its members in the order and number in which they are
written. -/
def readText (text : String) : Except ReadError Json := do
  let chars := text.toList
  let (value, behind) ← readValue (2 * chars.length + 3) depthLimit (Cursor.start chars)
  readEnd behind
  return value

/-- The value of a JSON text.  Of members with one name the last counts. -/
def parse (text : String) : Except ReadError Json :=
  (readText text).map sorted

/-- The value of a JSON text, where it is one. -/
def parse? (text : String) : Option Json :=
  (parse text).toOption

end PromptScript.Json
