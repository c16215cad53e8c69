import PromptScript.Json.Reader

/-!
# Reading the wanted parts of JSON

A reader that looks only at the members it is asked for.  The value of any other member is passed
over: it has to keep the grammar of JSON, but its numbers may be out of range, its escapes may
stand for half a pair, and its arrays and objects may lie inside one another to any depth.
-/

namespace PromptScript.Json

/-- Passes over the characters of a string up to its closing quote.  The fuel bounds their
number. -/
def skipString : Nat → Cursor → Except ReadError Cursor
  | 0, cursor => cursor.fail .eofInString
  | fuel + 1, cursor =>
    match cursor.rest with
    | [] => cursor.fail .eofInString
    | '"' :: _ => .ok cursor.advance
    | '\\' :: 'u' :: _ =>
      match readFourHex cursor.advance.advance with
      | .ok (_, behind) => skipString fuel behind
      | .error error => .error error
    | '\\' :: _ =>
      match readEscape cursor.advance with
      | .ok (_, behind) => skipString fuel behind
      | .error error => .error error
    | c :: _ =>
      if c.toNat < 0x20 then cursor.advance.fail .controlCharacter
      else skipString fuel cursor.advance

/-- Passes over at least one digit. -/
def skipDigits (cursor : Cursor) : Except ReadError Cursor :=
  match takeDigits cursor with
  | ([], _) => cursor.failNext .invalidNumber
  | (_ :: _, behind) => .ok behind

/-- Passes over an exponent where there is one. -/
def skipExponent (cursor : Cursor) : Except ReadError Cursor :=
  match cursor.rest with
  | 'e' :: '+' :: _ | 'e' :: '-' :: _ | 'E' :: '+' :: _ | 'E' :: '-' :: _ =>
    skipDigits cursor.advance.advance
  | 'e' :: _ | 'E' :: _ => skipDigits cursor.advance
  | _ => .ok cursor

/-- Passes over a number; the cursor stands behind the minus sign where there is one. -/
def skipNumber (cursor : Cursor) : Except ReadError Cursor := do
  let behind ← match cursor.rest with
    | '0' :: second :: _ =>
      if second.isDigit then cursor.advance.failNext .invalidNumber else .ok cursor.advance
    | _ => skipDigits cursor
  match behind.rest with
  | '.' :: _ => skipExponent (← skipDigits behind.advance)
  | _ => skipExponent behind

mutual

/-- Passes over a value.  The fuel bounds the number of steps. -/
def skipValue : Nat → Cursor → Except ReadError Cursor
  | 0, cursor => cursor.fail .eofInValue
  | fuel + 1, cursor =>
    let next := cursor.skipSpace
    match next.rest with
    | [] => next.fail .eofInValue
    | 'n' :: _ => readWord next.advance ['u', 'l', 'l']
    | 't' :: _ => readWord next.advance ['r', 'u', 'e']
    | 'f' :: _ => readWord next.advance ['a', 'l', 's', 'e']
    | '-' :: _ => skipNumber next.advance
    | '"' :: _ => skipString (next.rest.length + 1) next.advance
    | '[' :: _ => skipItems fuel true next.advance
    | '\x7b' :: _ => skipMembers fuel true next.advance
    | c :: _ => if c.isDigit then skipNumber next else next.failNext .expectedValue

/-- Passes over the items of an array up to its end. -/
def skipItems : Nat → (first : Bool) → Cursor → Except ReadError Cursor
  | 0, _, cursor => cursor.fail .eofInList
  | fuel + 1, first, cursor => do
    match ← nextItem first cursor with
    | (none, behind) => return behind
    | (some item, _) => skipItems fuel false (← skipValue fuel item)

/-- Passes over the members of an object up to its end. -/
def skipMembers : Nat → (first : Bool) → Cursor → Except ReadError Cursor
  | 0, _, cursor => cursor.fail .eofInObject
  | fuel + 1, first, cursor => do
    match ← nextMember first cursor with
    | (none, behind) => return behind
    | (some member, _) =>
      let named ← skipString (member.rest.length + 1) member
      skipMembers fuel false (← skipValue fuel (← readColon named))

end

/-- What of a value is wanted. -/
inductive Selection where
  | whole
  /-- The same of every item of an array. -/
  | each (item : Selection)
  /-- Some members of an object. -/
  | members (names : List String)
  deriving Repr

/-- Reads the wanted members of an object up to its end. -/
def readWanted (names : List String) : (fuel depth : Nat) → (first : Bool) → Cursor →
    Except ReadError (List (String × Json) × Cursor)
  | 0, _, _, cursor => cursor.fail .eofInObject
  | fuel + 1, depth, first, cursor => do
    match ← nextMember first cursor with
    | (none, behind) => return ([], behind)
    | (some member, _) =>
      let (name, named) ← readString member
      let colon ← readColon named
      if names.contains name then
        let (value, behind) ← readValue fuel depth colon
        let (rest, last) ← readWanted names fuel depth false behind
        return ((name, value) :: rest, last)
      else readWanted names fuel depth false (← skipValue fuel colon)

mutual

/-- Reads what is wanted of a value.  A value of another kind than the selection is for is read as
a whole. -/
def readSelected : (fuel depth : Nat) → Selection → Cursor → Except ReadError (Json × Cursor)
  | 0, _, _, cursor => cursor.fail .eofInValue
  | fuel + 1, depth, selection, cursor =>
    let next := cursor.skipSpace
    match selection, depth, next.rest with
    | .each item, deeper + 2, '[' :: _ => do
      let (items, behind) ← readEach fuel (deeper + 1) item true next.advance
      return (.array items, behind)
    | .members names, deeper + 2, '\x7b' :: _ => do
      let (members, behind) ← readWanted names fuel (deeper + 1) true next.advance
      return (.object members, behind)
    | _, _, _ => readValue fuel depth next

/-- Reads what is wanted of the items of an array up to its end. -/
def readEach : (fuel depth : Nat) → Selection → (first : Bool) → Cursor →
    Except ReadError (List Json × Cursor)
  | 0, _, _, _, cursor => cursor.fail .eofInList
  | fuel + 1, depth, selection, first, cursor => do
    match ← nextItem first cursor with
    | (none, behind) => return ([], behind)
    | (some item, _) =>
      let (value, behind) ← readSelected fuel depth selection item
      let (rest, last) ← readEach fuel depth selection false behind
      return (value :: rest, last)

end

/-- What is wanted of the value that a JSON text writes; members stand in the order and number in
which they are written. -/
def readParts (selection : Selection) (text : String) : Except ReadError Json := do
  let chars := text.toList
  let (value, behind) ←
    readSelected (2 * chars.length + 3) depthLimit selection (Cursor.start chars)
  readEnd behind
  return value

end PromptScript.Json
