import PromptScript.Json.Printer
import PromptScript.Json.Reader
import PromptScript.RunError
import PromptScript.Text.Basic

/-!
# Payloads

What the payloads of statements write: the choice of a model, an assignment, the head of a call or
of a result, the sections of a diagnostic text and a list of patterns.  An item of the list that is
no text is a fault at the place where the reader notices it.
-/

namespace PromptScript.Json

/-- What a number is called where a string is wanted. -/
def describeNumber : Number → String
  | .int value => "integer `" ++ toString value ++ "`"
  | .float value => "floating point `" ++ Decimal.render numberStyle value ++ "`"

/-- The fault of an item that is no string.  Words and numbers are read first. -/
def failItem {α : Type} (cursor : Cursor) : Except ReadError α :=
  let wrong {α : Type} (place : Cursor) (found : String) : Except ReadError α :=
    place.fail (.unexpected found "a string")
  match cursor.rest with
  | [] => cursor.fail .eofInValue
  | 'n' :: _ => do wrong (← readWord cursor.advance ['u', 'l', 'l']) "null"
  | 't' :: _ => do wrong (← readWord cursor.advance ['r', 'u', 'e']) "boolean `true`"
  | 'f' :: _ => do wrong (← readWord cursor.advance ['a', 'l', 's', 'e']) "boolean `false`"
  | '[' :: _ => wrong cursor "sequence"
  | '\x7b' :: _ => wrong cursor "map"
  | c :: _ =>
    if c = '-' then do
      let (value, behind) ← readNumber false cursor.advance
      wrong behind (describeNumber value)
    else if c.isDigit then do
      let (value, behind) ← readNumber true cursor
      wrong behind (describeNumber value)
    else cursor.failNext .expectedValue

/-- Reads the strings of an array up to its end. -/
def readStrings : (fuel : Nat) → (first : Bool) → Cursor →
    Except ReadError (List String × Cursor)
  | 0, _, cursor => cursor.fail .eofInList
  | fuel + 1, first, cursor => do
    match ← nextItem first cursor with
    | (none, behind) => return ([], behind)
    | (some item, _) =>
      let next := item.skipSpace
      match next.rest with
      | '"' :: _ =>
        let (text, behind) ← readString next.advance
        let (rest, last) ← readStrings fuel false behind
        return (text :: rest, last)
      | _ => failItem next

/-- The strings of a text that begins with an opening bracket. -/
def parseStrings (text : String) : Except ReadError (List String) := do
  let chars := text.toList
  let (strings, behind) ← readStrings (chars.length + 1) true (Cursor.start chars).advance
  readEnd behind
  return strings

end PromptScript.Json

namespace PromptScript

/-- The choice of a model, with the values that variables take along with it. -/
structure ModelChoice where
  model : String
  /-- The values in the order of their names; the model's name is one of them. -/
  values : List (String × Json)
  deriving DecidableEq, Repr

namespace ModelChoice

/-- The JSON text that a payload stands for; the braces around its members may be left out. -/
def jsonText (payload : List Char) : String :=
  match payload with
  | '\x7b' :: _ => String.ofList payload
  | _ => String.ofList ('\x7b' :: payload ++ ['\x7d'])

/-- The choice that a payload writes. -/
def ofPayload (payload : String) : Except RunError ModelChoice := do
  let value ←
    match Json.parse (jsonText (Text.dropAround payload.toList)) with
    | .ok value => pure value
    | .error fault => throw (.invalidArgument ("bad .llm parameters: " ++ fault.message))
  match value with
  | .object values =>
    match (Json.lookup? "model" values).bind Json.asString? with
    | some model => return ⟨model, values⟩
    | none => throw (.invalidArgument ".llm requires \"model\"")
  | _ => throw (.invalidArgument ".llm expects a JSON object")

end ModelChoice

/-- The name of a variable and the text that its value comes from. -/
structure Assignment where
  name : String
  text : String
  deriving DecidableEq, Repr

/-- The assignment that a payload writes: everything behind the first blank is the text. -/
def Assignment.ofPayload (payload : String) : Assignment :=
  let trimmed := Text.dropAround payload.toList
  match Text.cutAtBlank? trimmed with
  | some (name, text) => ⟨String.ofList name, String.ofList (Text.dropAround text)⟩
  | none => ⟨String.ofList trimmed, ""⟩

/-- The head of a written call or result, with the text behind it. -/
structure CallHead where
  id : String
  name : String
  body : String
  deriving DecidableEq, Repr

namespace CallHead

/-- The head that a payload writes: two words with one blank between them. -/
def read? (payload : String) : Option CallHead := do
  let (id, behind) ← Text.cutAtBlank? (Text.dropAround payload.toList)
  let (name, body) := (Text.cutAtBlank? behind).getD (behind, [])
  if name.isEmpty then none
  else some ⟨String.ofList id, String.ofList name, String.ofList (Text.dropAround body)⟩

/-- The head that the payload of a statement of the given kind writes. -/
def ofPayload (kind : StatementKind) (payload : String) : Except RunError CallHead :=
  match read? payload with
  | some head => .ok head
  | none => .error (.invalidArgument (kind.keyword ++ " expects <id> <name> ..."))

end CallHead

/-- The arguments that a written call has behind its head. -/
def readCallArguments (body : String) : Except RunError Json :=
  if body.isEmpty then .ok (.object [])
  else
    (Json.parse body).mapError fun fault =>
      .invalidArgument ("bad .tool_call arguments: " ++ fault.message)

/-- A part of the state that a diagnostic text can show. -/
inductive StateSection where
  | statements
  | messages
  | bindings
  | engine
  deriving DecidableEq, Repr

namespace StateSection

/-- Every section. -/
def all : List StateSection := [statements, messages, bindings, engine]

/-- The written name of a section. -/
def name : StateSection → String
  | statements => "statements"
  | messages => "messages"
  | bindings => "variables"
  | engine => "vm"

/-- The word for all sections. -/
def everything : String := "all"

/-- The sections that a word names. -/
def ofWord (word : String) : Except RunError (List StateSection) :=
  if word = everything then .ok all
  else
    match all.find? fun part => part.name == word with
    | some part => .ok [part]
    | none =>
      .error (.invalidArgument ("unknown .debug section '" ++ word ++ "'; expected one of "
        ++ ", ".intercalate (all.map name) ++ ", " ++ everything))

/-- The words between commas and blanks. -/
def wordsOf (payload : List Char) : List String :=
  let pieces := payload.foldr (fun c pieces =>
    if c = ',' || Text.isBlank c then [] :: pieces
    else
      match pieces with
      | piece :: later => (c :: piece) :: later
      | [] => [[c]]) [[]]
  (pieces.filter (!·.isEmpty)).map String.ofList

/-- The words of a payload: a JSON list of strings, or words between commas and blanks. -/
def readWords (payload : List Char) : Except RunError (List String) :=
  match payload with
  | [] => .ok [everything]
  | '[' :: _ =>
    (Json.parseStrings (String.ofList payload)).mapError fun fault =>
      .invalidArgument ("bad .debug list: " ++ fault.message)
  | _ => .ok (wordsOf payload)

/-- The sections that a payload asks for. -/
def ofPayload (payload : String) : Except RunError (List StateSection) := do
  let words ← readWords (Text.dropAround payload.toList)
  return (← words.mapM ofWord).flatten

end StateSection

/-- The patterns of files to delete: a JSON list of strings, or one pattern. -/
def readPatterns (payload : String) : Except RunError (List String) :=
  match Text.dropAround payload.toList with
  | [] => .ok []
  | '[' :: rest =>
    (Json.parseStrings (String.ofList ('[' :: rest))).mapError fun fault =>
      .invalidArgument ("bad .clear list: " ++ fault.message)
  | pattern => .ok [String.ofList pattern]

end PromptScript
