import PromptScript.Json.Reader
import PromptScript.RunError
import PromptScript.Text.Basic

/-!
# Function calls in scripts

A script calls a function by `name(key=value, ...)`, where values may stand in quotes, or by
`name(object)` with a JSON object.  An arrow and a variable behind the call say where the answer
goes.
-/

namespace PromptScript

/-- A call that a script writes. -/
structure Invocation where
  name : String
  arguments : Json
  /-- The variable that takes the answer. -/
  target : Option String
  deriving DecidableEq, Repr

namespace Invocation

/-- Whether a character opens and closes quoted text. -/
def isQuote (c : Char) : Bool :=
  c == '"' || c == '\''

/-- The pieces of a text between commas outside quotes.  A quote that is never closed goes on to
the end. -/
def splitOutsideQuotes (quote : Option Char) : List Char → List (List Char)
  | [] => [[]]
  | c :: rest =>
    if quote.isNone ∧ c = ',' then [] :: splitOutsideQuotes none rest
    else
      let next := match quote with
        | some mark => if c = mark then none else some mark
        | none => if isQuote c then some c else none
      match splitOutsideQuotes next rest with
      | piece :: pieces => (c :: piece) :: pieces
      | [] => [[c]]

/-- The text inside quotes, where a text begins and ends with the same quote. -/
def unquoteWith? (mark : Char) (text : List Char) : Option (List Char) :=
  match text with
  | first :: second :: rest =>
    if first = mark ∧ (second :: rest).getLast? = some mark then some (second :: rest).dropLast
    else none
  | _ => none

/-- The text without quotes around it. -/
def unquote (text : List Char) : List Char :=
  ((unquoteWith? '"' text).orElse fun _ => unquoteWith? '\'' text).getD text

/-- The texts before and behind the last occurrence of a character. -/
def cutAtLast? (mark : Char) (text : List Char) : Option (List Char × List Char) :=
  (Text.cutAt? mark text.reverse).map fun (behind, before) => (before.reverse, behind.reverse)

/-- The arguments that pairs of keys and values write. -/
def pairArguments (inner : List Char) : Except String Json := do
  let pieces := ((splitOutsideQuotes none inner).map Text.dropAround).filter (!·.isEmpty)
  let pairs ← pieces.mapM fun piece =>
    match Text.cutAt? '=' piece with
    | none => throw "arguments must be key=value"
    | some (key, value) =>
      let key := Text.dropAround key
      if key.isEmpty then throw "empty argument name"
      else return (String.ofList key,
        Json.string (String.ofList (unquote (Text.dropAround value))))
  return .ofMembers pairs

/-- The arguments between the parentheses. -/
def readArguments (inner : List Char) : Except String Json :=
  match inner with
  | '\x7b' :: _ =>
    match Json.parse (String.ofList inner) with
    | .error fault => .error fault.message
    | .ok (.object members) => .ok (.object members)
    | .ok _ => .error "arguments must be an object"
  | _ => pairArguments inner

/-- The variable that the text behind a call names. -/
def readTarget (tail : List Char) : Except String (Option String) :=
  if tail.isEmpty then .ok none
  else
    match (Text.dropLead? ['-', '>'] tail).map Text.dropAround with
    | some (first :: rest) => .ok (some (String.ofList (first :: rest)))
    | _ => .error "expected '-> variable' after the argument list"

/-- The call that a text without blanks around it writes, or what is wrong with it. -/
def read (text : List Char) : Except String Invocation := do
  let (before, behind) ← match Text.cutAt? '(' text with
    | some cut => pure cut
    | none => throw "expected name(...)"
  let (inner, tail) ← match cutAtLast? ')' behind with
    | some cut => pure cut
    | none => throw "missing ')'"
  let name := Text.dropAround before
  if name.isEmpty then throw "missing function name"
  let target ← readTarget (Text.dropAround tail)
  let arguments ← readArguments (Text.dropAround inner)
  return ⟨String.ofList name, arguments, target⟩

/-- The call that a text writes. -/
def ofText (text : String) : Except RunError Invocation :=
  let trimmed := Text.trim text
  (read trimmed.toList).mapError fun reason =>
    .invalidArgument ("bad .cmd '" ++ trimmed ++ "': " ++ reason)

end Invocation

end PromptScript
