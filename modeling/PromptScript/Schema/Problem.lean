import PromptScript.Decimal.Shortest
import PromptScript.Expression.Matcher
import PromptScript.Json.Printer
import PromptScript.Text.Utf8

/-!
# Problems of values

What a schema finds wrong with a value, where in the value, and in which words.
-/

namespace PromptScript.Schema

/-- What can be too few or too many. -/
inductive Measure where
  | characters
  | items
  | properties
  deriving DecidableEq, Repr

/-- How a number misses a limit. -/
inductive Bound where
  | below
  | above
  /-- The limit itself is missed, too. -/
  | atMost
  | atLeast
  deriving DecidableEq, Repr

/-- What is wrong with a value. -/
inductive Flaw where
  | kind (value : Json) (expected : List String)
  | missing (property : String)
  | notListed (value options : Json)
  | notConstant (expected : Json)
  | outside (bound : Bound) (value limit : Json)
  | notMultiple (value : Json) (divisor : Float)
  | short (measure : Measure) (value : Json) (limit : Nat)
  | long (measure : Measure) (value : Json) (limit : Nat)
  | noMatch (value : Json) (pattern : String)
  /-- The search for an expression was given up. -/
  | noSearch (fault : Expression.SearchFault)
  | badFormat (value : Json) (format : String)
  | badEncoding (value : Json) (encoding : String)
  | badMedia (value : Json) (media : String)
  /-- What an encoded text stands for is no text. -/
  | noText (fault : Text.Utf8Fault)
  | twins (value : Json)
  | containsNone (value : Json)
  | additional (properties : List String)
  | surplus (items : List Json)
  | unevaluated (what : Measure) (names : List String)
  | refused (value : Json)
  | noneOf (keyword : String) (value : Json)
  | severalOf (value : Json)
  | forbidden (schema value : Json)
  deriving DecidableEq, Repr

namespace Measure

/-- The name of some things, in the singular for one. -/
def noun (count : Nat) : Measure → String
  | characters => if count = 1 then "character" else "characters"
  | items => if count = 1 then "item" else "items"
  | properties => if count = 1 then "property" else "properties"

end Measure

/-- Names in quotes with commas between them. -/
def quotedNames (mark : String) (names : List String) : String :=
  ", ".intercalate (names.map fun name => mark ++ name ++ mark)

/-- Names that were not expected. -/
def unexpectedNames (names : List String) : String :=
  "(" ++ quotedNames "'" names
    ++ (if names.length = 1 then " was unexpected)" else " were unexpected)")

/-- A number in positional notation, a whole one without a point. -/
def plainNumber (value : Float) : String :=
  let text := Decimal.render ⟨-400, 400, 'e', false⟩ value
  if text.endsWith ".0" then (text.dropEnd 2).toString else text

namespace Flaw

/-- The wording of a flaw. -/
def message : Flaw → String
  | kind value expected =>
    match expected with
    | [single] => value.render ++ " is not of type \"" ++ single ++ "\""
    | several => value.render ++ " is not of types " ++ quotedNames "\"" several
  | missing property => (Json.string property).render ++ " is a required property"
  | notListed value options => value.render ++ " is not one of " ++ options.render
  | notConstant expected => expected.render ++ " was expected"
  | outside .below value limit =>
    value.render ++ " is less than the minimum of " ++ limit.render
  | outside .above value limit =>
    value.render ++ " is greater than the maximum of " ++ limit.render
  | outside .atMost value limit =>
    value.render ++ " is less than or equal to the minimum of " ++ limit.render
  | outside .atLeast value limit =>
    value.render ++ " is greater than or equal to the maximum of " ++ limit.render
  | notMultiple value divisor => value.render ++ " is not a multiple of " ++ plainNumber divisor
  | short .characters value limit =>
    value.render ++ " is shorter than " ++ toString limit ++ " " ++ Measure.characters.noun limit
  | short measure value limit =>
    value.render ++ " has less than " ++ toString limit ++ " " ++ measure.noun limit
  | long .characters value limit =>
    value.render ++ " is longer than " ++ toString limit ++ " " ++ Measure.characters.noun limit
  | long measure value limit =>
    value.render ++ " has more than " ++ toString limit ++ " " ++ measure.noun limit
  | noMatch value pattern => value.render ++ " does not match \"" ++ pattern ++ "\""
  | noSearch fault => "Error executing regex: " ++ fault.message
  | badFormat value format => value.render ++ " is not a \"" ++ format ++ "\""
  | badEncoding value encoding =>
    value.render ++ " is not compliant with \"" ++ encoding ++ "\" content encoding"
  | badMedia value media => value.render ++ " is not compliant with \"" ++ media ++ "\" media type"
  | noText fault => fault.message
  | twins value => value.render ++ " has non-unique elements"
  | containsNone value => "None of " ++ value.render ++ " are valid under the given schema"
  | additional properties =>
    "Additional properties are not allowed " ++ unexpectedNames properties
  | surplus items =>
    "Additional items are not allowed (" ++ ", ".intercalate (items.map Json.render)
      ++ (if items.length = 1 then " was unexpected)" else " were unexpected)")
  | unevaluated .items names => "Unevaluated items are not allowed " ++ unexpectedNames names
  | unevaluated _ names => "Unevaluated properties are not allowed " ++ unexpectedNames names
  | refused value => "False schema does not allow " ++ value.render
  | noneOf keyword value =>
    value.render ++ " is not valid under any of the schemas listed in the '" ++ keyword
      ++ "' keyword"
  | severalOf value =>
    value.render ++ " is valid under more than one of the schemas listed in the 'oneOf' keyword"
  | forbidden schema value => schema.render ++ " is not allowed for " ++ value.render

end Flaw

/-- A flaw at a place, which is the list of names and numbers from the root. -/
structure Problem where
  place : List String
  flaw : Flaw
  deriving DecidableEq, Repr

/-- A name in a pointer. -/
def escapeName (name : String) : String :=
  String.ofList (name.toList.flatMap fun c =>
    if c = '~' then ['~', '0'] else if c = '/' then ['~', '1'] else [c])

/-- The pointer to a place. -/
def pointer (place : List String) : String :=
  String.join (place.map fun name => "/" ++ escapeName name)

/-- The wording of a problem with its place. -/
def Problem.message (problem : Problem) : String :=
  problem.flaw.message ++ " at " ++ pointer problem.place

end PromptScript.Schema
