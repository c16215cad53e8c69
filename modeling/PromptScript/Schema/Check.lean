import PromptScript.Expression.Matcher
import PromptScript.Json.Exact
import PromptScript.Json.Reader
import PromptScript.Schema.Draft
import PromptScript.Schema.Format
import PromptScript.Schema.Problem
import PromptScript.Text.Base64

/-!
# Members that check values by themselves

The checks of a value by one member of a schema that looks at no other schema.  Every draft checks
the oldest formats of texts, later drafts check more; a format without a check admits every text.
-/

namespace PromptScript.Schema

open Format

/-- The check of a format that all drafts have. -/
def oldFormat? : String → Option (String → Bool)
  | "date" => some fun text => isDate text.toList
  | "date-time" => some fun text => isMoment text.toList
  | "time" => some fun text => isTime text.toList
  | "email" => some fun text => isMailbox isHostname text.toList
  | "idn-email" => some fun text => isMailbox isInternationalHostname text.toList
  | "hostname" => some fun text => isHostname text.toList
  | "ipv4" => some fun text => Uri.isVersionFour text.toList
  | "ipv6" => some fun text => Uri.isVersionSix text.toList
  | "regex" => some Matcher.isExpression
  | "uri" => some (Uri.isAbsolute .ascii)
  | _ => none

/-- The check of a format that came with the draft with the number six. -/
def pointingFormat? : String → Option (String → Bool)
  | "json-pointer" => some fun text => isPointer text.toList
  | "uri-reference" => some (Uri.isReference .ascii)
  | "uri-template" => some fun text => isTemplate text.toList
  | _ => none

/-- The check of a format that came with the draft with the number seven. -/
def internationalFormat? : String → Option (String → Bool)
  | "idn-hostname" => some fun text => isInternationalHostname text.toList
  | "iri" => some (Uri.isAbsolute .international)
  | "iri-reference" => some (Uri.isReference .international)
  | "relative-json-pointer" => some fun text => isRelativePointer text.toList
  | _ => none

/-- The check of a format by a draft. -/
def Draft.format? (draft : Draft) (format : String) : Option (String → Bool) :=
  match draft with
  | four => oldFormat? format
  | six => (oldFormat? format).orElse fun _ => pointingFormat? format
  | seven => (oldFormat? format).orElse fun _ =>
    (pointingFormat? format).orElse fun _ => internationalFormat? format
  | year2019 | year2020 => none

/-- The schemas of a list. -/
def itemsOf (argument : Json) : List Json :=
  argument.asArray?.getD []

/-- The members of an object. -/
def membersOf (argument : Json) : List (String × Json) :=
  argument.asObject?.getD []

/-- The texts of a list. -/
def textsOf (argument : Json) : List String :=
  (itemsOf argument).filterMap Json.asString?

/-- One problem, unless a condition holds. -/
def demand (holds : Bool) (place : List String) (flaw : Flaw) : List Problem :=
  if holds then [] else [⟨place, flaw⟩]

/-! ## Kinds and limits -/

/-- Whether a number is of the kind of whole numbers.  The oldest draft goes by how it is
written. -/
def isInteger (draft : Draft) (value : Number) : Bool :=
  match draft, value with
  | .four, .float _ => false
  | _, _ => value.isWhole

/-- The names of the kinds that a value has. -/
def kindsOf (draft : Draft) : Json → List String
  | .null => ["null"]
  | .bool _ => ["boolean"]
  | .number value => if isInteger draft value then ["number", "integer"] else ["number"]
  | .string _ => ["string"]
  | .array _ => ["array"]
  | .object _ => ["object"]

def checkKind (draft : Draft) (argument value : Json) (place : List String) : List Problem :=
  let wanted := match argument with
    | .string kind => [kind]
    | other => (textsOf other).eraseDups.mergeSort fun a b => !(b < a)
  demand (wanted.any (kindsOf draft value).contains) place (.kind value wanted)

/-- The greatest length that a limit can be. -/
def maxLimit : Nat := 0xffffffffffffffff

/-- The length that a limit writes. -/
def limitOf? : Json → Option Nat
  | .number value =>
    if value.isWhole then some (min value.exact.floor.toNat maxLimit) else none
  | _ => none

def checkBound (bound : Bound) (argument value : Json) (place : List String) : List Problem :=
  match value, argument with
  | .number x, .number limit =>
    let holds := match bound, x.order limit with
      | .below, order => order != .lt
      | .above, order => order != .gt
      | .atMost, order => order == .gt
      | .atLeast, order => order == .lt
    demand holds place (.outside bound value argument)
  | _, _ => []

/-- The smallest difference from one that a binary64 number can show. -/
def epsilon : Float := Float.ofBits 0x3CB0000000000000

/-- Whether one number goes into another without a rest. -/
def divides (divisor value : Dyadic) : Bool :=
  let exponent := min divisor.exponent value.exponent
  (value.scaled exponent).tmod (divisor.scaled exponent) == 0

/-- Whether the shortest decimal of one number goes into that of another without a rest. -/
def dividesShortest (divisor value : Float) : Bool :=
  let d := Decimal.shortest (Decimal.magnitude divisor)
  let v := Decimal.shortest (Decimal.magnitude value)
  let exponent := min d.exponent v.exponent
  let scaled (x : Decimal.Digits) := x.digits * Nat.pow 10 (x.exponent - exponent).toNat
  scaled v % scaled d == 0

/-- Whether a binary64 number is a multiple of a divisor.  For a divisor that is not whole the
rounded quotient decides, unless it is too large: then the numbers as written decide. -/
def isMultiple (value divisor : Float) : Bool :=
  let quotient := value / divisor
  if (Dyadic.ofFloat divisor).isWhole then divides (.ofFloat divisor) (.ofFloat value)
  else if !quotient.isFinite then dividesShortest divisor value
  else quotient - (if quotient < 0 then quotient.ceil else quotient.floor) < epsilon

def checkMultiple (argument value : Json) (place : List String) : List Problem :=
  match value.asFloat?, argument.asFloat? with
  | some x, some divisor => demand (isMultiple x divisor) place (.notMultiple value divisor)
  | _, _ => []

/-- How much of a measure a value has. -/
def amountOf? (measure : Measure) (value : Json) : Option Nat :=
  match measure, value with
  | .characters, .string text => some text.length
  | .items, .array items => some items.length
  | .properties, .object members => some members.length
  | _, _ => none

def checkLeast (measure : Measure) (argument value : Json) (place : List String) : List Problem :=
  match amountOf? measure value, limitOf? argument with
  | some amount, some limit => demand (limit ≤ amount) place (.short measure value limit)
  | _, _ => []

def checkMost (measure : Measure) (argument value : Json) (place : List String) : List Problem :=
  match amountOf? measure value, limitOf? argument with
  | some amount, some limit => demand (amount ≤ limit) place (.long measure value limit)
  | _, _ => []

/-! ## Given values and names -/

/-- Whether a value is a given one.  Two numbers are compared as binary64 numbers and may differ
by a little; numbers within lists and objects may not. -/
def isConstant (expected value : Json) : Bool :=
  match expected, value with
  | .number _, .number _ =>
    match expected.asFloat?, value.asFloat? with
    | some x, some y => (x - y).abs < epsilon
    | _, _ => false
  | _, _ => value.same expected

def checkUnique (argument value : Json) (place : List String) : List Problem :=
  match argument, value with
  | .bool true, .array items => demand (!Json.hasTwins items) place (.twins value)
  | _, _ => []

/-- The problems of names that an object must have. -/
def checkRequired (names : List String) (value : Json) (place : List String) : List Problem :=
  match value with
  | .object members =>
    names.flatMap fun name =>
      demand (Json.lookup? name members).isSome place (.missing name)
  | _ => []

/-! ## Texts -/

/-- Whether a text matches an expression, if the expression can be read and the search comes to an
end. -/
def search? (pattern text : String) : Option (Except Expression.SearchFault Bool) :=
  (Matcher.read? pattern).map fun matcher => matcher.occursIn text

/-- Whether a name matches an expression; where the search is given up it does not. -/
def matchesName (pattern name : String) : Bool :=
  match search? pattern name with
  | some (.ok found) => found
  | _ => false

def checkPattern (argument value : Json) (place : List String) : List Problem :=
  match value, argument with
  | .string text, .string pattern =>
    match search? pattern text with
    | some (.error fault) => [⟨place, .noSearch fault⟩]
    | some (.ok true) => []
    | _ => [⟨place, .noMatch value pattern⟩]
  | _, _ => []

def checkFormat (draft : Draft) (argument value : Json) (place : List String) : List Problem :=
  match value, argument with
  | .string text, .string format =>
    match draft.format? format with
    | some holds => demand (holds text) place (.badFormat value format)
    | none => []
  | _, _ => []

/-- Whether a draft looks at what texts contain. -/
def Draft.checksContents (draft : Draft) : Bool :=
  draft == .six || draft == .seven

/-- Whether a text is of a type of media; only one type is known. -/
def isOfMedia (text : String) : Bool :=
  (Json.parse? text).isSome

/-- The name of the type of media that is known. -/
def knownMedia : String := "application/json"

/-- The name of the encoding that is known. -/
def knownEncoding : String := "base64"

def checkEncoding (schema : List (String × Json)) (argument value : Json) (place : List String) :
    List Problem :=
  match value with
  | .string text =>
    if (Json.lookup? "contentMediaType" schema).isSome || argument != .string knownEncoding then []
    else demand (Text.Base64.decode? text).isSome place (.badEncoding value knownEncoding)
  | _ => []

def checkMedia (schema : List (String × Json)) (argument value : Json) (place : List String) :
    List Problem :=
  match value with
  | .string text =>
    if argument != .string knownMedia then []
    else
      match Json.lookup? "contentEncoding" schema with
      | none => demand (isOfMedia text) place (.badMedia value knownMedia)
      | some encoding =>
        if encoding != .string knownEncoding then []
        else
          match Text.Base64.decode? text with
          | none => [⟨place, .badEncoding value knownEncoding⟩]
          | some bytes =>
            match Text.utf8Fault? (bytes.length + 1) 0 bytes with
            | some fault => [⟨[], .noText fault⟩]
            | none =>
              demand ((Text.ofBytes? bytes).any isOfMedia) place (.badMedia value knownMedia)
  | _ => []

end PromptScript.Schema
