import PromptScript.Schema.Check
import PromptScript.Schema.Reference

/-!
# Schemas within schemas

The members of a schema that apply other schemas, and what they look at.
-/

namespace PromptScript.Schema

/-!
## What no other member looked at

Which properties and items of a value the members of a schema look at, also those of the schemas
that the schema applies to the whole value.  A combination of schemas looks only where the value
satisfies it: all of the schemas where all are needed, one where one is.
-/

/-- A check of a value, which stands at a place, by a schema in a scope. -/
abbrev Judge := Scope → Json → Json → List String → List Problem

variable (judge : Judge)

namespace Scope

/-- The scope of a schema that stands in another one; a schema whose address cannot be read leaves
the scope as it is. -/
def within (scope : Scope) (schema : Json) : Scope :=
  match scope.enter schema with
  | .ok inner => inner
  | .error _ => scope

/-- The schema that a member of a schema refers to, if it refers and leads somewhere. -/
def target? (scope : Scope) (keyword : String) (argument : Json) : Option (Scope × Json) := do
  let kind ← scope.draft.referenceKind? keyword
  (scope.follow kind (← argument.asString?)).toOption

end Scope

/-- Whether a value satisfies a schema that stands in another one. -/
def accepts (scope : Scope) (schema value : Json) : Bool :=
  (judge (scope.within schema) schema value []).isEmpty

/-- What the alternatives of a combination see, where each alternative is told whether the value
satisfies it. -/
def seenByOne {Seen : Type} (alternatives : List (Bool × Seen)) : List Seen :=
  if (alternatives.filter (·.1)).length == 1 then alternatives.map (·.2) else []

/-- What the schemas see that a value has to satisfy together. -/
def seenByAll {Seen : Type} (alternatives : List (Bool × Seen)) : List Seen :=
  if alternatives.all (·.1) then alternatives.map (·.2) else []

/-- What the schemas see that the value satisfies. -/
def seenBySome {Seen : Type} (alternatives : List (Bool × Seen)) : List Seen :=
  (alternatives.filter (·.1)).map (·.2)

/-! ### Properties -/

/-- The names of the properties that some member of a schema looks at.  The fuel bounds the depth
of schemas within schemas. -/
def seenProperties : Nat → Scope → Json → Json → List String
  | 0, _, _, _ => []
  | fuel + 1, scope, .object schema, value =>
    let properties := membersOf value
    let deeper (rule : Json) : List String :=
      seenProperties fuel (scope.within rule) rule value
    let alternatives (argument : Json) : List (Bool × List String) :=
      (itemsOf argument).map fun rule => (accepts judge scope rule value, deeper rule)
    let valid (rule : Json) : List String :=
      (properties.filter fun (_, property) => accepts judge scope rule property).map (·.1)
    schema.flatMap fun (keyword, argument) =>
      match keyword with
      | "properties" =>
        (properties.filter fun (name, property) =>
          match argument.member? name with
          | some rule => accepts judge scope rule property
          | none => false).map (·.1)
      | "patternProperties" =>
        (properties.filter fun (name, _) =>
          (membersOf argument).any fun (pattern, _) => matchesName pattern name).map (·.1)
      | "additionalProperties" | "unevaluatedProperties" => valid argument
      | "allOf" => (seenByAll (alternatives argument)).flatten
      | "anyOf" => (seenBySome (alternatives argument)).flatten
      | "oneOf" => (seenByOne (alternatives argument)).flatten
      | "if" =>
        if accepts judge scope argument value then
          deeper argument ++ ((Json.lookup? "then" schema).map deeper).getD []
        else ((Json.lookup? "else" schema).map deeper).getD []
      | "dependentSchemas" =>
        (membersOf argument).flatMap fun (name, rule) =>
          if (value.member? name).isSome then deeper rule else []
      | _ =>
        match scope.target? keyword argument with
        | some (there, rule) => seenProperties fuel there rule value
        | none => []
  | _, _, _, _ => []

/-! ### Items -/

/-- For every item whether one of two looks sees it. -/
def eitherSees (left right : List Bool) : List Bool :=
  left.zipWith (· || ·) right

/-- For every item of a list whether some member of a schema looks at it.  The fuel bounds the
depth of schemas within schemas. -/
def seenItems : Nat → Scope → Json → List Json → List Bool
  | 0, _, _, items => items.map fun _ => false
  | fuel + 1, scope, .object schema, items =>
    let nothing : List Bool := items.map fun _ => false
    let every : List Bool := items.map fun _ => true
    let first (count : Nat) : List Bool := items.zipIdx.map fun (_, place) => place < count
    let value := Json.array items
    let deeper (rule : Json) : List Bool := seenItems fuel (scope.within rule) rule items
    let alternatives (argument : Json) : List (Bool × List Bool) :=
      (itemsOf argument).map fun rule => (accepts judge scope rule value, deeper rule)
    let union (looks : List (List Bool)) : List Bool := looks.foldl eitherSees nothing
    let valid (rule : Json) : List Bool := items.map (accepts judge scope rule)
    union <| schema.map fun (keyword, argument) =>
      match keyword with
      | "prefixItems" =>
        if scope.draft = .year2020 then first (itemsOf argument).length else nothing
      | "items" =>
        match argument with
        | .array rules =>
          if (Json.lookup? "additionalItems" schema).isSome then every else first rules.length
        | _ => every
      | "contains" => if scope.draft = .year2020 then valid argument else nothing
      | "unevaluatedItems" => valid argument
      | "allOf" => union (seenByAll (alternatives argument))
      | "anyOf" => union (seenByAll (alternatives argument))
      | "oneOf" => union (seenByOne (alternatives argument))
      | "if" =>
        if accepts judge scope argument value then
          union (deeper argument :: ((Json.lookup? "then" schema).map deeper).toList)
        else union ((Json.lookup? "else" schema).map deeper).toList
      | _ =>
        match scope.target? keyword argument with
        | some (there, rule) => seenItems fuel there rule items
        | none => nothing
  | _, _, _, items => items.map fun _ => false

/-! ### The members -/

/-- The depth to which schemas are followed for what they look at. -/
def seenDepth : Nat := 200

def checkUnseenProperties (scope : Scope) (schema : List (String × Json)) (argument value : Json)
    (place : List String) : List Problem :=
  let others := schema.filter fun (keyword, _) => keyword != "unevaluatedProperties"
  let seen := seenProperties judge seenDepth scope (.object others) value
  let unseen := (membersOf value).filter fun (name, property) =>
    !seen.contains name && !accepts judge scope argument property
  demand unseen.isEmpty place (.unevaluated .properties (unseen.map (·.1)))

def checkUnseenItems (scope : Scope) (schema : List (String × Json)) (argument value : Json)
    (place : List String) : List Problem :=
  let others := schema.filter fun (keyword, _) => keyword != "unevaluatedItems"
  let items := itemsOf value
  let seen := seenItems judge seenDepth scope (.object others) items
  let unseen := (items.zip seen).filter fun (item, isSeen) =>
    !isSeen && !accepts judge scope argument item
  demand unseen.isEmpty place (.unevaluated .items (unseen.map fun (item, _) => item.render))

end PromptScript.Schema

namespace PromptScript.Schema

/-!
## Members that apply schemas

The checks of a value by one member of a schema that applies other schemas, to the value or to its
properties and items.
-/

variable (inner : Json → Json → List String → List Problem)

/-- Whether a value has no problem by a schema. -/
def holds (schema value : Json) : Bool :=
  (inner schema value []).isEmpty

/-! ### Properties -/

/-- The problems of a property by the patterns for its name, and whether there was one. -/
def checkByPatterns (patterns : List (String × Json)) (name : String) (value : Json)
    (place : List String) : Bool × List Problem :=
  let applying := patterns.filter fun (pattern, _) => matchesName pattern name
  (!applying.isEmpty, applying.flatMap fun (_, schema) => inner schema value (place ++ [name]))

/-- The problems of the properties of an object by their own schemas, by patterns for their names,
and by a schema for all others.  A schema that refuses everything is reported once for all the
others, except where no property has rules of its own. -/
def checkAdditional (schema : List (String × Json)) (argument value : Json)
    (place : List String) : List Problem :=
  let own := membersOf ((Json.lookup? "properties" schema).getD .null)
  let patterns := membersOf ((Json.lookup? "patternProperties" schema).getD .null)
  let hasRules := (Json.lookup? "properties" schema).isSome
    || (Json.lookup? "patternProperties" schema).isSome
  let refusesAll := argument == Json.bool false
  match value with
  | .object members =>
    if argument == Json.bool true then []
    else if refusesAll && !hasRules then
      match members with
      | (_, first) :: _ => [⟨place, .refused first⟩]
      | [] => []
    else
      let judged := members.map fun (name, property) =>
        let (matched, byPattern) := checkByPatterns inner patterns name property place
        match Json.lookup? name own with
        | some schema => (true, name, inner schema property (place ++ [name]) ++ byPattern)
        | none =>
          if matched then (true, name, byPattern)
          else if refusesAll then (false, name, [])
          else (true, name, inner argument property (place ++ [name]))
      let extra := judged.filterMap fun (known, name, _) => if known then none else some name
      judged.flatMap (fun (_, _, problems) => problems)
        ++ demand extra.isEmpty place (.additional extra)
  | _ => []

/-- Whether the schema for additional properties takes over the rules of all properties. -/
def additionalLeads (schema : List (String × Json)) : Bool :=
  match Json.lookup? "additionalProperties" schema with
  | some (.bool false) | some (.object _) => true
  | _ => false

def checkProperties (schema : List (String × Json)) (argument value : Json)
    (place : List String) : List Problem :=
  if additionalLeads schema then []
  else
    (membersOf argument).flatMap fun (name, rule) =>
      match value.member? name with
      | some property => inner rule property (place ++ [name])
      | none => []

def checkPatternProperties (schema : List (String × Json)) (argument value : Json)
    (place : List String) : List Problem :=
  if additionalLeads schema then []
  else
    (membersOf argument).flatMap fun (pattern, rule) =>
      (membersOf value).flatMap fun (name, property) =>
        if matchesName pattern name then inner rule property (place ++ [name]) else []

def checkNames (argument value : Json) (place : List String) : List Problem :=
  match value with
  | .object members =>
    if argument == Json.bool false then demand members.isEmpty place (.refused value)
    else
      members.flatMap fun (name, _) =>
        (inner argument (.string name) place).map fun problem => { problem with place }
  | _ => []

/-- The problems by rules that count where a property is present. -/
def checkDependencies (argument value : Json) (place : List String) : List Problem :=
  (membersOf argument).flatMap fun (name, rule) =>
    if (value.member? name).isNone then []
    else
      match rule with
      | .array _ => checkRequired (textsOf rule) value place
      | _ => inner rule value place

/-! ### Items -/

/-- The problems of items that follow the first ones, by one schema. -/
def checkItemsFrom (first : Nat) (rule value : Json) (place : List String) : List Problem :=
  (((itemsOf value).zipIdx).drop first).flatMap fun (item, index) =>
    inner rule item (place ++ [toString index])

/-- The problems of the first items by a schema each. -/
def checkFirstItems (rules : List Json) (value : Json) (place : List String) : List Problem :=
  ((rules.zip (itemsOf value)).zipIdx).flatMap fun ((rule, item), index) =>
    inner rule item (place ++ [toString index])

def checkItems (draft : Draft) (schema : List (String × Json)) (argument value : Json)
    (place : List String) : List Problem :=
  match argument with
  | .array rules => checkFirstItems inner rules value place
  | _ =>
    let first := if draft = .year2020 then
        ((Json.lookup? "prefixItems" schema).bind Json.asArray?).elim 0 List.length
      else 0
    checkItemsFrom inner first argument value place

/-- The problems of items behind those that have rules of their own.  Where a schema refuses all
items it refuses every value. -/
def checkAdditionalItems (schema : List (String × Json)) (argument value : Json)
    (place : List String) : List Problem :=
  match Json.lookup? "items" schema with
  | some (.bool false) => [⟨place, .refused value⟩]
  | some (.array rules) =>
    match argument with
    | .bool false =>
      let surplus := (itemsOf value).drop rules.length
      demand surplus.isEmpty place (.surplus surplus)
    | .object _ => checkItemsFrom inner rules.length argument value place
    | _ => []
  | _ => []

def checkContains (draft : Draft) (schema : List (String × Json)) (argument value : Json)
    (place : List String) : List Problem :=
  match value with
  | .array items =>
    let found := (items.filter fun item => holds inner argument item).length
    let counted := draft = .year2019 ∨ draft = .year2020
    let least := if counted then (Json.lookup? "minContains" schema).bind limitOf? else none
    let most := if counted then (Json.lookup? "maxContains" schema).bind limitOf? else none
    demand (least.getD 1 ≤ found && most.all fun most => found ≤ most) place (.containsNone value)
  | _ => []

/-! ### The whole value -/

def checkOneOf (argument value : Json) (place : List String) : List Problem :=
  match ((itemsOf argument).filter fun rule => holds inner rule value).length with
  | 0 => [⟨place, .noneOf "oneOf" value⟩]
  | 1 => []
  | _ => [⟨place, .severalOf value⟩]

def checkConditional (schema : List (String × Json)) (argument value : Json)
    (place : List String) : List Problem :=
  let chosen := if holds inner argument value then "then" else "else"
  match Json.lookup? chosen schema with
  | some rule => inner rule value place
  | none => []

end PromptScript.Schema
