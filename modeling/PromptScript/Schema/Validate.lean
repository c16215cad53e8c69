import PromptScript.Schema.Apply

/-!
# Checking values

All problems that a schema finds in a value, and which schemas can be used for that.  The members of
a schema are looked at in the order of their names, which is the order of the problems.  A schema
can be used if it names a known draft or none, keeps the rules of its draft, and has only references
that lead somewhere and patterns that can be read.
-/

namespace PromptScript.Schema

/-! ## Problems of values -/

/-- Whether a draft looks at a member of a schema. -/
def Draft.knows (draft : Draft) (keyword : String) : Bool :=
  match keyword with
  | "const" | "contains" | "propertyNames" | "exclusiveMinimum" | "exclusiveMaximum" =>
    draft != .four
  | "if" => draft != .four && draft != .six
  | "contentEncoding" | "contentMediaType" => draft.checksContents
  | "dependentRequired" | "dependentSchemas" | "unevaluatedProperties" | "unevaluatedItems" =>
    !draft.referencesStandAlone
  | "prefixItems" => draft == .year2020
  | _ => true

/-- The problems by a member of a schema that looks at no other schema. -/
def checkAlone (draft : Draft) (schema : List (String × Json)) (keyword : String)
    (argument value : Json) (place : List String) : List Problem :=
  match keyword with
  | "type" => checkKind draft argument value place
  | "enum" =>
    demand ((itemsOf argument).any value.same) place (.notListed value argument)
  | "const" => demand (isConstant argument value) place (.notConstant argument)
  | "minimum" =>
    if draft = .four ∧ Json.lookup? "exclusiveMinimum" schema = some (.bool true) then
      checkBound .atMost argument value place
    else checkBound .below argument value place
  | "maximum" =>
    if draft = .four ∧ Json.lookup? "exclusiveMaximum" schema = some (.bool true) then
      checkBound .atLeast argument value place
    else checkBound .above argument value place
  | "exclusiveMinimum" => checkBound .atMost argument value place
  | "exclusiveMaximum" => checkBound .atLeast argument value place
  | "multipleOf" => checkMultiple argument value place
  | "minLength" => checkLeast .characters argument value place
  | "maxLength" => checkMost .characters argument value place
  | "minItems" => checkLeast .items argument value place
  | "maxItems" => checkMost .items argument value place
  | "minProperties" => checkLeast .properties argument value place
  | "maxProperties" => checkMost .properties argument value place
  | "pattern" => checkPattern argument value place
  | "format" => checkFormat draft argument value place
  | "contentEncoding" => checkEncoding schema argument value place
  | "contentMediaType" => checkMedia schema argument value place
  | "uniqueItems" => checkUnique argument value place
  | "required" => checkRequired (textsOf argument) value place
  | _ => []

/-- The problems by a member of a schema that may apply other schemas. -/
def checkMember (judge : Judge) (scope : Scope) (schema : List (String × Json)) (keyword : String)
    (argument value : Json) (place : List String) : List Problem :=
  let inner (rule : Json) : Json → List String → List Problem := judge (scope.within rule) rule
  if !scope.draft.knows keyword then []
  else
    match keyword with
    | "properties" => checkProperties inner schema argument value place
    | "patternProperties" => checkPatternProperties inner schema argument value place
    | "additionalProperties" => checkAdditional inner schema argument value place
    | "propertyNames" => checkNames inner argument value place
    | "items" => checkItems inner scope.draft schema argument value place
    | "prefixItems" => checkFirstItems inner (itemsOf argument) value place
    | "additionalItems" => checkAdditionalItems inner schema argument value place
    | "contains" => checkContains inner scope.draft schema argument value place
    | "allOf" => (itemsOf argument).flatMap fun rule => inner rule value place
    | "anyOf" =>
      demand ((itemsOf argument).any fun rule => holds inner rule value) place
        (.noneOf "anyOf" value)
    | "oneOf" => checkOneOf inner argument value place
    | "not" => demand (!holds inner argument value) place (.forbidden argument value)
    | "if" => checkConditional inner schema argument value place
    | "dependencies" | "dependentRequired" | "dependentSchemas" =>
      checkDependencies inner argument value place
    | "unevaluatedProperties" => checkUnseenProperties judge scope schema argument value place
    | "unevaluatedItems" => checkUnseenItems judge scope schema argument value place
    | _ => checkAlone scope.draft schema keyword argument value place

/-- The members of a schema that count. -/
def Draft.counted (draft : Draft) (members : List (String × Json)) : List (String × Json) :=
  if draft.referencesStandAlone && (Json.lookup? "$ref" members).isSome then
    members.filter fun (keyword, _) => keyword == "$ref"
  else members

/-- All problems of a value by a schema.  The fuel bounds the depth of schemas within schemas. -/
def evaluate : Nat → Judge
  | 0, _, _, _, _ => []
  | fuel + 1, scope, schema, value, place =>
    match schema with
    | .bool false => [⟨place, .refused value⟩]
    | .object members =>
      (scope.draft.counted members).flatMap fun (keyword, argument) =>
        match scope.draft.referenceKind? keyword, argument.asString? with
        | some kind, some reference =>
          match scope.follow kind reference with
          | .ok (there, target) => evaluate fuel there target value place
          | .error _ => []
        | some _, none => []
        | none, _ => checkMember (evaluate fuel) scope members keyword argument value place
    | _ => []

/-! ## Schemas that can be used -/

/-- The greatest depth of schemas within schemas. -/
def maxDepth : Nat := 1000

/-- Why a schema cannot be used. -/
inductive SchemaFault where
  | breaksRules (flaw : Flaw)
  | badReference (fault : ReferenceFault)
  | badPattern (pattern : String)
  deriving DecidableEq, Repr

/-- The wording of a fault of a schema. -/
def SchemaFault.message : SchemaFault → String
  | breaksRules flaw => flaw.message
  | badReference fault => fault.message
  | badPattern pattern => (Json.string pattern).render ++ " is not a \"regex\""

/-- A fault of a reference as one of the schema. -/
def asFault {Found : Type} : Except ReferenceFault Found → Except SchemaFault Found
  | .ok found => .ok found
  | .error fault => .error (.badReference fault)

/-- The scope of a schema of a draft by itself. -/
def scopeOf (draft : Draft) (schema : Json) : Except ReferenceFault Scope := do
  let address ← addressOfText ((draft.addressOf? schema).getD defaultAddress.render)
  let library ← Library.ofSchema address ⟨draft, schema⟩
  return ⟨library, draft, address, []⟩

/-- The first rule of its draft that a schema breaks. -/
def brokenRule? (draft : Draft) (schema : Json) : Option Flaw :=
  match addressOfText draft.rulesAddress with
  | .error _ => none
  | .ok address =>
    (evaluate maxDepth ⟨Library.ofDrafts, draft, address, []⟩ draft.rules schema []).head?.map
      (·.flaw)

/-- The patterns of a member of a schema. -/
def patternsOf (keyword : String) (argument : Json) : List String :=
  match keyword, argument with
  | "pattern", .string pattern => [pattern]
  | "patternProperties", .object members => members.map (·.1)
  | _, _ => []

/-- The schemas inside a member of a schema that are read with it. -/
def partsOf (schema : List (String × Json)) (keyword : String) (argument : Json) : List Json :=
  match keyword with
  | "additionalProperties" | "additionalItems" | "contains" | "items" | "not" | "propertyNames"
  | "unevaluatedItems" | "unevaluatedProperties" =>
    match argument with
    | .array rules => rules
    | rule => [rule]
  | "allOf" | "anyOf" | "oneOf" | "prefixItems" => itemsOf argument
  | "properties" | "patternProperties" | "dependentSchemas" | "dependencies" =>
    (membersOf argument).map (·.2)
  | "if" =>
    let branches := ["then", "else"].filterMap fun branch => Json.lookup? branch schema
    if branches.isEmpty then [] else argument :: branches
  | _ => []

/-- The members of a schema in the order in which they are read: where the schema for additional
properties takes over the rules of all properties, these are read before it. -/
def readingOrder (members : List (String × Json)) : List (String × Json) :=
  if additionalLeads members then
    let names := ["patternProperties", "properties", "additionalProperties"]
    members.flatMap fun (keyword, argument) =>
      if keyword == "additionalProperties" then
        names.filterMap fun name => (Json.lookup? name members).map fun value => (name, value)
      else if names.contains keyword then []
      else [(keyword, argument)]
  else members

/-- Looks for references that lead nowhere and patterns that cannot be read, in a schema and in
those that it refers to.  What references mean is kept, so that each is followed once. -/
def checkReferences : Nat → Scope → List Uri → Json → Except SchemaFault (List Uri)
  | 0, _, followed, _ => .ok followed
  | fuel + 1, scope, followed, .object members =>
    (readingOrder (scope.draft.counted members)).foldlM (fun followed (keyword, argument) =>
      match scope.draft.referenceKind? keyword, argument.asString? with
      | some kind, some reference => do
        let address ← asFault (resolveAgainst scope.base reference)
        if followed.contains address then return followed
        else
          let (there, target) ← asFault (scope.follow kind reference)
          checkReferences fuel there (address :: followed) target
      | some _, none => .ok followed
      | none, _ =>
        if !scope.draft.knows keyword then .ok followed
        else
          match (patternsOf keyword argument).find? fun pattern => (Matcher.read? pattern).isNone with
          | some pattern => .error (.badPattern pattern)
          | none =>
            (partsOf members keyword argument).foldlM (fun followed part => do
              checkReferences fuel (← asFault (scope.enter part)) followed part) followed) followed
  | _, _, followed, _ => .ok followed

/-- The problems of a value by a schema, which must be one that can be used. -/
def validate (schema value : Json) : Except SchemaFault (List Problem) := do
  let draft ← match Draft.year2020.named schema with
    | .ok draft => pure draft
    | .error address => throw (.badReference (.unknownDraft address))
  let scope ← asFault (scopeOf draft schema)
  if let some flaw := brokenRule? draft schema then throw (.breaksRules flaw)
  let inside ← asFault (scope.enter schema)
  let _ ← checkReferences maxDepth inside [] schema
  return evaluate maxDepth inside schema value []

end PromptScript.Schema
