import PromptScript.Json.Basic

/-!
# Drafts of the schema language

The drafts that a schema can name.  They differ in the members under which schemas stand in a
schema, in how a schema gets an address or an anchor, and in what counts beside a reference.
-/

namespace PromptScript.Schema

/-- A draft of the schema language. -/
inductive Draft where
  | four
  | six
  | seven
  | year2019
  | year2020
  deriving DecidableEq, Repr, Inhabited

/-- Under which members of a schema other schemas stand. -/
structure Places where
  /-- Members that are schemas. -/
  single : List String
  /-- Members that are lists of schemas. -/
  listed : List String
  /-- Members whose members are schemas. -/
  named : List String
  deriving DecidableEq, Repr

/-- A name for a schema within its document. -/
structure AnchorName where
  name : String
  /-- Whether documents from which this one was reached can replace the schema. -/
  isDynamic : Bool
  deriving DecidableEq, Repr

namespace Draft

/-- The addresses of the drafts, without an empty fragment. -/
def addresses : List (String × Draft) :=
  [("http://json-schema.org/draft-04/schema", four),
    ("http://json-schema.org/draft-06/schema", six),
    ("http://json-schema.org/draft-07/schema", seven),
    ("https://json-schema.org/draft/2019-09/schema", year2019),
    ("https://json-schema.org/draft/2020-12/schema", year2020)]

/-- A text without the number signs at its end. -/
def withoutMarks (address : String) : String :=
  String.ofList (address.toList.reverse.dropWhile (· == '#')).reverse

/-- The draft with the given address. -/
def ofAddress? (address : String) : Option Draft :=
  addresses.lookup (withoutMarks address)

/-- The draft that a schema names, by default the given one.  An address that no draft has is an
error. -/
def named (draft : Draft) (schema : Json) : Except String Draft :=
  match (schema.member? "$schema").bind Json.asString? with
  | none => .ok draft
  | some address =>
    match ofAddress? address with
    | some named => .ok named
    | none => .error (withoutMarks address)

/-- Whether a reference stands for all of its schema, so that nothing beside it counts. -/
def referencesStandAlone : Draft → Bool
  | four | six | seven => true
  | year2019 | year2020 => false

/-- Whether formats are checked. -/
def checksFormats (draft : Draft) : Bool :=
  draft.referencesStandAlone

/-- Where schemas stand in a schema. -/
def places : Draft → Places
  | four => ⟨["additionalItems", "additionalProperties", "not"], ["allOf", "anyOf", "oneOf"],
      ["definitions", "patternProperties", "properties"]⟩
  | six => ⟨["additionalItems", "additionalProperties", "contains", "not", "propertyNames"],
      ["allOf", "anyOf", "oneOf"], ["definitions", "patternProperties", "properties"]⟩
  | seven => ⟨["additionalItems", "additionalProperties", "contains", "else", "if", "not",
      "propertyNames", "then"], ["allOf", "anyOf", "oneOf"],
      ["definitions", "patternProperties", "properties"]⟩
  | year2019 => ⟨["additionalItems", "additionalProperties", "contains", "contentSchema", "else",
      "if", "not", "propertyNames", "then", "unevaluatedItems", "unevaluatedProperties"],
      ["allOf", "anyOf", "oneOf"],
      ["$defs", "definitions", "dependentSchemas", "patternProperties", "properties"]⟩
  | year2020 => ⟨["additionalProperties", "contains", "contentSchema", "else", "if", "items",
      "not", "propertyNames", "then", "unevaluatedItems", "unevaluatedProperties"],
      ["allOf", "anyOf", "oneOf", "prefixItems"],
      ["$defs", "definitions", "dependentSchemas", "patternProperties", "properties"]⟩

/-- The schemas that stand in a schema. -/
def partsOf (draft : Draft) : Json → List Json
  | .object members =>
    members.flatMap fun (name, argument) =>
      if draft.places.single.contains name then [argument]
      else if draft.places.listed.contains name then argument.asArray?.getD []
      else if draft.places.named.contains name
          || (name == "dependencies" && draft.referencesStandAlone) then
        (argument.asObject?.getD []).map (·.2)
      else if name == "items" then argument.asArray?.getD [argument]
      else []
  | _ => []

/-- Whether names that lead from a schema to a value pass schemas only. -/
def passesSchemas (draft : Draft) (target : Json) : List String → Bool
  | [] => true
  | name :: rest =>
    if name == "items" && draft != year2020 && target.isObject then true
    else if draft.places.single.contains name then draft.passesSchemas target rest
    else if draft.places.listed.contains name || draft.places.named.contains name then
      match rest with
      | _ :: later => draft.passesSchemas target later
      | [] => false
    else false

/-- The member with the address of a schema. -/
def addressMember : Draft → String
  | four => "id"
  | _ => "$id"

/-- The address that a schema gives itself. -/
def addressOf? (draft : Draft) (schema : Json) : Option String := do
  let address ← (← schema.member? draft.addressMember).asString?
  if draft.referencesStandAlone
      && ((schema.member? "$ref").isSome || address.startsWith "#") then none
  else return withoutMarks address

/-- The anchors that a schema gives itself. -/
def anchorsOf (draft : Draft) (schema : Json) : List AnchorName :=
  let anchor (member : String) (isDynamic : Bool) : List AnchorName :=
    (((schema.member? member).bind Json.asString?).map fun name => ⟨name, isDynamic⟩).toList
  match draft with
  | four | six | seven =>
    (anchor draft.addressMember false).filterMap fun anchor =>
      if anchor.name.startsWith "#" then some { anchor with name := (anchor.name.drop 1).toString }
      else none
  | year2019 => anchor "$anchor" false
  | year2020 => anchor "$anchor" false ++ anchor "$dynamicAnchor" true

theorem addressOf?_of_stands_alone {draft : Draft} {schema : Json}
    (alone : draft.referencesStandAlone = true) (ref : (schema.member? "$ref").isSome = true) :
    draft.addressOf? schema = none := by
  unfold addressOf?
  cases schema.member? draft.addressMember with
  | none => rfl
  | some value => cases value.asString? <;> simp [alone, ref]

end Draft

end PromptScript.Schema
