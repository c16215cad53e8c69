import PromptScript.Schema.Draft

/-!
# Rules of the drafts

Each draft lays down rules for schemas, which are themselves a schema.
-/

namespace PromptScript.Schema.Rules

/-!
## Rules of the older drafts

Each draft lays down rules for schemas, which are themselves a schema: it is the one that every
schema of the draft has to satisfy.  Here are those of the drafts that have a number.
-/

/-- An object. -/
def obj (members : List (String × Json)) : Json := .ofMembers members

/-- A list of texts. -/
def texts (values : List String) : Json := .array (values.map .string)

/-- The schema of the values of one kind. -/
def typed (kind : String) : Json := obj [("type", .string kind)]

/-- The schema of the texts in one format. -/
def formatted (format : String) : Json :=
  obj [("type", .string "string"), ("format", .string format)]

/-- A reference to another place. -/
def ref (address : String) : Json := obj [("$ref", .string address)]

/-- Every schema follows the same rules again. -/
def again : Json := ref "#"

/-- The schema that one of several schemas is enough for. -/
def anyOf (schemas : List Json) : Json := obj [("anyOf", .array schemas)]

/-- A list of schemas that is not empty. -/
def schemaList (schema : Json) : Json :=
  obj [("type", .string "array"), ("minItems", .ofNat 1), ("items", schema)]

/-- An object whose values follow a schema. -/
def mapOf (schema : Json) : Json :=
  obj [("type", .string "object"), ("additionalProperties", schema)]

/-- An object whose names are expressions and whose values follow a schema. -/
def patternMapOf (schema : Json) : Json :=
  obj [("type", .string "object"), ("additionalProperties", schema),
    ("propertyNames", obj [("format", .string "regex")])]

/-- The names of the kinds of values. -/
def kinds : Json :=
  obj [("enum", texts ["array", "boolean", "integer", "null", "number", "object", "string"])]

/-- One kind of values or a list of kinds. -/
def kindRule (kindPlace : String) : Json :=
  anyOf [ref kindPlace, obj [("type", .string "array"), ("items", ref kindPlace),
    ("minItems", .ofNat 1), ("uniqueItems", .bool true)]]

/-- A whole number that is not negative. -/
def wholeNumber : Json := obj [("type", .string "integer"), ("minimum", .ofNat 0)]

/-- A list of texts, each of which stands in it once. -/
def textList : Json :=
  obj [("type", .string "array"), ("items", typed "string"), ("uniqueItems", .bool true)]

/-- A number above zero. -/
def positive : Json :=
  obj [("type", .string "number"), ("exclusiveMinimum", .ofNat 0)]

/-- A schema or a list of names for every name. -/
def dependencyRule (schema names : Json) : Json := mapOf (anyOf [schema, names])

/-- The rules of the oldest draft, where limits are marked as excluded by a flag. -/
def four : Json :=
  let length := ref "#/definitions/positiveInteger"
  let least := ref "#/definitions/positiveIntegerDefault0"
  let schemas := ref "#/definitions/schemaArray"
  let names := ref "#/definitions/stringArray"
  let flagged := anyOf [typed "boolean", again]
  obj [("id", .string "http://json-schema.org/draft-04/schema#"),
    ("$schema", .string "http://json-schema.org/draft-04/schema#"),
    ("description", .string "Core schema meta-schema"),
    ("definitions", obj [("schemaArray", schemaList again), ("positiveInteger", wholeNumber),
      ("positiveIntegerDefault0",
        obj [("allOf", .array [length, obj [("default", .ofNat 0)]])]),
      ("simpleTypes", kinds),
      ("stringArray", obj [("type", .string "array"), ("items", typed "string"),
        ("minItems", .ofNat 1), ("uniqueItems", .bool true)])]),
    ("dependencies", obj [("exclusiveMaximum", texts ["maximum"]),
      ("exclusiveMinimum", texts ["minimum"])]),
    ("default", obj []),
    ("type", .string "object"),
    ("properties", obj [("id", typed "string"), ("$schema", formatted "uri"),
      ("title", typed "string"), ("description", typed "string"), ("default", obj []),
      ("multipleOf", obj [("type", .string "number"), ("minimum", .ofNat 0),
        ("exclusiveMinimum", .bool true)]),
      ("maximum", typed "number"), ("exclusiveMaximum", typed "boolean"),
      ("minimum", typed "number"), ("exclusiveMinimum", typed "boolean"),
      ("maxLength", length), ("minLength", least), ("pattern", formatted "regex"),
      ("additionalItems", flagged), ("items", anyOf [again, schemas]), ("maxItems", length),
      ("minItems", least), ("uniqueItems", typed "boolean"), ("maxProperties", length),
      ("minProperties", least), ("required", names), ("additionalProperties", flagged),
      ("definitions", mapOf again), ("properties", mapOf again),
      ("patternProperties", mapOf again), ("dependencies", dependencyRule again names),
      ("enum", typed "array"), ("type", kindRule "#/definitions/simpleTypes"),
      ("format", typed "string"), ("allOf", schemas), ("anyOf", schemas), ("oneOf", schemas),
      ("not", again)])]

/-- What several rules of drafts with boolean schemas refer to. -/
def shared : Json :=
  obj [("schemaArray", schemaList again), ("nonNegativeInteger", wholeNumber),
    ("nonNegativeIntegerDefault0", obj [("allOf",
      .array [ref "#/definitions/nonNegativeInteger", obj [("default", .ofNat 0)]])]),
    ("simpleTypes", kinds), ("stringArray", textList)]

/-- The rules for members that two drafts share. -/
def sharedMembers : List (String × Json) :=
  let length := ref "#/definitions/nonNegativeInteger"
  let least := ref "#/definitions/nonNegativeIntegerDefault0"
  let schemas := ref "#/definitions/schemaArray"
  let names := ref "#/definitions/stringArray"
  [("$id", formatted "uri-reference"), ("$schema", formatted "uri"),
    ("$ref", formatted "uri-reference"), ("title", typed "string"),
    ("description", typed "string"), ("multipleOf", positive), ("maximum", typed "number"),
    ("exclusiveMaximum", typed "number"), ("minimum", typed "number"),
    ("exclusiveMinimum", typed "number"), ("maxLength", length), ("minLength", least),
    ("pattern", formatted "regex"), ("additionalItems", again),
    ("items", anyOf [again, schemas]), ("maxItems", length), ("minItems", least),
    ("uniqueItems", typed "boolean"), ("contains", again), ("maxProperties", length),
    ("minProperties", least), ("required", names), ("additionalProperties", again),
    ("definitions", mapOf again), ("properties", mapOf again),
    ("patternProperties", patternMapOf again), ("dependencies", dependencyRule again names),
    ("propertyNames", again), ("enum", typed "array"),
    ("type", kindRule "#/definitions/simpleTypes"), ("format", typed "string"),
    ("allOf", schemas), ("anyOf", schemas), ("oneOf", schemas), ("not", again)]

/-- The rules of a draft with some more members. -/
def numbered (address : String) (more : List (String × Json)) : Json :=
  obj [("$schema", .string address), ("$id", .string address),
    ("title", .string "Core schema meta-schema"), ("definitions", shared),
    ("type", texts ["object", "boolean"]), ("properties", obj (sharedMembers ++ more))]

/-- The rules of the draft with the number six. -/
def six : Json :=
  numbered "http://json-schema.org/draft-06/schema#"
    [("default", obj []), ("examples", obj [("type", .string "array"), ("items", obj [])]),
      ("const", obj [])]

/-- The rules of the draft with the number seven. -/
def seven : Json :=
  numbered "http://json-schema.org/draft-07/schema#"
    [("default", .bool true), ("$comment", typed "string"), ("readOnly", typed "boolean"),
      ("examples", obj [("type", .string "array"), ("items", .bool true)]), ("const", .bool true),
      ("contentMediaType", typed "string"), ("contentEncoding", typed "string"), ("if", again),
      ("then", again), ("else", again)]

/-!
## Rules of the newer drafts

The rules of the drafts that have a year are parted into groups, each with an address of its own.
Where a group means every schema again, it means the rules from which it was reached.
-/

/-- How a newer draft means its own rules again from within a group. -/
structure Family where
  /-- The part of every address. -/
  address : String
  /-- The member that marks rules that can be meant again, with its value. -/
  mark : String × Json
  /-- The schema that means all rules again. -/
  again : Json

/-- The rules of a group of a family. -/
def Family.group (family : Family) (name : String) (properties : List (String × Json))
    (definitions : List (String × Json)) : String × Json :=
  (family.address ++ name,
    obj ([("$schema", .string (family.address ++ "schema")), ("$id", .string (family.address ++ name)),
      family.mark, ("type", texts ["object", "boolean"]), ("properties", obj properties)]
      ++ if definitions.isEmpty then [] else [("$defs", obj definitions)]))

/-- The rules for members that apply schemas, but for those about items of lists. -/
def applicators (again schemas : Json) : List (String × Json) :=
  [("contains", again), ("additionalProperties", again), ("properties", mapOf again),
    ("patternProperties", patternMapOf again), ("dependentSchemas", mapOf again),
    ("propertyNames", again), ("if", again), ("then", again), ("else", again),
    ("allOf", schemas), ("anyOf", schemas), ("oneOf", schemas), ("not", again)]

/-- The rules for members that check values. -/
def Family.validation (family : Family) : String × Json :=
  let length := ref "#/$defs/nonNegativeInteger"
  let least := ref "#/$defs/nonNegativeIntegerDefault0"
  let names := ref "#/$defs/stringArray"
  family.group "meta/validation"
    [("multipleOf", positive), ("maximum", typed "number"), ("exclusiveMaximum", typed "number"),
      ("minimum", typed "number"), ("exclusiveMinimum", typed "number"), ("maxLength", length),
      ("minLength", least), ("pattern", formatted "regex"), ("maxItems", length),
      ("minItems", least), ("uniqueItems", typed "boolean"), ("maxContains", length),
      ("minContains", obj [("$ref", .string "#/$defs/nonNegativeInteger"), ("default", .ofNat 1)]),
      ("maxProperties", length), ("minProperties", least), ("required", names),
      ("dependentRequired", mapOf names), ("const", .bool true),
      ("enum", obj [("type", .string "array"), ("items", .bool true)]),
      ("type", kindRule "#/$defs/simpleTypes")]
    [("nonNegativeInteger", wholeNumber),
      ("nonNegativeIntegerDefault0",
        obj [("$ref", .string "#/$defs/nonNegativeInteger"), ("default", .ofNat 0)]),
      ("simpleTypes", kinds), ("stringArray", textList)]

/-- The rules for members that describe. -/
def Family.descriptions (family : Family) : String × Json :=
  family.group "meta/meta-data"
    [("title", typed "string"), ("description", typed "string"), ("default", .bool true),
      ("deprecated", typed "boolean"), ("readOnly", typed "boolean"),
      ("writeOnly", typed "boolean"),
      ("examples", obj [("type", .string "array"), ("items", .bool true)])] []

/-- The rules for members about contents. -/
def Family.contents (family : Family) : String × Json :=
  family.group "meta/content"
    [("contentMediaType", typed "string"), ("contentEncoding", typed "string"),
      ("contentSchema", family.again)] []

/-- The rules for members about formats. -/
def Family.formats (family : Family) (name : String) : String × Json :=
  family.group name [("format", typed "string")] []

/-- The rules of a newer draft, made of groups, with rules for members of older drafts. -/
def Family.whole (family : Family) (groups : List String) (more : List (String × Json)) :
    String × Json :=
  (family.address ++ "schema",
    obj [("$schema", .string (family.address ++ "schema")),
      ("$id", .string (family.address ++ "schema")), family.mark,
      ("title", .string "Core and Validation specifications meta-schema"),
      ("allOf", .array (groups.map ref)), ("type", texts ["object", "boolean"]),
      ("properties", obj ([("definitions", mapOf family.again),
        ("dependencies",
          dependencyRule family.again (ref "meta/validation#/$defs/stringArray"))] ++ more))])

/-- The family of the draft of 2019. -/
def family2019 : Family :=
  ⟨"https://json-schema.org/draft/2019-09/", ("$recursiveAnchor", .bool true),
    obj [("$recursiveRef", .string "#")]⟩

/-- The documents of the draft of 2019. -/
def year2019 : List (String × Json) :=
  let family := family2019
  let again := family.again
  let schemas := ref "#/$defs/schemaArray"
  [family.whole ["meta/core", "meta/applicator", "meta/validation", "meta/meta-data",
      "meta/format", "meta/content"] [],
    family.group "meta/core"
      [("$id", obj [("type", .string "string"), ("format", .string "uri-reference"),
          ("pattern", .string "^[^#]*#?$")]),
        ("$schema", formatted "uri"),
        ("$anchor", obj [("type", .string "string"),
          ("pattern", .string "^[A-Za-z][-A-Za-z0-9.:_]*$")]),
        ("$ref", formatted "uri-reference"), ("$recursiveRef", formatted "uri-reference"),
        ("$recursiveAnchor", typed "boolean"),
        ("$vocabulary", obj [("type", .string "object"), ("propertyNames", formatted "uri"),
          ("additionalProperties", typed "boolean")]),
        ("$comment", typed "string"), ("$defs", mapOf again)] [],
    family.group "meta/applicator"
      ([("additionalItems", again), ("unevaluatedItems", again),
        ("items", anyOf [again, schemas]), ("unevaluatedProperties", again)]
        ++ applicators again schemas)
      [("schemaArray", schemaList again)],
    family.validation, family.descriptions, family.formats "meta/format", family.contents]

/-- The family of the draft of 2020. -/
def family2020 : Family :=
  ⟨"https://json-schema.org/draft/2020-12/", ("$dynamicAnchor", .string "meta"),
    obj [("$dynamicRef", .string "#meta")]⟩

/-- The documents of the draft of 2020. -/
def year2020 : List (String × Json) :=
  let family := family2020
  let again := family.again
  let schemas := ref "#/$defs/schemaArray"
  let anchor := ref "#/$defs/anchorString"
  let reference := ref "#/$defs/uriReferenceString"
  [family.whole ["meta/core", "meta/applicator", "meta/unevaluated", "meta/validation",
      "meta/meta-data", "meta/format-annotation", "meta/content"]
      [("$recursiveAnchor", ref "meta/core#/$defs/anchorString"),
        ("$recursiveRef", ref "meta/core#/$defs/uriReferenceString")],
    family.group "meta/core"
      [("$id", obj [("$ref", .string "#/$defs/uriReferenceString"),
          ("pattern", .string "^[^#]*#?$")]),
        ("$schema", ref "#/$defs/uriString"), ("$ref", reference), ("$anchor", anchor),
        ("$dynamicRef", reference), ("$dynamicAnchor", anchor),
        ("$vocabulary", obj [("type", .string "object"),
          ("propertyNames", ref "#/$defs/uriString"),
          ("additionalProperties", typed "boolean")]),
        ("$comment", typed "string"), ("$defs", mapOf again)]
      [("anchorString", obj [("type", .string "string"),
          ("pattern", .string "^[A-Za-z_][-A-Za-z0-9._]*$")]),
        ("uriString", formatted "uri"), ("uriReferenceString", formatted "uri-reference")],
    family.group "meta/applicator"
      ([("prefixItems", schemas), ("items", again)] ++ applicators again schemas)
      [("schemaArray", schemaList again)],
    family.group "meta/unevaluated"
      [("unevaluatedItems", again), ("unevaluatedProperties", again)] [],
    family.validation, family.descriptions, family.formats "meta/format-annotation",
    family.formats "meta/format-assertion", family.contents]

end PromptScript.Schema.Rules
