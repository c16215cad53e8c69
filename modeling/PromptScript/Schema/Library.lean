import PromptScript.Schema.Rules
import PromptScript.Text.Utf8
import PromptScript.Uri.Reader

/-!
# Libraries of schemas

A library holds the schemas that have an address and those that have an anchor in a document.  It is
filled from one schema, level by level: the schema, those in it, those in these.  Every reference
has to lead to a document of the library, for nothing is fetched from elsewhere.  The documents in
which drafts lay down their rules belong to every library.
-/

namespace PromptScript.Schema

/-- The documents of a draft with their addresses; the first one has all of its rules. -/
def Draft.documents : Draft → List (String × Json)
  | .four => [("http://json-schema.org/draft-04/schema", Rules.four)]
  | .six => [("http://json-schema.org/draft-06/schema", Rules.six)]
  | .seven => [("http://json-schema.org/draft-07/schema", Rules.seven)]
  | .year2019 => Rules.year2019
  | .year2020 => Rules.year2020

/-- The rules of a draft. -/
def Draft.rules : Draft → Json
  | .four => Rules.four
  | .six => Rules.six
  | .seven => Rules.seven
  | .year2019 => ((Rules.year2019.head?).map (·.2)).getD .null
  | .year2020 => ((Rules.year2020.head?).map (·.2)).getD .null

/-- The address of the rules of a draft. -/
def Draft.rulesAddress (draft : Draft) : String :=
  ((addresses.find? fun entry => entry.2 == draft).map (·.1)).getD ""

/-- All drafts. -/
def Draft.all : List Draft := [.four, .six, .seven, .year2019, .year2020]

theorem Draft.ofAddress?_rulesAddress (draft : Draft) :
    ofAddress? draft.rulesAddress = some draft := by
  cases draft <;> decide +kernel

/-- Why a name in a pointer is no place in a list. -/
inductive PlaceFault where
  | empty
  | noDigit
  | tooLarge
  deriving DecidableEq, Repr

/-- The wording of a fault of a place. -/
def PlaceFault.message : PlaceFault → String
  | empty => "cannot parse integer from empty string"
  | noDigit => "invalid digit found in string"
  | tooLarge => "number too large to fit in target type"

/-- Why a reference leads nowhere. -/
inductive ReferenceFault where
  | unreadable (reference : String) (fault : Uri.ReadFault)
  | unresolved (reference base : String) (fault : Uri.ResolveFault)
  /-- The document is not in the library and cannot be fetched. -/
  | absent (address : Uri)
  /-- The document belongs to a draft that has no such document. -/
  | unknownRules (address : Uri)
  | noPointer (pointer : String)
  | badEncoding (pointer : String)
  | badPlace (pointer place : String) (fault : PlaceFault)
  | noAnchor (anchor : String)
  | badAnchor (anchor : String)
  | unknownDraft (address : String)
  deriving DecidableEq, Repr

/-- Why a document cannot be fetched. -/
def absence (address : Uri) : String :=
  match address.scheme.getD "" with
  | "http" | "https" =>
    let shown := if address.path.isEmpty then { address with path := "/" } else address
    "error sending request for url (" ++ shown.render ++ ")"
  | "file" => "No such file or directory (os error 2)"
  | scheme => "Unknown scheme " ++ scheme

/-- The wording of a fault of a reference. -/
def ReferenceFault.message : ReferenceFault → String
  | unreadable reference fault =>
    "Invalid URI reference '" ++ reference ++ "': " ++ fault.message
  | unresolved reference base fault =>
    "Failed to resolve '" ++ reference ++ "' against '" ++ base ++ "': " ++ fault.message
  | absent address =>
    "Resource '" ++ address.render ++ "' is not present in a registry and retrieving it failed: "
      ++ absence address
  | unknownRules address =>
    "Resource '" ++ address.render ++ "' is not present in a registry and retrieving it failed: "
      ++ "Retrieving external resources is not supported once the registry is populated"
  | noPointer pointer => "Pointer '" ++ pointer ++ "' does not exist"
  | badEncoding pointer =>
    "Invalid percent encoding in pointer '" ++ pointer
      ++ "': the decoded bytes do not represent valid UTF-8"
  | badPlace pointer place fault =>
    "Failed to parse array index '" ++ place ++ "' in pointer '" ++ pointer ++ "': "
      ++ fault.message
  | noAnchor anchor => "Anchor '" ++ anchor ++ "' does not exist"
  | badAnchor anchor => "Anchor '" ++ anchor ++ "' is invalid"
  | unknownDraft address => "Unknown specification: " ++ address

/-! ## Addresses -/

/-- The address of a schema that gives itself none. -/
def defaultAddress : Uri := ⟨some "json-schema", some "", "/", none, none⟩

/-- The address that a reference means in a document with a base address. -/
def resolveAgainst (base : Uri) (reference : String) : Except ReferenceFault Uri :=
  if reference.startsWith "#" && base.render.endsWith reference then .ok base
  else
    match Uri.read .ascii reference with
    | .error fault => .error (.unreadable reference fault)
    | .ok uri =>
      match uri.resolve base with
      | .error fault => .error (.unresolved reference base.render fault)
      | .ok address => .ok address.normalize

/-- The address that a text means by itself. -/
def addressOfText (text : String) : Except ReferenceFault Uri :=
  match Uri.read .ascii text with
  | .error fault => .error (.unreadable text fault)
  | .ok uri =>
    let plain := uri.normalize
    if plain.scheme.isSome then .ok plain
    else
      match plain.resolve defaultAddress with
      | .error fault => .error (.unresolved text defaultAddress.render fault)
      | .ok address => .ok address

/-! ## Libraries -/

/-- A schema that can be found by itself. -/
structure Resource where
  draft : Draft
  contents : Json
  deriving Repr, Inhabited

/-- Schemas by address, and schemas by the address of a document and an anchor in it.  Of several
the last one that was put in counts. -/
structure Library where
  resources : List (Uri × Resource)
  anchors : List ((Uri × String) × (Bool × Resource))
  deriving Repr, Inhabited

namespace Library

/-- The schema with an address. -/
def resource? (library : Library) (address : Uri) : Option Resource :=
  library.resources.lookup address

/-- Puts in a schema by its address. -/
def addResource (library : Library) (address : Uri) (resource : Resource) : Library :=
  { library with resources := (address, resource) :: library.resources }

/-- Puts in a schema by the anchors that it gives itself. -/
def addAnchors (library : Library) (address : Uri) (resource : Resource) : Library :=
  { library with
    anchors := (resource.draft.anchorsOf resource.contents).foldl
      (fun anchors anchor => ((address, anchor.name), (anchor.isDynamic, resource)) :: anchors)
      library.anchors }

/-- The addresses whose documents belong to drafts. -/
def knownLeads : List String :=
  ["https://json-schema.org/draft/2020-12/", "https://json-schema.org/draft/2019-09/",
    "http://json-schema.org/draft-07/schema", "http://json-schema.org/draft-06/schema",
    "http://json-schema.org/draft-04/schema"]

/-- The document that a schema refers to, unless it is its own one or belongs to a draft. -/
def foreignReference? (base : Uri) (schema : Json) : Except ReferenceFault (Option Uri) :=
  match (schema.member? "$ref").bind Json.asString? with
  | none => .ok none
  | some reference =>
    if reference.startsWith "#" || base.scheme == some "urn"
        || knownLeads.any (reference.startsWith ·) then .ok none
    else do
      let (path, _) := (Text.cutAt? '#' reference.toList).getD (reference.toList, [])
      let _ ← resolveAgainst base.withoutFragment reference
      let address ← resolveAgainst base.withoutFragment (String.ofList path)
      return some address.withoutFragment

/-- A library that is being filled, and the documents that its schemas refer to. -/
structure Filling where
  library : Library
  wanted : List Uri
  deriving Inhabited

/-- Puts in one schema, and gives the schemas that stand in it with the address of their
document. -/
def Filling.add (filling : Filling) (base : Uri) (resource : Resource) :
    Except ReferenceFault (Filling × List (Uri × Resource)) := do
  let (base, library) ← match resource.draft.addressOf? resource.contents with
    | some address => do
      let base ← resolveAgainst base address
      pure (base, filling.library.addResource base resource)
    | none => pure (base, filling.library)
  let wanted ← foreignReference? base resource.contents
  let parts ← (resource.draft.partsOf resource.contents).mapM fun part =>
    match resource.draft.named part with
    | .ok draft => .ok (base, (⟨draft, part⟩ : Resource))
    | .error address => .error (.unknownDraft address)
  return (⟨library.addAnchors base resource, filling.wanted ++ wanted.toList⟩, parts)

/-- Puts in all schemas of a level, then those in them.  The fuel bounds the number of levels. -/
def Filling.addLevels : Nat → Filling → List (Uri × Resource) → Except ReferenceFault Filling
  | 0, filling, _ => .ok filling
  | _, filling, [] => .ok filling
  | fuel + 1, filling, level => do
    let (filling, next) ← level.foldlM (fun (filling, next) (base, resource) => do
      let (filling, parts) ← filling.add base resource
      return (filling, next ++ parts)) (filling, [])
    filling.addLevels fuel next

mutual

/-- The number of levels of a value. -/
def depthOf : Json → Nat
  | .array items => depthOfItems items + 1
  | .object members => depthOfMembers members + 1
  | _ => 1

/-- `depthOf` on the items of lists. -/
def depthOfItems : List Json → Nat
  | [] => 0
  | item :: rest => max (depthOf item) (depthOfItems rest)

/-- `depthOf` on the values of members. -/
def depthOfMembers : List (String × Json) → Nat
  | [] => 0
  | (_, value) :: rest => max (depthOf value) (depthOfMembers rest)

end

/-- Puts in a document with an address and all schemas in it. -/
def Filling.addDocument (filling : Filling) (address : Uri) (resource : Resource) :
    Except ReferenceFault Filling :=
  Filling.addLevels (depthOf resource.contents + 1)
    { filling with library := filling.library.addResource address resource } [(address, resource)]

/-- The library of all documents of drafts. -/
def ofDrafts : Library :=
  let documents := Draft.all.flatMap fun draft => draft.documents.map fun entry => (draft, entry)
  (documents.foldl (fun filling (draft, address, contents) =>
    match (addressOfText address).bind fun address =>
      filling.addDocument address ⟨draft, contents⟩ with
    | .ok filling => filling
    | .error _ => filling) (⟨⟨[], []⟩, []⟩ : Filling)).library

/-- The library of a schema with an address, and of the documents of drafts. -/
def ofSchema (address : Uri) (resource : Resource) : Except ReferenceFault Library := do
  let filling ← Filling.addDocument ⟨ofDrafts, []⟩ address resource
  match filling.wanted.find? fun wanted => (filling.library.resource? wanted).isNone with
  | some wanted => throw (.absent wanted)
  | none => return filling.library

/-- The schema with an anchor in a document, and whether the anchor is dynamic. -/
def anchor? (library : Library) (address : Uri) (name : String) :
    Except ReferenceFault (Bool × Resource) :=
  match library.anchors.lookup (address, name) with
  | some found => .ok found
  | none =>
    let own := (library.resource? address).bind fun resource =>
      (resource.draft.addressOf? resource.contents).bind fun text => (addressOfText text).toOption
    match own.bind fun address => library.anchors.lookup (address, name) with
    | some found => .ok found
    | none => .error (if name.contains '/' then .badAnchor name else .noAnchor name)

theorem resource?_addResource_self (library : Library) (address : Uri) (resource : Resource) :
    (library.addResource address resource).resource? address = some resource := by
  simp [addResource, resource?]

end Library

end PromptScript.Schema
