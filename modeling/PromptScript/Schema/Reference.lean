import PromptScript.Schema.Library

/-!
# References

References from one place of a schema to another: to the document with an address, or to a place
in it by a pointer through members and items, or by an anchor.  A dynamic anchor means the schema
with that anchor in the first document on the way to the reference that has one.
-/

namespace PromptScript.Schema

/-- What the members of a schema are read against. -/
structure Scope where
  library : Library
  draft : Draft
  /-- The address of the document that references without one mean. -/
  base : Uri
  /-- The addresses of the documents on the way here, the last one first. -/
  visited : List Uri
  deriving Inhabited

namespace Scope

/-- The scope of the document with an address. -/
def moveTo (scope : Scope) (address : Uri) : Scope :=
  if scope.visited.isEmpty || address ≠ scope.base then
    { scope with base := address, visited := scope.base :: scope.visited }
  else { scope with base := address }

/-- The scope where the address that a schema gives itself counts. -/
def atAddress (scope : Scope) (schema : Json) : Except ReferenceFault Scope :=
  match scope.draft.addressOf? schema with
  | some address => do return { scope with base := ← resolveAgainst scope.base address }
  | none => .ok scope

/-- The scope of a schema that stands in another one. -/
def enter (scope : Scope) (schema : Json) : Except ReferenceFault Scope :=
  let draft := match scope.draft.named schema with
    | .ok draft => draft
    | .error _ => .year2020
  { scope with draft }.atAddress schema

end Scope

/-- The bytes of a text in which a percent sign and two digits stand for one byte. -/
def percentBytes : List Char → Text.Bytes
  | '%' :: a :: b :: rest =>
    match Uri.hexValue? a, Uri.hexValue? b with
    | some high, some low => UInt8.ofNat (high * 16 + low) :: percentBytes rest
    | _, _ => 37 :: percentBytes (a :: b :: rest)
  | c :: rest => Text.toBytes (String.singleton c) ++ percentBytes rest
  | [] => []

/-- The name that a piece of a pointer writes. -/
def unescapeName : List Char → List Char
  | '~' :: '0' :: rest => '~' :: unescapeName rest
  | '~' :: '1' :: rest => '/' :: unescapeName rest
  | c :: rest => c :: unescapeName rest
  | [] => []

/-- The place in a list that a piece of a pointer writes. -/
def placeOf (piece : List Char) : Except PlaceFault Nat :=
  let digits := match piece with
    | '+' :: d :: rest => d :: rest
    | digits => digits
  if digits.isEmpty then .error .empty
  else if !digits.all Char.isDigit then .error .noDigit
  else
    let value := digits.foldl (fun value d => value * 10 + (d.toNat - 48)) 0
    if value < 0x10000000000000000 then .ok value else .error .tooLarge

/-- A value on the way of a pointer, with the names that lead to it from the last schema with an
address. -/
structure PointerStep where
  scope : Scope
  contents : Json
  passed : List String
  deriving Inhabited

/-- The name or the place that a piece of a pointer means, and what stands there. -/
def nextOf (pointer : String) (contents : Json) (piece : List Char) :
    Except ReferenceFault (String × Json) :=
  match contents with
  | .array items =>
    match placeOf piece with
    | .error fault => .error (.badPlace pointer (String.ofList piece) fault)
    | .ok place =>
      match items[place]? with
      | some next => .ok (toString place, next)
      | none => .error (.noPointer pointer)
  | .object members =>
    let name := String.ofList (unescapeName piece)
    match Json.lookup? name members with
    | some next => .ok (name, next)
    | none => .error (.noPointer pointer)
  | _ => .error (.noPointer pointer)

/-- Follows the pieces of a pointer in a document of a draft. -/
def followPieces (draft : Draft) (pointer : String) :
    PointerStep → List (List Char) → Except ReferenceFault PointerStep
  | step, [] => .ok step
  | step, piece :: rest => do
    let (name, contents) ← nextOf pointer step.contents piece
    let passed := step.passed ++ [name]
    if draft.passesSchemas contents passed then
      let scope ← { step.scope with draft }.atAddress contents
      let passed := if scope.base = step.scope.base then passed else []
      followPieces draft pointer ⟨scope, contents, passed⟩ rest
    else followPieces draft pointer { step with contents, passed } rest

/-- The schema that a pointer leads to from the root of a document. -/
def followPointer (scope : Scope) (resource : Resource) (pointer : String) :
    Except ReferenceFault (Scope × Json) :=
  match Text.ofBytes? (percentBytes (pointer.toList.drop 1)) with
  | none => .error (.badEncoding pointer)
  | some path => do
    let step ← followPieces resource.draft pointer ⟨scope, resource.contents, []⟩
      (Text.splitAt '/' path.toList)
    return ({ step.scope with draft := resource.draft }, step.contents)

/-- The schema that an anchor means in the document of a scope. -/
def followAnchor (scope : Scope) (name : String) : Except ReferenceFault (Scope × Json) := do
  let (isDynamic, resource) ← scope.library.anchor? scope.base name
  if isDynamic then
    let last := scope.visited.foldl (fun last address =>
      match scope.library.anchor? address name with
      | .ok (true, outer) => outer
      | _ => last) resource
    let scope ← { scope with draft := last.draft }.atAddress last.contents
    return (scope, last.contents)
  else return ({ scope with draft := resource.draft }, resource.contents)

/-- The address and the fragment of a reference; a reference that begins with a number sign has no
address. -/
def splitReference (reference : String) : Option String × String :=
  match reference.toList with
  | '#' :: fragment => (none, String.ofList fragment)
  | text =>
    match Text.cutAt? '#' text.reverse with
    | some (fragment, address) => (some (String.ofList address.reverse), String.ofList fragment.reverse)
    | none => (some reference, "")

/-- The schema that a reference means, with its scope. -/
def followReference (scope : Scope) (reference : String) :
    Except ReferenceFault (Scope × Json) := do
  let (path, fragment) := splitReference reference
  let address ← match path with
    | none => pure scope.base
    | some path => resolveAgainst scope.base path
  match scope.library.resource? address with
  | none => throw (.unknownRules address)
  | some resource =>
    let there := scope.moveTo address
    if fragment.startsWith "/" then followPointer there resource fragment
    else if fragment.isEmpty then return ({ there with draft := resource.draft }, resource.contents)
    else followAnchor there fragment

/-- Whether a schema can be meant again from within others. -/
def isRecursive (schema : Json) : Bool :=
  schema.member? "$recursiveAnchor" == some (.bool true)

/-- The outermost schema on the way here that can be meant again, going out from a schema as long
as every document on the way can. -/
def outermost (scope : Scope) (found : Scope × Json) : List Uri → Scope × Json
  | [] => found
  | address :: rest =>
    match followReference scope address.render with
    | .ok (outer, contents) =>
      if isRecursive contents then outermost scope (outer, contents) rest else found
    | .error _ => found

/-- The schema that a recursive reference means, with its scope. -/
def followRecursive (scope : Scope) : Except ReferenceFault (Scope × Json) := do
  let found ← followReference scope "#"
  return if isRecursive found.2 then outermost scope found scope.visited else found

/-- The ways in which a member of a schema refers to a schema. -/
inductive ReferenceKind where
  | plain
  | recursive
  deriving DecidableEq, Repr

/-- How a member of a schema refers, if it does. -/
def Draft.referenceKind? (draft : Draft) (keyword : String) : Option ReferenceKind :=
  match keyword with
  | "$ref" => some .plain
  | "$dynamicRef" => if draft = .year2020 then some .plain else none
  | "$recursiveRef" => if draft = .year2019 then some .recursive else none
  | _ => none

/-- The schema that a member of a schema refers to. -/
def Scope.follow (scope : Scope) (kind : ReferenceKind) (reference : String) :
    Except ReferenceFault (Scope × Json) :=
  match kind with
  | .plain => followReference scope reference
  | .recursive => followRecursive scope

end PromptScript.Schema
