import PromptScript.Proofs.Backend.ReadOff
import PromptScript.Proofs.Json.Members

/-!
# Values without the members of a name

A value is described by its nodes.  A path of names and indices leads to a node, which tells a
scalar, the number of items of an array, or the names of an object's members.  Leaving out the
members of a name cuts off the paths through that name, and the node at any other path loses the
name and nothing else.
-/

namespace PromptScript.Json

/-! ## Nodes and paths -/

/-- One step into a value. -/
inductive Step where
  | member (name : String)
  | item (index : Nat)
  deriving DecidableEq

/-- Where one step leads. -/
def step? : Json → Step → Option Json
  | .object members, .member name => lookup? name members
  | .array items, .item index => items[index]?
  | _, _ => none

/-- Where a path leads. -/
def at? (value : Json) : List Step → Option Json
  | [] => some value
  | step :: rest => (value.step? step).bind fun inner => inner.at? rest

/-- A value without what lies below it. -/
inductive Node where
  | scalar (value : Json)
  | array (length : Nat)
  | object (names : List String)

/-- The node at the top of a value. -/
def node : Json → Node
  | .array items => .array items.length
  | .object members => .object (members.map Prod.fst)
  | value => .scalar value

/-- The node without a name among those of its members. -/
def Node.without (name : String) : Node → Node
  | .object names => .object (names.filter (· != name))
  | node => node

/-- Whether no object in a value has a member of the given name. -/
inductive Lacks (name : String) : Json → Prop
  | null : Lacks name .null
  | bool (value : Bool) : Lacks name (.bool value)
  | number (value : Number) : Lacks name (.number value)
  | string (text : String) : Lacks name (.string text)
  | array {items : List Json} (hitems : ∀ item ∈ items, Lacks name item) :
      Lacks name (.array items)
  | object {members : List (String × Json)} (hname : name ∉ members.map Prod.fst)
      (hmembers : ∀ entry ∈ members, Lacks name entry.2) : Lacks name (.object members)

/-! ## Leaving out a name -/

/-- What holds of every scalar, and of an array or object if it holds of everything directly in it,
holds of every value. -/
theorem induction {motive : Json → Prop} (hnull : motive .null)
    (hbool : ∀ value, motive (.bool value)) (hnumber : ∀ value, motive (.number value))
    (hstring : ∀ text, motive (.string text))
    (harray : ∀ items, (∀ item ∈ items, motive item) → motive (.array items))
    (hobject : ∀ members : List (String × Json),
      (∀ entry ∈ members, motive entry.2) → motive (.object members))
    (value : Json) : motive value :=
  match value with
  | .null => hnull
  | .bool value => hbool value
  | .number value => hnumber value
  | .string text => hstring text
  | .array items => harray items fun item hitem =>
      have : sizeOf item < sizeOf items := List.sizeOf_lt_of_mem hitem
      induction hnull hbool hnumber hstring harray hobject item
  | .object members => hobject members fun entry hentry =>
      have : sizeOf entry < sizeOf members := List.sizeOf_lt_of_mem hentry
      induction hnull hbool hnumber hstring harray hobject entry.2
termination_by sizeOf value
decreasing_by
  · simp only [array.sizeOf_spec]
    omega
  · cases entry
    simp only [object.sizeOf_spec, Prod.mk.sizeOf_spec] at *
    omega

variable {name : String}

theorem without_array (name : String) (items : List Json) :
    (array items).without name = .array (items.map (without name)) := by
  rw [without]
  congr 1
  induction items with
  | nil => rfl
  | cons item rest ih => rw [withoutItems, List.map_cons, ih]

theorem without_object (name : String) (members : List (String × Json)) :
    (object members).without name = .object
      ((members.filter fun entry => entry.1 != name).map fun entry =>
        (entry.1, entry.2.without name)) := by
  rw [without]
  congr 1
  induction members with
  | nil => rfl
  | cons entry rest ih =>
      obtain ⟨other, value⟩ := entry
      by_cases hother : other = name <;> simp [withoutMembers, hother, ih]

theorem lacks_without (name : String) (value : Json) : (value.without name).Lacks name := by
  induction value using Json.induction with
  | hnull => exact .null
  | hbool value => exact .bool value
  | hnumber value => exact .number value
  | hstring text => exact .string text
  | harray items ih =>
      rw [without_array]
      refine .array fun item hitem => ?_
      obtain ⟨source, hsource, rfl⟩ := List.mem_map.mp hitem
      exact ih source hsource
  | hobject members ih =>
      rw [without_object]
      refine .object ?_ fun entry hentry => ?_
      · simp
      · obtain ⟨source, hsource, rfl⟩ := List.mem_map.mp hentry
        exact ih source (List.mem_filter.mp hsource).1

theorem Lacks.without_eq {value : Json} (hlacks : value.Lacks name) :
    value.without name = value := by
  induction hlacks with
  | null => rfl
  | bool value => rfl
  | number value => rfl
  | string text => rfl
  | @array items hitems ih =>
      rw [without_array]
      congr 1
      calc
        items.map (without name) = items.map id := List.map_congr_left ih
        _ = items := List.map_id items
  | @object members hname hmembers ih =>
      have hall : members.filter (fun entry => entry.1 != name) = members := by
        rw [List.filter_eq_self]
        intro entry hentry
        rw [bne_iff_ne]
        rintro rfl
        exact hname (List.mem_map_of_mem hentry)
      rw [without_object, hall]
      congr 1
      calc
        members.map (fun entry => (entry.1, entry.2.without name)) = members.map id :=
          List.map_congr_left fun entry hentry => by rw [ih entry hentry]; rfl
        _ = members := List.map_id members

/-- Only what is found under the name itself is no longer found. -/
theorem lookup?_without (name other : String) (members : List (String × Json)) :
    lookup? other ((members.filter fun entry => entry.1 != name).map fun entry =>
        (entry.1, entry.2.without name)) =
      if other = name then none else (lookup? other members).map (without name) := by
  rw [lookup?_map]
  split
  next hsame =>
    have hnone : name ∉ (members.filter fun entry => entry.1 != name).map Prod.fst := by simp
    rw [hsame, lookup?_of_not_mem hnone, Option.map_none]
  next hother => rw [lookup?_filter hother]

theorem step?_without (name : String) (value : Json) (step : Step) :
    (value.without name).step? step =
      if step = .member name then none else (value.step? step).map (without name) := by
  cases value with
  | null => simp [without, step?]
  | bool value => simp [without, step?]
  | number value => simp [without, step?]
  | string text => simp [without, step?]
  | array items =>
      rw [without_array]
      cases step <;> simp [step?]
  | object members =>
      rw [without_object]
      cases step with
      | member other => simp [step?, lookup?_without]
      | item index => simp [step?]

/-- A path leads to what it led to before, without the name, unless it goes through the name. -/
theorem at?_without (name : String) (value : Json) (path : List Step) :
    (value.without name).at? path =
      if .member name ∈ path then none else (value.at? path).map (without name) := by
  induction path generalizing value with
  | nil => rfl
  | cons step rest ih =>
      rw [at?, at?, step?_without]
      by_cases hstep : step = .member name
      · simp [hstep]
      · have hrest : .member name ∈ step :: rest ↔ .member name ∈ rest :=
          List.mem_cons.trans (or_iff_right (Ne.symm hstep))
        simp only [if_neg hstep, hrest]
        cases value.step? step with
        | none => simp
        | some inner => exact ih inner

theorem node_without (name : String) (value : Json) :
    (value.without name).node = value.node.without name := by
  cases value with
  | array items =>
      rw [without_array]
      simp [node, Node.without]
  | object members =>
      rw [without_object]
      simp [node, Node.without, List.filter_map, Function.comp_def]
  | _ => rfl

/-- Without the members of a name, a value has no member of that name in any of its objects.  The
node at a path through the name is gone, and at any other path it is the node that was there, only
without the name.  Nothing changes exactly if there was no such member, so a second time changes
nothing. -/
theorem without_removes_name_only (name : String) (value : Json) :
    (value.without name).Lacks name ∧
    (∀ path, ((value.without name).at? path).map node =
      if .member name ∈ path then none
      else ((value.at? path).map node).map (Node.without name)) ∧
    (value.without name = value ↔ value.Lacks name) ∧
    (value.without name).without name = value.without name := by
  have hlacks := lacks_without name value
  refine ⟨hlacks, ?_, ⟨fun hsame => hsame ▸ hlacks, Lacks.without_eq⟩, hlacks.without_eq⟩
  intro path
  rw [at?_without]
  split
  next => rfl
  next =>
    rw [Option.map_map, Option.map_map]
    exact congrArg (Option.map · _) (funext (node_without name))

end PromptScript.Json

namespace PromptScript.Backend.Google

open Json (Step)

/-- The parameters of a function are declared without `additionalProperties`, at any depth. -/
theorem declared_parameters {conversation : Conversation} {tools : List ToolDeclaration}
    {params : ModelParams} {body : Json}
    (hbody : requestBody conversation tools params = .ok body) {index : Nat}
    {tool : ToolDeclaration} (htool : tools[index]? = some tool) :
    body.at? [.member "tools", .item 0, .member "functionDeclarations", .item index,
      .member "parameters"] = some (tool.parameters.without "additionalProperties") := by
  obtain ⟨turns, -, hbody⟩ := Attempt.bind_eq_ok_iff.mp hbody
  obtain rfl := Attempt.pure_eq_ok_iff.mp hbody
  have hsome : tools ≠ [] := List.ne_nil_of_mem (List.mem_of_getElem? htool)
  simp [Json.at?, Json.step?, Json.lookup?_append, hsome, htool]

end PromptScript.Backend.Google
