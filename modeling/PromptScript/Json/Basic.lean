/-!
# JSON values

The values of JSON.  Whole numbers and binary64 numbers are kept apart, and the members of an
object stand in the order of their names, each name once.
-/

namespace PromptScript

/-- A JSON number. -/
inductive Number where
  /-- A whole number: from `-2 ^ 63` up to `2 ^ 64 - 1` in every text that is read. -/
  | int (value : Int)
  | float (value : Float)
  deriving DecidableEq, Repr, Inhabited

/-- A JSON value. -/
inductive Json where
  | null
  | bool (value : Bool)
  | number (value : Number)
  | string (value : String)
  | array (items : List Json)
  | object (members : List (String × Json))
  deriving Repr, Inhabited

namespace Json

mutual

/-- Equality of values is decidable. -/
def decideEq : (left right : Json) → Decidable (left = right)
  | .null, .null => isTrue rfl
  | .bool a, .bool b => decidable_of_iff (a = b) (by simp)
  | .number a, .number b => decidable_of_iff (a = b) (by simp)
  | .string a, .string b => decidable_of_iff (a = b) (by simp)
  | .array a, .array b =>
    have := decideItemsEq a b
    decidable_of_iff (a = b) (by simp)
  | .object a, .object b =>
    have := decideMembersEq a b
    decidable_of_iff (a = b) (by simp)
  | .null, .bool _ | .null, .number _ | .null, .string _ | .null, .array _ | .null, .object _
  | .bool _, .null | .bool _, .number _ | .bool _, .string _ | .bool _, .array _
  | .bool _, .object _ | .number _, .null | .number _, .bool _ | .number _, .string _
  | .number _, .array _ | .number _, .object _ | .string _, .null | .string _, .bool _
  | .string _, .number _ | .string _, .array _ | .string _, .object _ | .array _, .null
  | .array _, .bool _ | .array _, .number _ | .array _, .string _ | .array _, .object _
  | .object _, .null | .object _, .bool _ | .object _, .number _ | .object _, .string _
  | .object _, .array _ => isFalse (by simp)

/-- Equality of lists of values is decidable. -/
def decideItemsEq : (left right : List Json) → Decidable (left = right)
  | [], [] => isTrue rfl
  | [], _ :: _ | _ :: _, [] => isFalse (by simp)
  | a :: left, b :: right =>
    have := decideEq a b
    have := decideItemsEq left right
    decidable_of_iff (a = b ∧ left = right) (by simp)

/-- Equality of lists of members is decidable. -/
def decideMembersEq : (left right : List (String × Json)) → Decidable (left = right)
  | [], [] => isTrue rfl
  | [], _ :: _ | _ :: _, [] => isFalse (by simp)
  | (j, a) :: left, (k, b) :: right =>
    have := decideEq a b
    have := decideMembersEq left right
    decidable_of_iff (j = k ∧ a = b ∧ left = right) (by simp [and_assoc])

end

instance : DecidableEq Json := decideEq

/-- Puts a member into a list of members in the order of their names.  A member of the same name
is replaced. -/
def insertMember (name : String) (value : Json) :
    List (String × Json) → List (String × Json)
  | [] => [(name, value)]
  | (other, old) :: rest =>
    if name < other then (name, value) :: (other, old) :: rest
    else if name = other then (name, value) :: rest
    else (other, old) :: insertMember name value rest

/-- The object with the given members; of several with one name the last counts. -/
def ofMembers (members : List (String × Json)) : Json :=
  .object (members.foldl (fun sorted (name, value) => insertMember name value sorted) [])

mutual

/-- The value with the members of every object in the order of their names, each name once: of
several members with one name the last counts. -/
def sorted : Json → Json
  | .array items => .array (sortedItems items)
  | .object members => ofMembers (sortedMembers members)
  | .null => .null
  | .bool value => .bool value
  | .number value => .number value
  | .string value => .string value

/-- `sorted` on the items of an array. -/
def sortedItems : List Json → List Json
  | [] => []
  | item :: rest => item.sorted :: sortedItems rest

/-- `sorted` on the values of members. -/
def sortedMembers : List (String × Json) → List (String × Json)
  | [] => []
  | (name, value) :: rest => (name, value.sorted) :: sortedMembers rest

end

/-- The value of the member with the given name in a list of members. -/
def lookup? (name : String) (members : List (String × Json)) : Option Json :=
  (members.find? fun entry => entry.1 == name).map (·.2)

/-- The value of an object's member. -/
def member? (name : String) : Json → Option Json
  | .object members => lookup? name members
  | _ => none

/-- The value of an object's member, unless it is null. -/
def present? (name : String) (value : Json) : Option Json :=
  match value.member? name with
  | some .null => none
  | found => found

/-- The text of a string. -/
def asString? : Json → Option String
  | .string text => some text
  | _ => none

/-- The items of an array. -/
def asArray? : Json → Option (List Json)
  | .array items => some items
  | _ => none

/-- The members of an object. -/
def asObject? : Json → Option (List (String × Json))
  | .object members => some members
  | _ => none

/-- A whole number that is not negative. -/
def asNat? : Json → Option Nat
  | .number (.int (.ofNat value)) => some value
  | _ => none

/-- The truth value of a boolean. -/
def asBool? : Json → Option Bool
  | .bool value => some value
  | _ => none

/-- Whether the value is null. -/
def isNull : Json → Bool
  | .null => true
  | _ => false

/-- Whether the value is an object. -/
def isObject : Json → Bool
  | .object _ => true
  | _ => false

/-- The number of a natural number. -/
def ofNat (value : Nat) : Json :=
  .number (.int value)

/-- The number of a binary64 number; null where it is not finite. -/
def ofFloat (value : Float) : Json :=
  if value.isFinite then .number (.float value) else .null

/-- The nearest binary64 number of a JSON number. -/
def asFloat? : Json → Option Float
  | .number (.int value) => some (Float.ofInt value)
  | .number (.float value) => some value
  | _ => none

theorem member?_ofMembers_nil (name : String) : (ofMembers []).member? name = none := rfl

theorem lookup?_insertMember_self (name : String) (value : Json)
    (members : List (String × Json)) :
    lookup? name (insertMember name value members) = some value := by
  induction members with
  | nil => simp [insertMember, lookup?]
  | cons entry rest ih =>
    obtain ⟨other, old⟩ := entry
    by_cases before : name < other
    · simp [insertMember, before, lookup?]
    · by_cases same : name = other
      · simp [insertMember, same, lookup?]
      · simp only [insertMember, before, same, if_false]
        simpa [lookup?, List.find?_cons, beq_iff_eq, Ne.symm same] using ih

/-! ## Reading records

A record is written as an object with a member for each field, or as an array of its fields in
order.  Members that name no field are passed over, and a field given twice is refused. -/

/-- The one value given for a field; `some none` where there is none. -/
def uniqueMember? (name : String) (members : List (String × Json)) : Option (Option Json) :=
  match members.filter fun entry => entry.1 == name with
  | [] => some none
  | [(_, value)] => some (some value)
  | _ => none

/-- The values of fields in an object's members. -/
def fieldsOfMembers? (names : List String) (members : List (String × Json)) :
    Option (List (Option Json)) :=
  names.mapM fun name => uniqueMember? name members

/-- The values of fields in an array, which may not be longer than their number. -/
def fieldsOfItems? (names : List String) (items : List Json) : Option (List (Option Json)) :=
  if items.length ≤ names.length then some ((List.range names.length).map fun i => items[i]?)
  else none

/-- The values of a record's fields, in the order of their names. -/
def fields? (names : List String) : Json → Option (List (Option Json))
  | .object members => fieldsOfMembers? names members
  | .array items => fieldsOfItems? names items
  | _ => none

/-- The name of a variant without data: a string, or an object whose single member has the name
and an empty value. -/
def variantName? (isEmptyValue : Json → Bool) : Json → Option String
  | .string name => some name
  | .object [(name, value)] => if isEmptyValue value then some name else none
  | _ => none

/-- Whether the value is null or an object without members. -/
def isNullOrEmpty : Json → Bool
  | .null => true
  | .object [] => true
  | _ => false

end Json

end PromptScript
