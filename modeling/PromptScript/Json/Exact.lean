import PromptScript.Decimal.Shortest
import PromptScript.Json.Basic

/-!
# Exact numbers

Whole numbers and binary64 numbers compared by their exact values, and values that are the same up
to the way in which their numbers are written.
-/

namespace PromptScript

/-- The number `significand * 2 ^ exponent`. -/
structure Dyadic where
  significand : Int
  exponent : Int
  deriving DecidableEq, Repr

namespace Dyadic

/-- The significand at a smaller exponent. -/
def scaled (x : Dyadic) (exponent : Int) : Int :=
  x.significand * Nat.pow 2 (x.exponent - exponent).toNat

/-- Compares two numbers. -/
def compare (x y : Dyadic) : Ordering :=
  let exponent := min x.exponent y.exponent
  Ord.compare (x.scaled exponent) (y.scaled exponent)

/-- Whether the number is whole. -/
def isWhole (x : Dyadic) : Bool :=
  0 ≤ x.exponent || x.significand % Nat.pow 2 (-x.exponent).toNat == 0

/-- The whole part of a number. -/
def floor (x : Dyadic) : Int :=
  if 0 ≤ x.exponent then x.significand * Nat.pow 2 x.exponent.toNat
  else x.significand / Nat.pow 2 (-x.exponent).toNat

/-- The exact value of a finite binary64 number. -/
def ofFloat (value : Float) : Dyadic :=
  let m := Decimal.magnitude value
  ⟨if Decimal.isNegative value then -(m.significand : Int) else m.significand, m.exponent⟩

end Dyadic

namespace Number

/-- The exact value of a number. -/
def exact : Number → Dyadic
  | int value => ⟨value, 0⟩
  | float value => .ofFloat value

/-- Compares two numbers by their exact values. -/
def order (x y : Number) : Ordering :=
  x.exact.compare y.exact

/-- Whether a number is whole. -/
def isWhole (x : Number) : Bool :=
  x.exact.isWhole

end Number

namespace Json

mutual

/-- Whether two values are the same, where numbers count by their exact values. -/
def same : Json → Json → Bool
  | .null, .null => true
  | .bool a, .bool b => a == b
  | .number a, .number b => a.order b == .eq
  | .string a, .string b => a == b
  | .array a, .array b => sameItems a b
  | .object a, .object b => sameMembers a b
  | _, _ => false

/-- `same` on the items of arrays. -/
def sameItems : List Json → List Json → Bool
  | [], [] => true
  | a :: left, b :: right => same a b && sameItems left right
  | _, _ => false

/-- `same` on the members of objects, which stand in the order of their names. -/
def sameMembers : List (String × Json) → List (String × Json) → Bool
  | [], [] => true
  | (j, a) :: left, (k, b) :: right => j == k && same a b && sameMembers left right
  | _, _ => false

end

mutual

/-- For every number in a value, in order, whether it is a zero with a sign. -/
def zeroSigns : Json → List Bool
  | .number (.float value) => [value == 0.0 && Decimal.isNegative value]
  | .number (.int _) => [false]
  | .array items => zeroSignsOfItems items
  | .object members => zeroSignsOfMembers members
  | _ => []

/-- `zeroSigns` on the items of arrays. -/
def zeroSignsOfItems : List Json → List Bool
  | [] => []
  | item :: rest => zeroSigns item ++ zeroSignsOfItems rest

/-- `zeroSigns` on the values of members. -/
def zeroSignsOfMembers : List (String × Json) → List Bool
  | [] => []
  | (_, value) :: rest => zeroSigns value ++ zeroSignsOfMembers rest

end

/-- Whether two values are the same, where a zero with a sign differs from one without. -/
def sameSigned (a b : Json) : Bool :=
  a.same b && a.zeroSigns == b.zeroSigns

/-- Whether some value stands twice in a list, where values are compared by the given relation. -/
def hasTwinsBy (relation : Json → Json → Bool) : List Json → Bool
  | [] => false
  | item :: rest => rest.any (relation item) || hasTwinsBy relation rest

/-- The number of items from which on zeros with a sign are told apart. -/
def manyItems : Nat := 16

/-- Whether some value stands twice in a list.  In a long list a zero with a sign differs from one
without. -/
def hasTwins (items : List Json) : Bool :=
  if items.length < manyItems then hasTwinsBy same items else hasTwinsBy sameSigned items

end Json

end PromptScript
