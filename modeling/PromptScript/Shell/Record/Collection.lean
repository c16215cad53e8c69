import PromptScript.Shell.Record.Value

/-!
# Collections

The lists of record programs, which hold values under keys.  The keys are kept in chains that are
chosen by a hash of the key, and programs visit them chain by chain.  What was wanted last comes
first in its chain.

Keys that are integers have chains of their own, by which they are found without their texts.  As
long as no other key was wanted only these chains are in order; the others are put in order when
they are needed first.
-/

namespace PromptScript.Shell.Record

/-- A key as it is wanted: an integer or a text. -/
inductive Key where
  | integer (number : Int)
  | name (text : Octets)

/-- The text of a key. -/
def Key.text : Key → Octets
  | integer number => Integer.text number
  | name text => text

/-- A list of values under keys. -/
structure Collection where
  /-- The keys with their values. -/
  chains : Array (List (Octets × Value)) := Array.replicate 64 []
  /-- The chains of integers. -/
  integers : Array (List Int) := Array.replicate 64 []
  size : Nat := 0
  /-- Whether the chains of all keys are in order. -/
  isNamed : Bool := false
  /-- Whether the keys are the numbers from one on, and no chain is in order yet. -/
  isSequence : Bool := false
  deriving Inhabited

namespace Collection

/-- The hash of a key. -/
def hash (key : Octets) : Nat :=
  key.foldl (fun hash c => ((hash ^^^ c.toNat) * 16777619) % 0x100000000) 2166136261

/-- The number of the chain of a key. -/
def chainOf (collection : Collection) (key : Octets) : Nat :=
  hash key % collection.chains.size

/-- The number of the chain of an integer. -/
def integerChainOf (collection : Collection) (number : Int) : Nat :=
  (number % collection.integers.size).toNat

/-- The value under a key. -/
def get? (collection : Collection) (key : Octets) : Option Value :=
  ((collection.chains[collection.chainOf key]?).getD []).lookup key

/-- The greatest number of keys for a number of chains. -/
def limit (collection : Collection) : Nat :=
  12 * collection.chains.size

/-- Doubles the number of chains. -/
def doubled (collection : Collection) : Collection :=
  let count := collection.chains.size
  let spread {α : Type} (number : α → Nat) (chains : Array (List α)) : Array (List α) :=
    let split := chains.mapIdx fun place chain =>
      chain.partition fun item => number item % (2 * count) == place
    split.map (·.1) ++ split.map (·.2)
  { collection with
    chains := spread (fun entry => hash entry.1) collection.chains
    integers := spread (fun number => (number % (2 * count : Nat)).toNat) collection.integers }

/-- Puts a key with its value in front of its chain. -/
def push (collection : Collection) (key : Octets) (value : Value) : Collection :=
  { collection with
    chains := collection.chains.modify (collection.chainOf key) ((key, value) :: ·) }

/-- Takes a key out of its chain. -/
def drop (collection : Collection) (key : Octets) : Collection :=
  { collection with
    chains := collection.chains.modify (collection.chainOf key)
      (List.filter fun entry => entry.1 != key) }

/-- Puts an integer in front of its chain. -/
def pushInteger (collection : Collection) (number : Int) : Collection :=
  { collection with
    integers := collection.integers.modify (collection.integerChainOf number)
      fun chain => number :: chain.filter (· != number) }

/-- Puts the numbers of a sequence into the chains of integers. -/
def withIntegers (collection : Collection) : Collection :=
  if !collection.isSequence then collection
  else
    (List.range collection.size).foldl (fun made place => made.pushInteger (place + 1 : Nat))
      { collection with isSequence := false }

/-- Puts the chains of all keys in order. -/
def named (collection : Collection) : Collection :=
  if collection.isNamed then collection
  else
    let made := collection.withIntegers
    made.integers.foldl (fun ordered chain =>
      chain.foldl (fun ordered number =>
        let key := Integer.text number
        ordered.push key ((collection.get? key).getD .unset)) ordered)
      { made with chains := made.chains.map fun _ => [], isNamed := true }

/-- Adds a key with no value yet. -/
def added (collection : Collection) (key : Octets) : Collection :=
  let grown := { collection with size := collection.size + 1 }
  (if grown.limit < grown.size then grown.doubled else grown).push key .unset

/-- Wants a key by its text, which puts it in front of its chain. -/
def wantName (collection : Collection) (creates : Bool) (key : Octets) : Collection :=
  let ordered := collection.named
  match ordered.get? key with
  | some value => (ordered.drop key).push key value
  | none => if creates then ordered.added key else ordered

/-- Wants an integer, which puts it in front of its chain of integers. -/
def wantInteger (collection : Collection) (creates : Bool) (number : Int) : Collection :=
  let key := Integer.text number
  if collection.isSequence && (collection.get? key).isSome then collection
  else if collection.isSequence && !creates then collection
  else
    let made := collection.withIntegers
    let chain := (made.integers[made.integerChainOf number]?).getD []
    if chain.contains number then made.pushInteger number
    else
      let wanted := if made.isNamed then made.wantName creates key
        else if creates then made.added key
        else made
      if (wanted.get? key).isSome then wanted.pushInteger number else wanted

/-- Wants a key; where it is missing it is added, if that is asked for. -/
def want (collection : Collection) (creates : Bool) (key : Key) : Collection :=
  if collection.size = 0 && !creates then collection
  else
    match key with
    | .integer number => collection.wantInteger creates number
    | .name text => collection.wantName creates text

/-- Sets the value under a key that is there. -/
def set (collection : Collection) (key : Octets) (value : Value) : Collection :=
  { collection with
    chains := collection.chains.modify (collection.chainOf key)
      (List.map fun entry => if entry.1 == key then (key, value) else entry) }

/-- Adds a value under a key. -/
def insert (collection : Collection) (key : Key) (value : Value) : Collection :=
  (collection.want true key).set key.text value

/-- Takes a key away. -/
def erase (collection : Collection) (key : Key) : Collection :=
  let text := key.text
  if collection.size = 0 then collection
  else if collection.isSequence && (key matches .integer _) && (collection.get? text).isNone then
    collection
  else
    let made := collection.withIntegers.want false key
    match made.get? text with
    | none => made
    | some _ =>
      if made.size ≤ 1 then {}
      else
        { made.drop text with
          integers := made.integers.map (List.filter fun number => Integer.text number != text)
          size := made.size - 1 }

/-- The keys in the order in which they are visited. -/
def keys (collection : Collection) : List Octets :=
  collection.chains.toList.flatMap fun chain => chain.map (·.1)

/-- The values of a list under the numbers from one on. -/
def ofList (values : List Value) : Collection :=
  let rec chains (count : Nat) : Nat → Nat
    | 0 => count
    | fuel + 1 => if 12 * count < values.length then chains (2 * count) fuel else count
  let count := chains 64 values.length
  let empty : Collection :=
    { chains := Array.replicate count [], integers := Array.replicate count [] }
  let filled := (values.zipIdx 1).foldl (fun made (value, place) =>
    made.push (decimal place) value) empty
  { filled with size := values.length, isSequence := !values.isEmpty }

end Collection

end PromptScript.Shell.Record
