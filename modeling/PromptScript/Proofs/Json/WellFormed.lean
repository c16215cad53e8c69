import Mathlib.Data.List.Nodup
import PromptScript.Json.Reader
import PromptScript.Proofs.Attempt
import PromptScript.Proofs.Json.Members

/-!
# Well-formed values

A value is well formed if its whole numbers fit 64 bits, with or without a sign, and the members
of each of its objects stand in order.  Every value that a text is read as is well formed, and so
is everything that a run takes out of such a value or puts together from texts.  Where the members
stand in order, each field of a record is found.
-/

namespace PromptScript

/-- Whether a whole number fits 64 bits, with or without a sign. -/
def Number.InRange : Number → Prop
  | .int value => -0x8000000000000000 ≤ value ∧ value ≤ 0xffffffffffffffff
  | .float _ => True

namespace Json

/-- Whether a property holds of each number in a value. -/
inductive EachNumber (property : Number → Prop) : Json → Prop
  | null : EachNumber property .null
  | bool (value : Bool) : EachNumber property (.bool value)
  | number {value : Number} (hvalue : property value) : EachNumber property (.number value)
  | string (text : String) : EachNumber property (.string text)
  | array {items : List Json} (hitems : ∀ item ∈ items, EachNumber property item) :
      EachNumber property (.array items)
  | object {members : List (String × Json)}
      (hmembers : ∀ entry ∈ members, EachNumber property entry.2) :
      EachNumber property (.object members)

/-- Whether whole numbers are in range and members in order, at every depth. -/
inductive WellFormed : Json → Prop
  | null : WellFormed .null
  | bool (value : Bool) : WellFormed (.bool value)
  | number {value : Number} (hvalue : value.InRange) : WellFormed (.number value)
  | string (text : String) : WellFormed (.string text)
  | array {items : List Json} (hitems : ∀ item ∈ items, WellFormed item) :
      WellFormed (.array items)
  | object {members : List (String × Json)} (hordered : Ordered members)
      (hmembers : ∀ entry ∈ members, WellFormed entry.2) : WellFormed (.object members)

/-! ## Sorting -/

theorem sortedItems_eq_map (items : List Json) : sortedItems items = items.map sorted := by
  induction items with
  | nil => rfl
  | cons item rest ih => simp only [sortedItems, ih, List.map_cons]

theorem sortedMembers_eq_map (members : List (String × Json)) :
    sortedMembers members = members.map fun entry => (entry.1, entry.2.sorted) := by
  induction members with
  | nil => rfl
  | cons entry rest ih =>
      obtain ⟨name, value⟩ := entry
      simp only [sortedMembers, ih, List.map_cons]

theorem wellFormed_ofMembers {members : List (String × Json)}
    (hmembers : ∀ entry ∈ members, WellFormed entry.2) : WellFormed (ofMembers members) := by
  rw [ofMembers_eq]
  refine .object (Ordered.insertAll List.Pairwise.nil members) ?_
  intro entry hentry
  rcases mem_insertAll hentry with hnone | hmem
  · exact absurd hnone List.not_mem_nil
  · exact hmembers entry hmem

/-- Sorting brings a value whose numbers are in range into order. -/
theorem EachNumber.wellFormed_sorted {value : Json}
    (hvalue : value.EachNumber Number.InRange) : value.sorted.WellFormed := by
  induction hvalue with
  | null => exact .null
  | bool value => exact .bool value
  | number hvalue => exact .number hvalue
  | string text => exact .string text
  | array hitems ih =>
      rw [sorted, sortedItems_eq_map]
      refine .array ?_
      intro item hitem
      obtain ⟨source, hsource, rfl⟩ := List.mem_map.mp hitem
      exact ih source hsource
  | object hmembers ih =>
      rw [sorted, sortedMembers_eq_map]
      apply wellFormed_ofMembers
      intro entry hentry
      obtain ⟨source, hsource, rfl⟩ := List.mem_map.mp hentry
      exact ih source hsource

/-- Sorting changes nothing in a well-formed value. -/
theorem WellFormed.sorted_eq {value : Json} (hvalue : value.WellFormed) :
    value.sorted = value := by
  induction hvalue with
  | null => rfl
  | bool value => rfl
  | number hvalue => rfl
  | string text => rfl
  | array hitems ih =>
      rw [sorted, sortedItems_eq_map]
      congr 1
      calc
        List.map sorted _ = List.map id _ := List.map_congr_left ih
        _ = _ := List.map_id _
  | @object members hordered hmembers ih =>
      have hsame : members.map (fun entry => (entry.1, entry.2.sorted)) = members := by
        calc
          members.map (fun entry => (entry.1, entry.2.sorted)) = members.map id := by
            apply List.map_congr_left
            intro entry hentry
            rw [ih entry hentry]
            rfl
          _ = members := List.map_id members
      rw [sorted, sortedMembers_eq_map, hsame, ofMembers_of_ordered hordered]

theorem WellFormed.eachNumber {value : Json} (hvalue : value.WellFormed) :
    value.EachNumber Number.InRange := by
  induction hvalue with
  | null => exact .null
  | bool value => exact .bool value
  | number hvalue => exact .number hvalue
  | string text => exact .string text
  | array hitems ih => exact .array ih
  | object hordered hmembers ih => exact .object ih

/-! ## Reading -/

section Reading

variable {cursor behind : Cursor} {number : Number}

@[simp]
theorem fail_eq_ok_iff {α : Type} {fault : Fault} {result : α} :
    cursor.fail fault = .ok result ↔ False := by
  simp [Cursor.fail]

@[simp]
theorem failNext_eq_ok_iff {α : Type} {fault : Fault} {result : α} :
    cursor.failNext fault = .ok result ↔ False := by
  unfold Cursor.failNext
  split
  next => exact fail_eq_ok_iff
  next => split <;> simp

theorem accumulate_le {significand : Nat} (hsignificand : significand ≤ maxSignificand)
    (digits : List Char) : (accumulate significand digits).1 ≤ maxSignificand := by
  fun_induction accumulate significand digits with
  | case1 significand => exact hsignificand
  | case2 significand d rest next hfits ih => exact ih hfits
  | case3 significand d rest next hlarge => exact hsignificand

/-- A property of each number that a numeral is read as: of whole numbers, of scaled significands with
or without a sign, and of zeros with an exponent too large to be read. -/
structure OfNumerals (property : Number → Prop) : Prop where
  whole (positive : Bool) {significand : Nat} (hsignificand : significand ≤ maxSignificand) :
    property (wholeNumber positive significand)
  scaled (positive : Bool) {significand : Nat} {exponent : Int} {x : Float}
    (hscaled : scaled? significand exponent = some x) :
    property (.float (if positive then x else -x))
  zero (positive : Bool) : property (.float (if positive then 0.0 else -0.0))

namespace OfNumerals

variable {property : Number → Prop} {positive : Bool} {significand : Nat}

theorem finishFloat (hproperty : OfNumerals property) {exponent : Int}
    (hread : finishFloat cursor positive significand exponent = .ok (number, behind)) :
    property number := by
  unfold Json.finishFloat at hread
  split at hread
  next x hscaled =>
    cases hread
    exact hproperty.scaled positive hscaled
  next => simp at hread

theorem readExponent (hproperty : OfNumerals property) {scale : Int}
    (hread : readExponent cursor positive significand scale = .ok (number, behind)) :
    property number := by
  unfold Json.readExponent at hread
  split at hread
  split at hread
  next => simp at hread
  next =>
    split at hread
    next => simp at hread
    next =>
      simp only at hread
      split at hread
      next => exact hproperty.finishFloat hread
      next =>
        split at hread
        next => simp at hread
        next =>
          cases hread
          exact hproperty.zero positive

theorem readFraction (hproperty : OfNumerals property) {scale : Int}
    (hread : readFraction cursor positive significand scale = .ok (number, behind)) :
    property number := by
  simp only [Json.readFraction] at hread
  split at hread
  next => split at hread <;> simp at hread
  next =>
    unfold readFloatEnd at hread
    split at hread
    · exact hproperty.readExponent hread
    · exact hproperty.readExponent hread
    · exact hproperty.finishFloat hread

theorem readWholeEnd (hproperty : OfNumerals property) {dropped : Nat}
    (hsignificand : significand ≤ maxSignificand)
    (hread : readWholeEnd cursor positive significand dropped = .ok (number, behind)) :
    property number := by
  unfold Json.readWholeEnd at hread
  split at hread
  · exact hproperty.readFraction hread
  · exact hproperty.readExponent hread
  · exact hproperty.readExponent hread
  · split at hread
    next =>
      cases hread
      exact hproperty.whole positive hsignificand
    next => exact hproperty.finishFloat hread

theorem readNumber (hproperty : OfNumerals property)
    (hread : readNumber positive cursor = .ok (number, behind)) : property number := by
  unfold Json.readNumber at hread
  split at hread
  next => simp at hread
  next =>
    split at hread
    next => simp at hread
    next => exact hproperty.readWholeEnd (Nat.zero_le _) hread
  next =>
    split at hread
    next => simp at hread
    next => exact hproperty.readWholeEnd (accumulate_le (Nat.zero_le _) _) hread

end OfNumerals

theorem ofNumerals_inRange : OfNumerals Number.InRange where
  whole positive significand hsignificand := by
    have hlimit : maxSignificand = 0xffffffffffffffff := rfl
    unfold wholeNumber
    split
    next =>
      simp only [Number.InRange]
      omega
    next =>
      split
      next hnegative =>
        simp only [Number.InRange]
        omega
      next => trivial
  scaled _ _ _ _ _ := trivial
  zero _ := trivial

/-- A property of a value, and of the depth that is left where the value is read, that holds of every
value whose numbers were read and whose parts have the property one level deeper. -/
structure Hereditary (property : Nat → Json → Prop) : Prop where
  null (depth : Nat) : property depth .null
  bool (depth : Nat) (value : Bool) : property depth (.bool value)
  string (depth : Nat) (text : String) : property depth (.string text)
  number (depth : Nat) {positive : Bool} {cursor behind : Cursor} {number : Number}
    (hread : readNumber positive cursor = .ok (number, behind)) : property depth (.number number)
  array {depth : Nat} {items : List Json} (hdepth : 0 < depth)
    (hitems : ∀ item ∈ items, property depth item) : property (depth + 1) (.array items)
  object {depth : Nat} {members : List (String × Json)} (hdepth : 0 < depth)
    (hmembers : ∀ entry ∈ members, property depth entry.2) : property (depth + 1) (.object members)

/-- What the three readers give with some fuel has the property. -/
structure Reads (property : Nat → Json → Prop) (fuel : Nat) : Prop where
  value {depth : Nat} {cursor behind : Cursor} {value : Json}
    (hread : readValue fuel depth cursor = .ok (value, behind)) : property depth value
  items {depth : Nat} {first : Bool} {cursor behind : Cursor} {items : List Json}
    (hread : readItems fuel depth first cursor = .ok (items, behind)) :
    ∀ item ∈ items, property depth item
  members {depth : Nat} {first : Bool} {cursor behind : Cursor} {members : List (String × Json)}
    (hread : readMembers fuel depth first cursor = .ok (members, behind)) :
    ∀ entry ∈ members, property depth entry.2

section Steps

variable {property : Nat → Json → Prop} {fuel depth : Nat} {first : Bool} {value : Json}
  {items : List Json} {members : List (String × Json)}

theorem Hereditary.readValue (hproperty : Hereditary property) (hless : Reads property fuel)
    (hread : readValue (fuel + 1) depth cursor = .ok (value, behind)) : property depth value := by
  simp only [Json.readValue] at hread
  split at hread
  next => simp at hread
  next =>
    simp only [Attempt.bind_eq_ok_iff, Attempt.pure_eq_ok_iff, Prod.mk.injEq] at hread
    obtain ⟨_, -, rfl, -⟩ := hread
    exact hproperty.null depth
  next =>
    simp only [Attempt.bind_eq_ok_iff, Attempt.pure_eq_ok_iff, Prod.mk.injEq] at hread
    obtain ⟨_, -, rfl, -⟩ := hread
    exact hproperty.bool depth true
  next =>
    simp only [Attempt.bind_eq_ok_iff, Attempt.pure_eq_ok_iff, Prod.mk.injEq] at hread
    obtain ⟨_, -, rfl, -⟩ := hread
    exact hproperty.bool depth false
  next =>
    simp only [Attempt.bind_eq_ok_iff, Attempt.pure_eq_ok_iff, Prod.mk.injEq,
      Prod.exists] at hread
    obtain ⟨number, _, hnumber, rfl, -⟩ := hread
    exact hproperty.number depth hnumber
  next =>
    simp only [Attempt.bind_eq_ok_iff, Attempt.pure_eq_ok_iff, Prod.mk.injEq,
      Prod.exists] at hread
    obtain ⟨text, _, -, rfl, -⟩ := hread
    exact hproperty.string depth text
  next =>
    split at hread
    · simp at hread
    · simp at hread
    next deeper hdeeper =>
      simp only [Attempt.bind_eq_ok_iff, Attempt.pure_eq_ok_iff, Prod.mk.injEq,
        Prod.exists] at hread
      obtain ⟨items, _, hread, rfl, -⟩ := hread
      exact hproperty.array (Nat.pos_of_ne_zero hdeeper) (hless.items hread)
  next =>
    split at hread
    · simp at hread
    · simp at hread
    next deeper hdeeper =>
      simp only [Attempt.bind_eq_ok_iff, Attempt.pure_eq_ok_iff, Prod.mk.injEq,
        Prod.exists] at hread
      obtain ⟨members, _, hread, rfl, -⟩ := hread
      exact hproperty.object (Nat.pos_of_ne_zero hdeeper) (hless.members hread)
  next =>
    split at hread
    next =>
      simp only [Attempt.bind_eq_ok_iff, Attempt.pure_eq_ok_iff, Prod.mk.injEq,
        Prod.exists] at hread
      obtain ⟨number, _, hnumber, rfl, -⟩ := hread
      exact hproperty.number depth hnumber
    next => simp at hread

theorem Reads.readItems (hless : Reads property fuel)
    (hread : readItems (fuel + 1) depth first cursor = .ok (items, behind)) :
    ∀ item ∈ items, property depth item := by
  simp only [Json.readItems, Attempt.bind_eq_ok_iff] at hread
  obtain ⟨⟨next, after⟩, -, hread⟩ := hread
  cases next with
  | none =>
      simp only [Attempt.pure_eq_ok_iff, Prod.mk.injEq] at hread
      obtain ⟨rfl, -⟩ := hread
      exact fun item hitem => absurd hitem List.not_mem_nil
  | some start =>
      simp only [Attempt.bind_eq_ok_iff, Attempt.pure_eq_ok_iff, Prod.mk.injEq,
        Prod.exists] at hread
      obtain ⟨value, middle, hfirst, rest, last, hrest, rfl, -⟩ := hread
      intro item hitem
      rcases List.mem_cons.mp hitem with rfl | hlater
      · exact hless.value hfirst
      · exact hless.items hrest item hlater

theorem Reads.readMembers (hless : Reads property fuel)
    (hread : readMembers (fuel + 1) depth first cursor = .ok (members, behind)) :
    ∀ entry ∈ members, property depth entry.2 := by
  simp only [Json.readMembers, Attempt.bind_eq_ok_iff] at hread
  obtain ⟨⟨next, after⟩, -, hread⟩ := hread
  cases next with
  | none =>
      simp only [Attempt.pure_eq_ok_iff, Prod.mk.injEq] at hread
      obtain ⟨rfl, -⟩ := hread
      exact fun entry hentry => absurd hentry List.not_mem_nil
  | some start =>
      simp only [Attempt.bind_eq_ok_iff, Attempt.pure_eq_ok_iff, Prod.mk.injEq,
        Prod.exists] at hread
      obtain ⟨name, named, -, colon, -, value, middle, hfirst, rest, last, hrest, rfl, -⟩ := hread
      intro entry hentry
      rcases List.mem_cons.mp hentry with rfl | hlater
      · exact hless.value hfirst
      · exact hless.members hrest entry hlater

/-- The induction is on the fuel that the three readers hand on to one another. -/
theorem Hereditary.reads (hproperty : Hereditary property) (fuel : Nat) : Reads property fuel := by
  induction fuel with
  | zero =>
      constructor
      · intro depth cursor behind value hread
        simp [Json.readValue] at hread
      · intro depth first cursor behind items hread
        simp [Json.readItems] at hread
      · intro depth first cursor behind members hread
        simp [Json.readMembers] at hread
  | succ fuel ih => exact ⟨hproperty.readValue ih, ih.readItems, ih.readMembers⟩

end Steps

theorem OfNumerals.hereditary {property : Number → Prop} (hproperty : OfNumerals property) :
    Hereditary fun _ value => value.EachNumber property where
  null _ := .null
  bool _ value := .bool value
  string _ text := .string text
  number _ {_ _ _ _} hread := .number (hproperty.readNumber hread)
  array _ hitems := .array hitems
  object _ hmembers := .object hmembers

/-- Putting members in order keeps the property. -/
theorem Hereditary.sorted {property : Nat → Json → Prop} (hproperty : Hereditary property) :
    Hereditary fun depth value => property depth value.sorted where
  null depth := hproperty.null depth
  bool depth value := hproperty.bool depth value
  string depth text := hproperty.string depth text
  number depth {_ _ _ _} hread := hproperty.number depth hread
  array {depth items} hdepth hitems := by
    rw [Json.sorted, sortedItems_eq_map]
    exact hproperty.array hdepth (List.forall_mem_map.mpr hitems)
  object {depth members} hdepth hmembers := by
    rw [Json.sorted, sortedMembers_eq_map, ofMembers_eq]
    refine hproperty.object hdepth ?_
    intro entry hentry
    rcases mem_insertAll hentry with hnone | hmem
    · exact absurd hnone List.not_mem_nil
    · obtain ⟨source, hsource, rfl⟩ := List.mem_map.mp hmem
      exact hmembers source hsource

/-- A text is read as the value that is read from it, put in order. -/
theorem exists_of_parse {property : Nat → Json → Prop} (hproperty : Hereditary property)
    {text : String} {value : Json} (hparse : parse text = .ok value) :
    ∃ raw : Json, property depthLimit raw ∧ value = raw.sorted := by
  simp only [parse, readText, Attempt.map_eq_ok_iff, Attempt.bind_eq_ok_iff] at hparse
  obtain ⟨raw, ⟨⟨read, behind⟩, hread, hend⟩, rfl⟩ := hparse
  simp at hend
  obtain ⟨-, rfl⟩ := hend
  exact ⟨read, (hproperty.reads _).value hread, rfl⟩

end Reading

theorem Hereditary.of_parse {property : Nat → Json → Prop} (hproperty : Hereditary property)
    {text : String} {value : Json} (hparse : parse text = .ok value) :
    property depthLimit value := by
  obtain ⟨raw, hraw, rfl⟩ := exists_of_parse hproperty.sorted hparse
  exact hraw

/-- Every value that a text is read as is well formed. -/
theorem wellFormed_of_parse {text : String} {value : Json} (hparse : parse text = .ok value) :
    value.WellFormed := by
  obtain ⟨raw, hraw, rfl⟩ := exists_of_parse ofNumerals_inRange.hereditary hparse
  exact hraw.wellFormed_sorted

/-! ## Inheritance -/

/-- A property that passes on to the parts of a value, and that texts, lists of named texts and
values read from texts have by themselves. -/
structure Inherited (property : Json → Prop) : Prop where
  text (body : String) : property (.string body)
  item {items : List Json} {value : Json} (hitems : property (.array items))
    (hvalue : value ∈ items) : property value
  member {members : List (String × Json)} {name : String} {value : Json}
    (hmembers : property (.object members)) (hvalue : (name, value) ∈ members) : property value
  parsed {text : String} {value : Json} (hparse : parse text = .ok value) : property value
  texts {members : List (String × Json)}
    (hmembers : ∀ entry ∈ members, ∃ text, entry.2 = .string text) : property (ofMembers members)

theorem inherited_true : Inherited fun _ => True :=
  ⟨fun _ => trivial, fun _ _ => trivial, fun _ _ => trivial, fun _ => trivial, fun _ => trivial⟩

theorem inherited_wellFormed : Inherited WellFormed where
  text body := .string body
  item hitems hvalue := by
    cases hitems with
    | array hitems => exact hitems _ hvalue
  member hmembers hvalue := by
    cases hmembers with
    | object hordered hmembers => exact hmembers _ hvalue
  parsed hparse := wellFormed_of_parse hparse
  texts hmembers := by
    apply wellFormed_ofMembers
    intro entry hentry
    obtain ⟨text, htext⟩ := hmembers entry hentry
    rw [htext]
    exact .string text

namespace Inherited

variable {property : Json → Prop}

theorem empty (hinherited : Inherited property) : property (.object []) := by
  exact hinherited.texts fun entry hentry => absurd hentry List.not_mem_nil

theorem member? (hinherited : Inherited property) {value : Json} (hvalue : property value)
    {name : String} {found : Json} (hfound : value.member? name = some found) :
    property found := by
  unfold Json.member? at hfound
  split at hfound
  next => exact hinherited.member hvalue (lookup?_mem hfound)
  next => exact nomatch hfound

end Inherited

/-!
## Records in order

The fields of a record are found again when the members of its object have been put in order.
-/

section Records

variable {members : List (String × Json)}

theorem Ordered.nodup (hordered : Ordered members) : (members.map Prod.fst).Nodup :=
  List.pairwise_map.mpr (hordered.imp fun hlt => String.ne_of_lt hlt)

/-- Where no name stands twice, a field is given at most once. -/
theorem uniqueMember?_of_nodup (name : String) (hnodup : (members.map Prod.fst).Nodup) :
    uniqueMember? name members = some (lookup? name members) := by
  have hfilter : members.filter (fun entry => entry.1 == name) =
      (members.find? fun entry => entry.1 == name).toList := by
    induction members with
    | nil => rfl
    | cons entry rest ih =>
        obtain ⟨hfirst, hrest⟩ := List.nodup_cons.mp hnodup
        by_cases hname : entry.1 = name
        · have hnone : rest.filter (fun later => later.1 == name) = [] := by
            rw [List.filter_eq_nil_iff]
            intro later hlater hsame
            refine hfirst (List.mem_map.mpr ⟨later, hlater, ?_⟩)
            rw [hname, beq_iff_eq.mp hsame]
          simp [hname, hnone]
        · simpa [hname] using ih hrest
  rw [uniqueMember?, hfilter, lookup?]
  cases members.find? fun entry => entry.1 == name <;> rfl

theorem fieldsOfMembers?_of_nodup (names : List String) (hnodup : (members.map Prod.fst).Nodup) :
    fieldsOfMembers? names members = some (names.map fun name => lookup? name members) := by
  rw [fieldsOfMembers?]
  simp only [uniqueMember?_of_nodup _ hnodup]
  exact List.mapM_pure

/-- The members of an object, put in order. -/
theorem sorted_object (members : List (String × Json)) :
    ∃ ordered, (object members).sorted = .object ordered ∧ Ordered ordered ∧
      ((members.map Prod.fst).Nodup →
        ∀ name, lookup? name ordered = (lookup? name members).map sorted) := by
  refine ⟨insertAll [] (members.map fun entry => (entry.1, entry.2.sorted)), ?_, ?_, ?_⟩
  · rw [sorted, sortedMembers_eq_map, ofMembers_eq]
  · exact Ordered.insertAll List.Pairwise.nil _
  · intro hnodup name
    have hnames : ((members.map fun entry => (entry.1, entry.2.sorted)).map Prod.fst).Nodup := by
      rw [List.map_map]
      exact hnodup
    rw [lookup?_insertAll name hnames, lookup?_map]
    exact Option.or_none

/-- The fields of a record whose members have been put in order. -/
theorem fields?_sorted (members : List (String × Json)) (names : List String)
    (hnodup : (members.map Prod.fst).Nodup) :
    (object members).sorted.fields? names =
      some (names.map fun name => (lookup? name members).map sorted) := by
  obtain ⟨ordered, hsorted, hordered, hlookup⟩ := sorted_object members
  rw [hsorted, fields?, fieldsOfMembers?_of_nodup names hordered.nodup]
  simp only [hlookup hnodup]

/-- A list is found again where each of its entries is. -/
theorem mapM_map_eq_some {α : Type} {encode : α → Json} {decode : Json → Option α} {entries : List α}
    (hentries : ∀ entry ∈ entries, decode (encode entry) = some entry) :
    (entries.map encode).mapM decode = some entries := by
  induction entries with
  | nil => rfl
  | cons entry rest ih =>
      have hrest := ih fun later hlater => hentries later (List.mem_cons_of_mem _ hlater)
      rw [List.map_cons, List.mapM_cons, hentries entry List.mem_cons_self, hrest]
      rfl

end Records

end Json

end PromptScript
