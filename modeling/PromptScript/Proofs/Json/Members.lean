import PromptScript.Json.Basic

/-!
# Lists of members

An object keeps its members in the order of their names.  Putting a member in keeps that order,
keeps every other member, and gives the name its new value; members that already stand in order are
put in one after another without any change.

A change in one member of an object, or in one item of an array, is a relation between the two
values, and what is looked up elsewhere is the same in both.
-/

namespace PromptScript.Json

@[simp]
theorem lookup?_nil (name : String) : lookup? name [] = none := rfl

@[simp]
theorem lookup?_cons (name other : String) (value : Json) (rest : List (String × Json)) :
    lookup? name ((other, value) :: rest) =
      if other = name then some value else lookup? name rest := by
  by_cases hname : other = name <;> simp [lookup?, hname]

@[simp]
theorem lookup?_append (name : String) (first second : List (String × Json)) :
    lookup? name (first ++ second) = (lookup? name first).or (lookup? name second) := by
  simp [lookup?, List.find?_append, Option.map_or]

theorem lookup?_of_not_mem {name : String} {members : List (String × Json)} (hname : name ∉ members.map Prod.fst) :
    lookup? name members = none := by
  rw [lookup?, Option.map_eq_none_iff, List.find?_eq_none]
  intro entry hentry hsame
  exact hname (List.mem_map.mpr ⟨entry, hentry, by simpa using hsame⟩)

theorem lookup?_middle {name : String} {front back : List (String × Json)} (value : Json)
    (hname : name ∉ (front ++ back).map Prod.fst) :
    lookup? name (front ++ (name, value) :: back) = some value := by
  rw [List.map_append, List.mem_append, not_or] at hname
  rw [lookup?_append, lookup?_of_not_mem hname.1, lookup?_cons, if_pos rfl, Option.none_or]

theorem lookup?_of_mem {members : List (String × Json)} (hnodup : (members.map Prod.fst).Nodup)
    {entry : String × Json} (hentry : entry ∈ members) : lookup? entry.1 members = some entry.2 := by
  induction members with
  | nil => exact nomatch hentry
  | cons first rest ih =>
      obtain ⟨hfirst, hrest⟩ := List.nodup_cons.mp hnodup
      rcases List.mem_cons.mp hentry with rfl | hlater
      · simp [lookup?]
      · have hother : first.1 ≠ entry.1 := by
          intro hsame
          exact hfirst (List.mem_map.mpr ⟨entry, hlater, hsame.symm⟩)
        have hfound := ih hrest hlater
        simpa [lookup?, hother] using hfound

/-- Leaving out a name keeps what is looked up under others. -/
theorem lookup?_filter {name other : String} (hother : name ≠ other)
    (members : List (String × Json)) :
    lookup? name (members.filter fun entry => entry.1 != other) = lookup? name members := by
  rw [lookup?, lookup?, List.find?_filter]
  congr 2
  funext entry
  by_cases hname : entry.1 = name
  · simp [hname, hother]
  · simp [hname]

theorem lookup?_map (name : String) (change : Json → Json) (members : List (String × Json)) :
    lookup? name (members.map fun entry => (entry.1, change entry.2)) =
      (lookup? name members).map change := by
  rw [lookup?, lookup?, List.find?_map, Option.map_map, Option.map_map]
  rfl

@[simp]
theorem member?_object (name : String) (members : List (String × Json)) :
    (object members).member? name = lookup? name members := rfl

theorem eq_array_of_asArray? {value : Json} {items : List Json}
    (hitems : value.asArray? = some items) : value = .array items := by
  unfold asArray? at hitems
  split at hitems
  next =>
    cases hitems
    rfl
  next => exact nomatch hitems

theorem eq_object_of_asObject? {value : Json} {members : List (String × Json)}
    (hmembers : value.asObject? = some members) : value = .object members := by
  unfold asObject? at hmembers
  split at hmembers
  next =>
    cases hmembers
    rfl
  next => exact nomatch hmembers

/-- Whether members stand in the strict order of their names. -/
def Ordered (members : List (String × Json)) : Prop :=
  members.Pairwise fun left right => left.1 < right.1

theorem mem_insertMember {name : String} {value : Json} {members : List (String × Json)}
    {entry : String × Json} (hentry : entry ∈ insertMember name value members) :
    entry = (name, value) ∨ entry ∈ members := by
  fun_induction insertMember name value members with
  | case1 => simpa using hentry
  | case2 other old rest hbefore => simpa using hentry
  | case3 old rest hbefore =>
      rcases List.mem_cons.mp hentry with hnew | hrest
      · exact .inl hnew
      · exact .inr (List.mem_cons_of_mem _ hrest)
  | case4 other old rest hbefore hother ih =>
      rcases List.mem_cons.mp hentry with hfirst | hlater
      · exact .inr (List.mem_cons.mpr (.inl hfirst))
      · exact (ih hlater).imp_right (List.mem_cons_of_mem _)

theorem Ordered.insertMember {name : String} {value : Json} {members : List (String × Json)}
    (hordered : Ordered members) : Ordered (insertMember name value members) := by
  fun_induction Json.insertMember name value members with
  | case1 => exact List.pairwise_singleton _ _
  | case2 other old rest hbefore =>
      refine List.pairwise_cons.mpr ⟨?_, hordered⟩
      intro entry hentry
      rcases List.mem_cons.mp hentry with rfl | hrest
      · exact hbefore
      · exact String.lt_trans hbefore ((List.pairwise_cons.mp hordered).1 entry hrest)
  | case3 old rest hbefore =>
      obtain ⟨hfirst, hrest⟩ := List.pairwise_cons.mp hordered
      exact List.pairwise_cons.mpr ⟨hfirst, hrest⟩
  | case4 other old rest hbefore hother ih =>
      obtain ⟨hfirst, hrest⟩ := List.pairwise_cons.mp hordered
      refine List.pairwise_cons.mpr ⟨?_, ih hrest⟩
      intro entry hentry
      rcases mem_insertMember hentry with rfl | hold
      · exact Std.lt_of_le_of_ne (String.not_lt.mp hbefore) (Ne.symm hother)
      · exact hfirst entry hold

/-- A name takes the value that is put in last, and every other name keeps its own. -/
theorem lookup?_insertMember (name other : String) (value : Json)
    (members : List (String × Json)) :
    lookup? other (insertMember name value members) =
      if name = other then some value else lookup? other members := by
  fun_induction Json.insertMember name value members with
  | case1 => simp
  | case2 first old rest hbefore => simp
  | case3 old rest hbefore => by_cases hsame : name = other <;> simp [hsame]
  | case4 first old rest hbefore hfirst ih =>
      rw [lookup?_cons, lookup?_cons, ih]
      by_cases hsame : name = other
      · rw [if_pos hsame, if_pos hsame, if_neg (hsame ▸ Ne.symm hfirst)]
      · rw [if_neg hsame, if_neg hsame]

/-- A member whose name comes behind all others is put at the end. -/
theorem insertMember_of_lt {name : String} {value : Json} {members : List (String × Json)}
    (hlast : ∀ entry ∈ members, entry.1 < name) :
    insertMember name value members = members ++ [(name, value)] := by
  induction members with
  | nil => rfl
  | cons entry rest ih =>
      obtain ⟨other, old⟩ := entry
      have hother : other < name := hlast (other, old) List.mem_cons_self
      have hbefore : ¬name < other := String.lt_asymm hother
      have hdiffer : ¬name = other := Ne.symm (String.ne_of_lt hother)
      have hrest := ih fun later hlater => hlast later (List.mem_cons_of_mem _ hlater)
      simp only [insertMember, hbefore, hdiffer, if_false, hrest, List.cons_append]

/-- Putting in the members of a list one after another. -/
def insertAll (sorted members : List (String × Json)) : List (String × Json) :=
  members.foldl (fun sorted (name, value) => insertMember name value sorted) sorted

@[simp]
theorem insertAll_nil (sorted : List (String × Json)) : insertAll sorted [] = sorted := rfl

@[simp]
theorem insertAll_cons (sorted rest : List (String × Json)) (entry : String × Json) :
    insertAll sorted (entry :: rest) = insertAll (insertMember entry.1 entry.2 sorted) rest := rfl

theorem ofMembers_eq (members : List (String × Json)) :
    ofMembers members = .object (insertAll [] members) := rfl

theorem mem_insertAll {sorted members : List (String × Json)} {entry : String × Json}
    (hentry : entry ∈ insertAll sorted members) : entry ∈ sorted ∨ entry ∈ members := by
  induction members generalizing sorted with
  | nil => exact .inl hentry
  | cons first rest ih =>
      rcases ih hentry with hearlier | hrest
      · rcases mem_insertMember hearlier with hfirst | hsorted
        · exact .inr (List.mem_cons.mpr (.inl hfirst))
        · exact .inl hsorted
      · exact .inr (List.mem_cons_of_mem _ hrest)

theorem Ordered.insertAll {sorted : List (String × Json)} (hordered : Ordered sorted)
    (members : List (String × Json)) : Ordered (insertAll sorted members) := by
  induction members generalizing sorted with
  | nil => exact hordered
  | cons first rest ih => exact ih hordered.insertMember

theorem insertMember_perm {name : String} {value : Json} {members : List (String × Json)}
    (hnew : name ∉ members.map Prod.fst) :
    (insertMember name value members).Perm ((name, value) :: members) := by
  fun_induction insertMember name value members with
  | case1 => exact .refl _
  | case2 other old rest hbefore => exact .refl _
  | case3 old rest hbefore => exact absurd List.mem_cons_self hnew
  | case4 other old rest hbefore hother ih =>
      rw [List.map_cons, List.mem_cons, not_or] at hnew
      exact ((ih hnew.2).cons (other, old)).trans (.swap _ _ _)

/-- Members of different names are all there once they are put in. -/
theorem insertAll_perm (sorted : List (String × Json)) {members : List (String × Json)}
    (hnodup : ((sorted ++ members).map Prod.fst).Nodup) :
    (insertAll sorted members).Perm (sorted ++ members) := by
  induction members generalizing sorted with
  | nil => simp
  | cons first rest ih =>
      have hmiddle : (sorted ++ first :: rest).Perm ((first :: sorted) ++ rest) :=
        List.perm_middle
      have hmoved := (hmiddle.map Prod.fst).nodup_iff.mp hnodup
      have hnew : first.1 ∉ sorted.map Prod.fst := by
        rw [List.cons_append, List.map_cons, List.nodup_cons, List.map_append] at hmoved
        exact fun hmem => hmoved.1 (List.mem_append_left _ hmem)
      have hinsert : (insertMember first.1 first.2 sorted ++ rest).Perm
          ((first :: sorted) ++ rest) :=
        (insertMember_perm hnew).append_right rest
      have hnames := (hinsert.map Prod.fst).nodup_iff.mpr hmoved
      rw [insertAll_cons]
      exact (ih _ hnames).trans (hinsert.trans hmiddle.symm)

/-- Members in order that come behind all others are appended. -/
theorem insertAll_of_ordered (sorted : List (String × Json)) {members : List (String × Json)}
    (hordered : Ordered (sorted ++ members)) : insertAll sorted members = sorted ++ members := by
  induction members generalizing sorted with
  | nil => simp
  | cons first rest ih =>
      have hlast : ∀ entry ∈ sorted, entry.1 < first.1 := by
        intro entry hentry
        exact (List.pairwise_append.mp hordered).2.2 entry hentry first List.mem_cons_self
      rw [insertAll_cons, insertMember_of_lt hlast, ih _ (by simpa using hordered)]
      simp

theorem ofMembers_of_ordered {members : List (String × Json)} (hordered : Ordered members) :
    ofMembers members = .object members := by
  rw [ofMembers_eq, insertAll_of_ordered [] (by simpa using hordered),
    List.nil_append]

/-- Where no name stands twice, the value of a name does not depend on the order. -/
theorem lookup?_insertAll {members : List (String × Json)} (name : String)
    (hnodup : (members.map Prod.fst).Nodup) (sorted : List (String × Json)) :
    lookup? name (insertAll sorted members) =
      (lookup? name members).or (lookup? name sorted) := by
  induction members generalizing sorted with
  | nil => simp [lookup?]
  | cons first rest ih =>
      obtain ⟨hfirst, hrest⟩ := List.nodup_cons.mp hnodup
      rw [insertAll_cons, ih hrest, lookup?_insertMember]
      by_cases hname : first.1 = name
      · have hnone : lookup? name rest = none := lookup?_of_not_mem (hname ▸ hfirst)
        rw [hnone]
        simp [hname, lookup?]
      · simp [hname, lookup?]

theorem lookup?_mem {name : String} {value : Json} {members : List (String × Json)}
    (hfound : lookup? name members = some value) : (name, value) ∈ members := by
  rw [lookup?, Option.map_eq_some_iff] at hfound
  obtain ⟨entry, hentry, rfl⟩ := hfound
  have hname : entry.1 = name := by simpa using List.find?_some hentry
  rw [← hname]
  exact List.mem_of_find?_eq_some hentry

/-! ## Changes inside a value -/

/-- Whether the second value is the first one, an object, without its member of the given name,
which is null. -/
def DropsNull (name : String) (value cleared : Json) : Prop :=
  ∃ front back, name ∉ (front ++ back).map Prod.fst ∧
    value = .object (front ++ (name, .null) :: back) ∧ cleared = .object (front ++ back)

/-- Whether two objects differ in their member of the given name only, in which one stands for the
other by the given change. -/
def AtMember (name : String) (change : Json → Json → Prop) (value changed : Json) : Prop :=
  ∃ front old new back, name ∉ (front ++ back).map Prod.fst ∧ change old new ∧
    value = .object (front ++ (name, old) :: back) ∧
    changed = .object (front ++ (name, new) :: back)

/-- Whether two arrays differ in one item only. -/
def AtItem (change : Json → Json → Prop) (value changed : Json) : Prop :=
  ∃ front old new back, change old new ∧ value = .array (front ++ old :: back) ∧
    changed = .array (front ++ new :: back)

/-- Whether two arrays differ in the first item only. -/
def AtFirst (change : Json → Json → Prop) (value changed : Json) : Prop :=
  ∃ old new rest, change old new ∧ value = .array (old :: rest) ∧ changed = .array (new :: rest)

/-- Whether two arrays differ in one item only, which is not the first. -/
def AtLater (change : Json → Json → Prop) (value changed : Json) : Prop :=
  ∃ first rest other, AtItem change (.array rest) (.array other) ∧
    value = .array (first :: rest) ∧ changed = .array (first :: other)

section Members

variable {name other : String} {value cleared changed : Json} {change : Json → Json → Prop}

theorem DropsNull.member?_eq_null (hdrops : DropsNull name value cleared) :
    value.member? name = some .null := by
  obtain ⟨front, back, hname, rfl, -⟩ := hdrops
  exact lookup?_middle .null hname

theorem DropsNull.member?_eq_none (hdrops : DropsNull name value cleared) :
    cleared.member? name = none := by
  obtain ⟨front, back, hname, -, rfl⟩ := hdrops
  exact lookup?_of_not_mem hname

theorem DropsNull.member?_of_ne (hdrops : DropsNull name value cleared) (hother : name ≠ other) :
    cleared.member? other = value.member? other := by
  obtain ⟨front, back, -, rfl, rfl⟩ := hdrops
  simp [hother]

/-- What takes null for nothing sees no difference. -/
theorem DropsNull.bind_eq {α : Type} {read : Json → Option α} (hnull : read .null = none)
    (hdrops : DropsNull name value cleared) (other : String) :
    (cleared.member? other).bind read = (value.member? other).bind read := by
  by_cases hsame : name = other
  · subst hsame
    rw [hdrops.member?_eq_none, hdrops.member?_eq_null, Option.bind_some, hnull, Option.bind_none]
  · rw [hdrops.member?_of_ne hsame]

theorem AtMember.exists_members (hat : AtMember name change value changed) :
    ∃ old new, change old new ∧ value.member? name = some old ∧
      changed.member? name = some new := by
  obtain ⟨front, old, new, back, hname, hchange, rfl, rfl⟩ := hat
  exact ⟨old, new, hchange, lookup?_middle old hname, lookup?_middle new hname⟩

theorem AtMember.member?_of_ne (hat : AtMember name change value changed) (hother : name ≠ other) :
    changed.member? other = value.member? other := by
  obtain ⟨front, old, new, back, -, -, rfl, rfl⟩ := hat
  simp [hother]

theorem AtItem.exists_items (hat : AtItem change value changed) :
    (∃ items, value = .array items) ∧ ∃ items, changed = .array items := by
  obtain ⟨front, old, new, back, -, rfl, rfl⟩ := hat
  exact ⟨⟨_, rfl⟩, ⟨_, rfl⟩⟩

end Members

end PromptScript.Json
