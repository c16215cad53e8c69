import Mathlib.Data.List.DropRight
import PromptScript.Proofs.Json.Quoted

/-!
# Reading written values

Both written forms of a value are read back as the value, its members in order, as long as its
numbers are and no more than 127 arrays and objects lie inside one another.  A value that lies
deeper is written all the same, but its text is refused.
-/

namespace PromptScript.Json

open Cursor (isSpace)

/-! ## Nesting -/

mutual

/-- The number of arrays and objects inside one another. -/
def nesting : Json → Nat
  | .array items => itemsNesting items + 1
  | .object members => membersNesting members + 1
  | .null | .bool _ | .number _ | .string _ => 0

/-- The greatest nesting of an item. -/
def itemsNesting : List Json → Nat
  | [] => 0
  | item :: rest => max item.nesting (itemsNesting rest)

/-- The greatest nesting of a member's value. -/
def membersNesting : List (String × Json) → Nat
  | [] => 0
  | (_, value) :: rest => max value.nesting (membersNesting rest)

end

theorem itemsNesting_le_iff {items : List Json} {limit : Nat} :
    itemsNesting items ≤ limit ↔ ∀ item ∈ items, item.nesting ≤ limit := by
  induction items with
  | nil => simp [itemsNesting]
  | cons item rest ih => rw [itemsNesting, Nat.max_le, ih, List.forall_mem_cons]

theorem membersNesting_le_iff {members : List (String × Json)} {limit : Nat} :
    membersNesting members ≤ limit ↔ ∀ entry ∈ members, entry.2.nesting ≤ limit := by
  induction members with
  | nil => simp [membersNesting]
  | cons entry rest ih => rw [membersNesting, Nat.max_le, ih, List.forall_mem_cons]

@[simp]
theorem nesting_array_le_iff {items : List Json} {limit : Nat} :
    (array items).nesting ≤ limit + 1 ↔ ∀ item ∈ items, item.nesting ≤ limit := by
  rw [nesting, Nat.add_le_add_iff_right, itemsNesting_le_iff]

@[simp]
theorem nesting_object_le_iff {members : List (String × Json)} {limit : Nat} :
    (object members).nesting ≤ limit + 1 ↔ ∀ entry ∈ members, entry.2.nesting ≤ limit := by
  rw [nesting, Nat.add_le_add_iff_right, membersNesting_le_iff]

/-! ## Cursors in front of texts -/

/-- Whether a cursor stands in front of a text, up to blanks. -/
def Cursor.Faces (cursor : Cursor) (text : List Char) : Prop :=
  cursor.rest.dropWhile isSpace = text.dropWhile isSpace

/-- Whether an attempt gives a value and leaves a text within a limit, and fails beyond it. -/
def Outcome {α : Type} (within : Prop) (result : Except ReadError (α × Cursor)) (value : α)
    (tail : List Char) : Prop :=
  (within → ∃ behind, result = .ok (value, behind) ∧ behind.Faces tail) ∧
    (¬within → ∃ error, result = .error error)

/-- Whether a text is read as a value wherever it stands.  Its length bounds the steps. -/
structure Readable (value : Json) (text : List Char) : Prop where
  begins : ∃ c more, text.dropWhile isSpace = c :: more ∧ c ≠ ']'
  reads (limit : Nat) {fuel : Nat} {cursor : Cursor} {tail : List Char}
    (hfuel : text.length ≤ fuel) (hends : EndsNumeral tail) (hfaces : cursor.Faces (text ++ tail)) :
    Outcome (value.nesting ≤ limit) (readValue fuel (limit + 1) cursor) value tail

section Facing

variable {cursor : Cursor} {text tail gap : List Char} {c : Char} {value : Json}

theorem Cursor.Faces.of_rest (hrest : cursor.rest = text) : cursor.Faces text := by
  rw [Faces, hrest]

theorem Cursor.Faces.skipSpace (hfaces : cursor.Faces text)
    (htext : text.dropWhile isSpace = c :: tail) : cursor.skipSpace.rest = c :: tail := by
  rw [rest_skipSpace, hfaces, htext]

theorem dropWhile_gap (hgap : Blanks gap) :
    (gap ++ text).dropWhile isSpace = text.dropWhile isSpace :=
  List.dropWhile_append_of_pos hgap

theorem dropWhile_append_of_begins (htext : text.dropWhile isSpace = c :: tail)
    (later : List Char) : (text ++ later).dropWhile isSpace = c :: (tail ++ later) := by
  rw [List.dropWhile_append, htext]
  rfl

theorem length_pos_of_begins (htext : text.dropWhile isSpace = c :: tail) : 0 < text.length := by
  cases text with
  | nil => exact nomatch htext
  | cons first more => exact Nat.succ_pos _

/-- A numeral ends where blanks stand, or a mark that belongs to no numeral. -/
theorem endsNumeral_gap (hgap : Blanks gap)
    (hmark : c.isDigit = false ∧ c ≠ '.' ∧ c ≠ 'e' ∧ c ≠ 'E') : EndsNumeral (gap ++ c :: tail) := by
  intro d hd
  cases gap with
  | nil =>
      cases hd
      exact hmark
  | cons space more =>
      cases hd
      have hspace := hgap d List.mem_cons_self
      simp only [isSpace, Bool.or_eq_true, beq_iff_eq] at hspace
      rcases hspace with ((rfl | rfl) | rfl) | rfl <;> decide

end Facing

theorem failNext_eq_error {α : Type} (cursor : Cursor) (fault : Fault) :
    ∃ error, (cursor.failNext fault : Except ReadError α) = .error error := by
  unfold Cursor.failNext
  split
  next => exact ⟨_, rfl⟩
  next => split <;> exact ⟨_, rfl⟩

/-! ## Values without parts -/

theorem Outcome.of_ok {α : Type} {within : Prop} {result : Except ReadError (α × Cursor)} {value : α}
    {tail : List Char} {behind : Cursor} (hwithin : within) (hresult : result = .ok (value, behind))
    (hrest : behind.rest = tail) : Outcome within result value tail :=
  ⟨fun _ => ⟨behind, hresult, .of_rest hrest⟩, fun hbeyond => absurd hwithin hbeyond⟩

theorem Outcome.map {α β : Type} {within : Prop} {result : Except ReadError (α × Cursor)} {value : α}
    {tail : List Char} (f : α → β) (hresult : Outcome within result value tail) :
    Outcome within (do
      let (value, behind) ← result
      return (f value, behind)) (f value) tail := by
  constructor
  · intro hwithin
    obtain ⟨behind, hok, hbehind⟩ := hresult.1 hwithin
    exact ⟨behind, by rw [hok]; rfl, hbehind⟩
  · intro hbeyond
    obtain ⟨error, herror⟩ := hresult.2 hbeyond
    exact ⟨error, by rw [herror]; rfl⟩

/-- What is read of a list follows from what is read of its first entry and behind it. -/
theorem Outcome.cons {α β : Type} {within also : Prop} {result : Except ReadError (α × Cursor)}
    {next : Cursor → Except ReadError (List β × Cursor)} {value : α} {values : List β}
    {more tail : List Char} (f : α → β) (hfirst : Outcome within result value more)
    (hnext : ∀ behind : Cursor, behind.Faces more → Outcome also (next behind) values tail) :
    Outcome (within ∧ also) (do
      let (value, behind) ← result
      let (rest, last) ← next behind
      return (f value :: rest, last)) (f value :: values) tail := by
  constructor
  · rintro ⟨hwithin, halso⟩
    obtain ⟨behind, hok, hbehind⟩ := hfirst.1 hwithin
    obtain ⟨last, hlater, hlast⟩ := (hnext behind hbehind).1 halso
    refine ⟨last, ?_, hlast⟩
    rw [hok]
    simp only [bind, Except.bind, hlater]
    rfl
  · intro hbeyond
    by_cases hwithin : within
    · obtain ⟨behind, hok, hbehind⟩ := hfirst.1 hwithin
      obtain ⟨error, herror⟩ := (hnext behind hbehind).2 fun halso => hbeyond ⟨hwithin, halso⟩
      refine ⟨error, ?_⟩
      rw [hok]
      simp only [bind, Except.bind, herror]
    · obtain ⟨error, herror⟩ := hfirst.2 hwithin
      exact ⟨error, by rw [herror]; rfl⟩

theorem readWord_append {cursor : Cursor} {word tail : List Char}
    (hrest : cursor.rest = word ++ tail) :
    ∃ behind, readWord cursor word = .ok behind ∧ behind.rest = tail := by
  induction word generalizing cursor with
  | nil => exact ⟨cursor, rfl, hrest⟩
  | cons c more ih =>
      have hnext : cursor.advance.rest = more ++ tail := by simp [hrest]
      obtain ⟨behind, hread, hbehind⟩ := ih hnext
      refine ⟨behind, ?_, hbehind⟩
      rw [readWord, hrest, List.cons_append]
      simp only [if_true, hread]

/-- Three values are written as words, of which the reader looks at the first letter first. -/
theorem readable_word {value : Json} {first : Char} {word : List Char} (hletter : first ≠ ']')
    (hblank : isSpace first = false) (hnesting : value.nesting = 0)
    (hword : ∀ (fuel depth : Nat) (cursor : Cursor) (more : List Char),
      cursor.skipSpace.rest = first :: more → readValue (fuel + 1) depth cursor = do
        return (value, ← readWord cursor.skipSpace.advance word)) :
    Readable value (first :: word) where
  begins := ⟨first, word, List.dropWhile_cons_of_neg (by simp [hblank]), hletter⟩
  reads := by
    intro limit fuel cursor tail hfuel hends hfaces
    cases fuel with
    | zero => exact absurd hfuel (by simp)
    | succ fuel =>
        have hnext : cursor.skipSpace.rest = first :: (word ++ tail) :=
          hfaces.skipSpace (List.dropWhile_cons_of_neg (by simp [hblank]))
        have hrest : cursor.skipSpace.advance.rest = word ++ tail := by
          rw [Cursor.rest_advance, hnext, List.tail_cons]
        obtain ⟨behind, hread, hbehind⟩ := readWord_append hrest
        refine .of_ok (by omega) ?_ hbehind
        rw [hword fuel _ cursor _ hnext, hread]
        rfl

theorem readable_null : Readable .null "null".toList := by
  change Readable .null ['n', 'u', 'l', 'l']
  apply readable_word (by decide) (by decide) rfl
  intro fuel depth cursor more hnext
  simp only [readValue, hnext]

theorem readable_true : Readable (.bool true) "true".toList := by
  change Readable (.bool true) ['t', 'r', 'u', 'e']
  apply readable_word (by decide) (by decide) rfl
  intro fuel depth cursor more hnext
  simp only [readValue, hnext]

theorem readable_false : Readable (.bool false) "false".toList := by
  change Readable (.bool false) ['f', 'a', 'l', 's', 'e']
  apply readable_word (by decide) (by decide) rfl
  intro fuel depth cursor more hnext
  simp only [readValue, hnext]

theorem readable_string (text : String) : Readable (.string text) (quoted text) where
  begins := ⟨'"', _, rfl, by decide⟩
  reads := by
    intro limit fuel cursor tail hfuel hends hfaces
    cases fuel with
    | zero => exact absurd hfuel (by simp [quoted])
    | succ fuel =>
        have hnext := hfaces.skipSpace rfl
        have hrest : cursor.skipSpace.advance.rest = text.toList.flatMap escape ++ '"' :: tail := by
          rw [Cursor.rest_advance, hnext]
          simp
        obtain ⟨behind, hread, hbehind⟩ := readString_escape hrest
        refine .of_ok (Nat.zero_le _) ?_ hbehind
        simp only [readValue, hnext, hread]
        rfl

/-- A number whose text is read as it stands alone is read in front of other texts, too. -/
theorem readValue_of_readsBack (fuel depth : Nat) {number : Number} {cursor : Cursor}
    {tail : List Char} (hback : ReadsBack number) (hends : EndsNumeral tail)
    (hfaces : cursor.Faces ((numberText number).toList ++ tail)) :
    ∃ behind, readValue (fuel + 1) depth cursor = .ok (.number number, behind) ∧
      behind.Faces tail := by
  obtain ⟨hbegins, near, hnumber, hend⟩ := parse_eq_number_iff.mp hback
  obtain ⟨c, hhead, hc⟩ := hbegins
  obtain ⟨more, hnear⟩ := List.head?_eq_some_iff.mp hhead
  have hdrop : (numberText number).toList.dropWhile isSpace = c :: more := by
    rw [← hnear, Cursor.rest_skipSpace]
    rfl
  have hnext : cursor.skipSpace.rest = c :: (more ++ tail) :=
    hfaces.skipSpace (dropWhile_append_of_begins hdrop tail)
  have hshares : Cursor.Shares (c :: more) [] tail
      (Cursor.start (chars (.number number))).skipSpace cursor.skipSpace :=
    ⟨hnear.trans (List.append_nil _).symm, hnext⟩
  obtain ⟨left, beyond, hread, -, hstop⟩ :=
    readNumeral_repeats blanks_nil hends hshares ⟨c, rfl, hc⟩ number near hnumber
  have hbeyond : beyond.rest = near.rest ++ tail := by
    rw [hstop.far_rest, hstop.near_rest, List.append_nil]
  have hfirst : BeginsNumeral cursor.skipSpace.rest := ⟨c, by rw [hnext]; rfl, hc⟩
  refine ⟨beyond, readValue_eq_number_iff.mpr ⟨hfirst, hread⟩, ?_⟩
  rw [Cursor.Faces, hbeyond, List.dropWhile_append, hend]
  rfl

theorem begins_of_readsBack {number : Number} (hback : ReadsBack number) :
    ∃ c more, (numberText number).toList.dropWhile isSpace = c :: more ∧ c ≠ ']' := by
  obtain ⟨⟨c, hhead, hc⟩, -⟩ := parse_eq_number_iff.mp hback
  obtain ⟨more, hnear⟩ := List.head?_eq_some_iff.mp hhead
  refine ⟨c, more, by rw [← hnear, Cursor.rest_skipSpace]; rfl, ?_⟩
  rintro rfl
  exact absurd hc (by decide)

theorem readable_number {number : Number} (hback : ReadsBack number) :
    Readable (.number number) (numberText number).toList where
  begins := begins_of_readsBack hback
  reads := by
    intro limit fuel cursor tail hfuel hends hfaces
    cases fuel with
    | zero =>
        obtain ⟨c, more, hdrop, -⟩ := begins_of_readsBack hback
        exact absurd (length_pos_of_begins hdrop) (Nat.not_lt.mpr hfuel)
    | succ fuel =>
        exact ⟨fun _ => readValue_of_readsBack fuel (limit + 1) hback hends hfaces,
          fun hbeyond => absurd (Nat.zero_le _) hbeyond⟩

/-- Blanks in front of a text change nothing. -/
theorem Readable.padded {value : Json} {text gap : List Char} (hgap : Blanks gap)
    (htext : Readable value text) : Readable value (gap ++ text) where
  begins := by
    rw [dropWhile_gap hgap]
    exact htext.begins
  reads := by
    intro limit fuel cursor tail hfuel hends hfaces
    refine htext.reads limit ?_ hends ?_
    · rw [List.length_append] at hfuel
      omega
    · rw [List.append_assoc] at hfaces
      exact hfaces.trans (dropWhile_gap hgap)

/-! ## Arrays -/

/-- Texts with commas between them. -/
def separated : List (List Char) → List Char
  | [] => []
  | first :: rest => first ++ rest.flatMap (',' :: ·)

/-- A numeral ends where further texts follow behind commas, or blanks and a mark. -/
theorem endsNumeral_separated (pieces : List (List Char)) {gap tail : List Char} {c : Char}
    (hgap : Blanks gap) (hmark : c.isDigit = false ∧ c ≠ '.' ∧ c ≠ 'e' ∧ c ≠ 'E') :
    EndsNumeral (pieces.flatMap (',' :: ·) ++ (gap ++ c :: tail)) := by
  cases pieces with
  | nil => exact endsNumeral_gap hgap hmark
  | cons next later => exact endsNumeral_gap blanks_nil (by decide)

section Arrays

variable {cursor start middle : Cursor} {fuel limit : Nat} {value : Json} {items values : List Json}
  {text more tail gap : List Char} {c : Char} {first : Bool} {within : Prop}

theorem nextItem_of_close (hnext : cursor.skipSpace.rest = ']' :: more) :
    nextItem first cursor = .ok (none, cursor.skipSpace.advance) := by
  simp only [nextItem, hnext]

theorem nextItem_of_first (hnext : cursor.skipSpace.rest = c :: more) (hopen : c ≠ ']') :
    nextItem true cursor = .ok (some cursor.skipSpace, cursor.skipSpace) := by
  simp only [nextItem, hnext, if_true]

theorem nextItem_of_comma (hnext : cursor.skipSpace.rest = ',' :: text)
    (htext : text.dropWhile isSpace = c :: more) (hopen : c ≠ ']') :
    ∃ item, nextItem false cursor = .ok (some item, item) ∧ item.rest = c :: more := by
  have hitem : cursor.skipSpace.advance.skipSpace.rest = c :: more := by
    rw [Cursor.rest_skipSpace, Cursor.rest_advance, hnext, List.tail_cons, htext]
  refine ⟨cursor.skipSpace.advance.skipSpace, ?_, hitem⟩
  have hcomma : ',' ≠ ']' := by decide
  simp only [nextItem, hnext, hitem, if_true]
  rw [if_neg (by decide)]
  split
  next hnil => cases hnil
  next hclose =>
    cases hclose
    exact absurd rfl hopen
  next => rfl

/-- Where a further item is looked for, the array ends, or an item is the first or stands behind a
comma. -/
theorem nextItem_cases {next : Option Cursor × Cursor}
    (hread : nextItem first cursor = .ok next) :
    (∃ more, cursor.skipSpace.rest = ']' :: more ∧ next = (none, cursor.skipSpace.advance)) ∨
      (first = true ∧ ∃ c more, cursor.skipSpace.rest = c :: more ∧ c ≠ ']' ∧
        next = (some cursor.skipSpace, cursor.skipSpace)) ∨
      (first = false ∧ ∃ more c later, cursor.skipSpace.rest = ',' :: more ∧
        cursor.skipSpace.advance.skipSpace.rest = c :: later ∧ c ≠ ']' ∧
        next = (some cursor.skipSpace.advance.skipSpace, cursor.skipSpace.advance.skipSpace)) := by
  simp only [nextItem] at hread
  split at hread
  next => cases hread
  next more hclose =>
    cases hread
    exact .inl ⟨more, hclose, rfl⟩
  next c more hopen hrest =>
    split at hread
    next hfirst =>
      cases hread
      exact .inr (.inl ⟨hfirst, c, more, hrest, hopen, rfl⟩)
    next hfirst =>
      split at hread
      next hcomma =>
        subst hcomma
        split at hread
        next => cases hread
        next => simp at hread
        next hsome hbracket =>
          cases hread
          obtain ⟨d, later, hitem⟩ := List.exists_cons_of_ne_nil hsome
          refine .inr (.inr ⟨by simpa using hfirst, more, d, later, hrest, hitem, ?_, rfl⟩)
          rintro rfl
          exact hbracket later hitem
      next => simp at hread

/-- One round over the items of an array reads an item and goes on behind it. -/
theorem readItems_of_next (depth : Nat) (hnext : nextItem first cursor = .ok (some start, middle)) :
    readItems (fuel + 1) depth first cursor = (do
      let (value, behind) ← readValue fuel depth start
      let (rest, last) ← readItems fuel depth false behind
      return (value :: rest, last)) := by
  rw [readItems, hnext]
  rfl

/-- What is read of an array from the start of an item on follows from what is read behind the
item. -/
theorem readItems_of_item (hnext : nextItem first cursor = .ok (some start, middle))
    (hitem : Readable value text) (hfuel : text.length ≤ fuel) (hends : EndsNumeral more)
    (hfaces : start.Faces (text ++ more))
    (hrest : ∀ behind : Cursor, behind.Faces more →
      Outcome within (readItems fuel (limit + 1) false behind) values tail) :
    Outcome (value.nesting ≤ limit ∧ within) (readItems (fuel + 1) (limit + 1) first cursor)
      (value :: values) tail := by
  rw [readItems_of_next (limit + 1) hnext]
  exact (hitem.reads limit hfuel hends hfaces).cons id hrest

theorem readItems_of_close (hgap : Blanks gap) (hfaces : cursor.Faces (gap ++ ']' :: tail)) :
    Outcome (∀ item ∈ ([] : List Json), item.nesting ≤ limit) (readItems (fuel + 1) (limit + 1) first cursor) []
      tail := by
  have hnext : cursor.skipSpace.rest = ']' :: tail :=
    hfaces.skipSpace ((dropWhile_gap hgap).trans rfl)
  have hclosed : cursor.skipSpace.advance.rest = tail := by
    rw [Cursor.rest_advance, hnext, List.tail_cons]
  refine .of_ok (fun item hitem => absurd hitem List.not_mem_nil) ?_ hclosed
  rw [readItems, nextItem_of_close hnext]
  rfl

/-- The items behind the first one, up to the end of their array. -/
theorem readItems_behind {text : Json → List Char} (hgap : Blanks gap)
    (hitems : ∀ item ∈ items, Readable item (text item))
    (hfuel : ((items.map text).flatMap (',' :: ·)).length < fuel)
    (hfaces : cursor.Faces ((items.map text).flatMap (',' :: ·) ++ (gap ++ ']' :: tail))) :
    Outcome (∀ item ∈ items, item.nesting ≤ limit) (readItems fuel (limit + 1) false cursor) items
      tail := by
  induction items generalizing fuel cursor with
  | nil =>
      obtain ⟨fuel, rfl⟩ := Nat.exists_eq_add_of_lt hfuel
      exact readItems_of_close hgap hfaces
  | cons item rest ih =>
      simp only [List.map_cons, List.flatMap_cons, List.length_append, List.length_cons,
        List.cons_append, List.append_assoc] at hfuel hfaces
      obtain ⟨c, more, hbegins, hopen⟩ := (hitems item List.mem_cons_self).begins
      cases fuel with
      | zero => omega
      | succ fuel =>
          have hnext := hfaces.skipSpace rfl
          have hdrop := dropWhile_append_of_begins hbegins
            ((rest.map text).flatMap (',' :: ·) ++ (gap ++ ']' :: tail))
          obtain ⟨start, hstart, hrest⟩ := nextItem_of_comma hnext hdrop hopen
          have hlater : ∀ behind : Cursor,
              behind.Faces ((rest.map text).flatMap (',' :: ·) ++ (gap ++ ']' :: tail)) →
                Outcome (∀ item ∈ rest, item.nesting ≤ limit)
                  (readItems fuel (limit + 1) false behind) rest tail := by
            intro behind hbehind
            have hsome := length_pos_of_begins hbegins
            exact ih (fun later hmem => hitems later (List.mem_cons_of_mem _ hmem)) (by omega)
              hbehind
          have hfacing : start.Faces
              (text item ++ ((rest.map text).flatMap (',' :: ·) ++ (gap ++ ']' :: tail))) := by
            rw [Cursor.Faces, hrest, ← hdrop, List.dropWhile_idempotent]
          rw [List.forall_mem_cons]
          exact readItems_of_item hstart (hitems item List.mem_cons_self) (by omega)
            (endsNumeral_separated _ hgap (by decide)) hfacing hlater

/-- The items of an array behind its bracket. -/
theorem readItems_all (limit : Nat) {text : Json → List Char} (hgap : Blanks gap)
    (hitems : ∀ item ∈ items, Readable item (text item))
    (hfuel : (separated (items.map text)).length < fuel)
    (hfaces : cursor.Faces (separated (items.map text) ++ (gap ++ ']' :: tail))) :
    Outcome (∀ item ∈ items, item.nesting ≤ limit) (readItems fuel (limit + 1) true cursor) items
      tail := by
  cases items with
  | nil =>
      obtain ⟨fuel, rfl⟩ := Nat.exists_eq_add_of_lt hfuel
      exact readItems_of_close hgap hfaces
  | cons item rest =>
      rw [List.map_cons, separated, List.append_assoc] at hfaces
      rw [List.map_cons, separated, List.length_append] at hfuel
      obtain ⟨c, more, hbegins, hopen⟩ := (hitems item List.mem_cons_self).begins
      have hsome := length_pos_of_begins hbegins
      cases fuel with
      | zero => omega
      | succ fuel =>
          have hdrop := dropWhile_append_of_begins hbegins
            ((rest.map text).flatMap (',' :: ·) ++ (gap ++ ']' :: tail))
          have hstart := nextItem_of_first (hfaces.skipSpace hdrop) hopen
          have hfacing : cursor.skipSpace.Faces
              (text item ++ ((rest.map text).flatMap (',' :: ·) ++ (gap ++ ']' :: tail))) := by
            rw [Cursor.Faces, Cursor.rest_skipSpace, List.dropWhile_idempotent]
            exact hfaces
          rw [List.forall_mem_cons]
          refine readItems_of_item hstart (hitems item List.mem_cons_self) (by omega)
            (endsNumeral_separated _ hgap (by decide)) hfacing ?_
          intro behind hbehind
          exact readItems_behind hgap (fun later hmem => hitems later (List.mem_cons_of_mem _ hmem))
            (by omega) hbehind

theorem readValue_of_bracket (limit : Nat) (hnext : cursor.skipSpace.rest = '[' :: more) :
    readValue (fuel + 1) (limit + 1 + 1) cursor = (do
      let (items, behind) ← readItems fuel (limit + 1) true cursor.skipSpace.advance
      return (Json.array items, behind)) := by
  simp only [readValue, hnext]

theorem Readable.array {text : Json → List Char} (hgap : Blanks gap)
    (hitems : ∀ item ∈ items, Readable item (text item)) :
    Readable (.array items) ('[' :: (separated (items.map text) ++ gap ++ [']'])) where
  begins := ⟨'[', _, rfl, by decide⟩
  reads := by
    intro limit fuel cursor tail hfuel hends hfaces
    simp only [List.length_cons, List.length_append, List.length_nil] at hfuel
    cases fuel with
    | zero => omega
    | succ fuel =>
        have hnext := hfaces.skipSpace rfl
        cases limit with
        | zero =>
            refine ⟨fun hwithin => ?_, fun hbeyond => ?_⟩
            · rw [nesting] at hwithin
              omega
            · simp only [readValue, hnext]
              exact failNext_eq_error _ _
        | succ limit =>
            have hbody : cursor.skipSpace.advance.Faces
                (separated (items.map text) ++ (gap ++ ']' :: tail)) := by
              refine .of_rest ?_
              rw [Cursor.rest_advance, hnext]
              simp
            have hlength : (separated (items.map text)).length < fuel := by omega
            rw [readValue_of_bracket limit hnext, nesting_array_le_iff]
            exact (readItems_all limit hgap hitems hlength hbody).map Json.array

end Arrays

/-! ## Objects -/

/-- The text of a member, with blanks in front of its name. -/
def memberText (before : List Char) (text : Json → List Char) (entry : String × Json) : List Char :=
  before ++ (quoted entry.1 ++ ':' :: text entry.2)

section Objects

variable {cursor start middle : Cursor} {fuel limit : Nat} {name : String} {value : Json}
  {members later : List (String × Json)} {text more tail before gap : List Char} {first : Bool}
  {within : Prop}

theorem readColon_of_rest (hrest : cursor.rest = ':' :: more) :
    ∃ behind, readColon cursor = .ok behind ∧ behind.rest = more := by
  have hnext : cursor.skipSpace.rest = ':' :: more := by
    rw [Cursor.rest_skipSpace, hrest]
    rfl
  refine ⟨cursor.skipSpace.advance, ?_, by rw [Cursor.rest_advance, hnext, List.tail_cons]⟩
  simp only [readColon, hnext]

theorem nextMember_of_close (hnext : cursor.skipSpace.rest = '\x7d' :: more) :
    nextMember first cursor = .ok (none, cursor.skipSpace.advance) := by
  simp only [nextMember, hnext]

theorem nextMember_of_first (hnext : cursor.skipSpace.rest = '"' :: more) :
    ∃ start middle, nextMember true cursor = .ok (some start, middle) ∧ start.rest = more := by
  have hquote : '"' ≠ '\x7d' := by decide
  refine ⟨cursor.skipSpace.advance, cursor.skipSpace, ?_, ?_⟩
  · simp only [nextMember, hnext, if_true]
  · rw [Cursor.rest_advance, hnext, List.tail_cons]

theorem nextMember_of_comma (hnext : cursor.skipSpace.rest = ',' :: text)
    (htext : text.dropWhile isSpace = '"' :: more) :
    ∃ start middle, nextMember false cursor = .ok (some start, middle) ∧ start.rest = more := by
  have hcomma : ',' ≠ '\x7d' := by decide
  have hmember : cursor.skipSpace.advance.skipSpace.rest = '"' :: more := by
    rw [Cursor.rest_skipSpace, Cursor.rest_advance, hnext, List.tail_cons, htext]
  refine ⟨cursor.skipSpace.advance.skipSpace.advance, cursor.skipSpace.advance.skipSpace, ?_, ?_⟩
  · simp only [nextMember, hnext, hmember, if_true]
    rfl
  · rw [Cursor.rest_advance, hmember, List.tail_cons]

/-- Where a further member is looked for, the object ends, or a name is the first or stands behind
a comma. -/
theorem nextMember_cases {next : Option Cursor × Cursor}
    (hread : nextMember first cursor = .ok next) :
    (∃ more, cursor.skipSpace.rest = '\x7d' :: more ∧ next = (none, cursor.skipSpace.advance)) ∨
      (first = true ∧ ∃ more, cursor.skipSpace.rest = '"' :: more ∧
        next = (some cursor.skipSpace.advance, cursor.skipSpace)) ∨
      (first = false ∧ ∃ more later, cursor.skipSpace.rest = ',' :: more ∧
        cursor.skipSpace.advance.skipSpace.rest = '"' :: later ∧
        next = (some cursor.skipSpace.advance.skipSpace.advance,
          cursor.skipSpace.advance.skipSpace)) := by
  simp only [nextMember] at hread
  split at hread
  next => cases hread
  next more hclose =>
    cases hread
    exact .inl ⟨more, hclose, rfl⟩
  next c more hopen hrest =>
    split at hread
    next hfirst =>
      split at hread
      next hquote =>
        subst hquote
        cases hread
        exact .inr (.inl ⟨hfirst, more, hrest, rfl⟩)
      next => simp at hread
    next hfirst =>
      split at hread
      next hcomma =>
        subst hcomma
        split at hread
        next later hmember =>
          cases hread
          exact .inr (.inr ⟨by simpa using hfirst, more, later, hrest, hmember, rfl⟩)
        next => simp at hread
        next => cases hread
        next => simp at hread
      next => simp at hread

/-- One round over the members of an object reads a member and goes on behind it. -/
theorem readMembers_of_next (depth : Nat) {named colon : Cursor}
    (hnext : nextMember first cursor = .ok (some start, middle))
    (hname : readString start = .ok (name, named)) (hcolon : readColon named = .ok colon) :
    readMembers (fuel + 1) depth first cursor = (do
      let (value, behind) ← readValue fuel depth colon
      let (rest, last) ← readMembers fuel depth false behind
      return ((name, value) :: rest, last)) := by
  rw [readMembers, hnext]
  simp only [bind, Except.bind, hname, hcolon]

/-- What is read of an object from a member's name on follows from what is read behind the
member. -/
theorem readMembers_of_member (hnext : nextMember first cursor = .ok (some start, middle))
    (hstart : start.rest = name.toList.flatMap escape ++ '"' :: ':' :: (text ++ more))
    (hvalue : Readable value text) (hfuel : text.length ≤ fuel) (hends : EndsNumeral more)
    (hrest : ∀ behind : Cursor, behind.Faces more →
      Outcome within (readMembers fuel (limit + 1) false behind) later tail) :
    Outcome (value.nesting ≤ limit ∧ within) (readMembers (fuel + 1) (limit + 1) first cursor)
      ((name, value) :: later) tail := by
  obtain ⟨named, hname, hnamed⟩ := readString_escape hstart
  obtain ⟨colon, hcolon, hbehind⟩ := readColon_of_rest hnamed
  rw [readMembers_of_next (limit + 1) hnext hname hcolon]
  exact (hvalue.reads limit hfuel hends (.of_rest hbehind)).cons (fun value => (name, value)) hrest

theorem readMembers_of_close (hgap : Blanks gap) (hfaces : cursor.Faces (gap ++ '\x7d' :: tail)) :
    Outcome (∀ entry ∈ ([] : List (String × Json)), entry.2.nesting ≤ limit)
      (readMembers (fuel + 1) (limit + 1) first cursor) [] tail := by
  have hnext : cursor.skipSpace.rest = '\x7d' :: tail :=
    hfaces.skipSpace ((dropWhile_gap hgap).trans rfl)
  have hclosed : cursor.skipSpace.advance.rest = tail := by
    rw [Cursor.rest_advance, hnext, List.tail_cons]
  refine .of_ok (fun entry hentry => absurd hentry List.not_mem_nil) ?_ hclosed
  rw [readMembers, nextMember_of_close hnext]
  rfl

theorem dropWhile_memberText (hbefore : Blanks before) (text : Json → List Char)
    (entry : String × Json) (more : List Char) :
    (memberText before text entry ++ more).dropWhile isSpace =
      '"' :: (entry.1.toList.flatMap escape ++ '"' :: ':' :: (text entry.2 ++ more)) := by
  rw [memberText, List.append_assoc, dropWhile_gap hbefore]
  simp [quoted, isSpace]

/-- The members behind the first one, up to the end of their object. -/
theorem readMembers_behind {text : Json → List Char} (hbefore : Blanks before) (hgap : Blanks gap)
    (hmembers : ∀ entry ∈ members, Readable entry.2 (text entry.2))
    (hfuel : ((members.map (memberText before text)).flatMap (',' :: ·)).length < fuel)
    (hfaces : cursor.Faces
      ((members.map (memberText before text)).flatMap (',' :: ·) ++ (gap ++ '\x7d' :: tail))) :
    Outcome (∀ entry ∈ members, entry.2.nesting ≤ limit)
      (readMembers fuel (limit + 1) false cursor) members tail := by
  induction members generalizing fuel cursor with
  | nil =>
      obtain ⟨fuel, rfl⟩ := Nat.exists_eq_add_of_lt hfuel
      exact readMembers_of_close hgap hfaces
  | cons entry rest ih =>
      simp only [List.map_cons, List.flatMap_cons, List.length_append, List.length_cons,
        List.cons_append, List.append_assoc] at hfuel hfaces
      cases fuel with
      | zero => omega
      | succ fuel =>
          obtain ⟨start, middle, hnext, hstart⟩ := nextMember_of_comma (hfaces.skipSpace rfl)
            (dropWhile_memberText hbefore text entry _)
          have hlength : (text entry.2).length < (memberText before text entry).length := by
            simp [memberText, quoted]
            omega
          rw [List.forall_mem_cons]
          refine readMembers_of_member hnext hstart (hmembers entry List.mem_cons_self) (by omega)
            (endsNumeral_separated _ hgap (by decide)) ?_
          intro behind hbehind
          exact ih (fun later hmem => hmembers later (List.mem_cons_of_mem _ hmem)) (by omega) hbehind

/-- The members of an object behind its brace. -/
theorem readMembers_all (limit : Nat) {text : Json → List Char} (hbefore : Blanks before)
    (hgap : Blanks gap) (hmembers : ∀ entry ∈ members, Readable entry.2 (text entry.2))
    (hfuel : (separated (members.map (memberText before text))).length < fuel)
    (hfaces : cursor.Faces
      (separated (members.map (memberText before text)) ++ (gap ++ '\x7d' :: tail))) :
    Outcome (∀ entry ∈ members, entry.2.nesting ≤ limit)
      (readMembers fuel (limit + 1) true cursor) members tail := by
  cases members with
  | nil =>
      obtain ⟨fuel, rfl⟩ := Nat.exists_eq_add_of_lt hfuel
      exact readMembers_of_close hgap hfaces
  | cons entry rest =>
      rw [List.map_cons, separated, List.append_assoc] at hfaces
      rw [List.map_cons, separated, List.length_append] at hfuel
      cases fuel with
      | zero => omega
      | succ fuel =>
          obtain ⟨start, middle, hnext, hstart⟩ := nextMember_of_first
            (hfaces.skipSpace (dropWhile_memberText hbefore text entry _))
          have hlength : (text entry.2).length < (memberText before text entry).length := by
            simp [memberText, quoted]
            omega
          rw [List.forall_mem_cons]
          refine readMembers_of_member hnext hstart (hmembers entry List.mem_cons_self) (by omega)
            (endsNumeral_separated _ hgap (by decide)) ?_
          intro behind hbehind
          exact readMembers_behind hbefore hgap
            (fun later hmem => hmembers later (List.mem_cons_of_mem _ hmem)) (by omega) hbehind

theorem readValue_of_brace (limit : Nat) (hnext : cursor.skipSpace.rest = '\x7b' :: more) :
    readValue (fuel + 1) (limit + 1 + 1) cursor = (do
      let (members, behind) ← readMembers fuel (limit + 1) true cursor.skipSpace.advance
      return (Json.object members, behind)) := by
  simp only [readValue, hnext]

theorem Readable.object (text : Json → List Char) (hbefore : Blanks before) (hgap : Blanks gap)
    (hmembers : ∀ entry ∈ members, Readable entry.2 (text entry.2)) :
    Readable (.object members)
      ('\x7b' :: (separated (members.map (memberText before text)) ++ gap ++ ['\x7d'])) where
  begins := ⟨'\x7b', _, rfl, by decide⟩
  reads := by
    intro limit fuel cursor tail hfuel hends hfaces
    simp only [List.length_cons, List.length_append, List.length_nil] at hfuel
    cases fuel with
    | zero => omega
    | succ fuel =>
        have hnext := hfaces.skipSpace rfl
        cases limit with
        | zero =>
            refine ⟨fun hwithin => ?_, fun hbeyond => ?_⟩
            · rw [nesting] at hwithin
              omega
            · simp only [readValue, hnext]
              exact failNext_eq_error _ _
        | succ limit =>
            have hbody : cursor.skipSpace.advance.Faces
                (separated (members.map (memberText before text)) ++ (gap ++ '\x7d' :: tail)) := by
              refine .of_rest ?_
              rw [Cursor.rest_advance, hnext]
              simp
            have hlength : (separated (members.map (memberText before text))).length < fuel := by
              omega
            rw [readValue_of_brace limit hnext, nesting_object_le_iff]
            exact (readMembers_all limit hbefore hgap hmembers hlength hbody).map Json.object

end Objects

/-! ## Written values -/

theorem separated_cons_cons (first second : List Char) (rest : List (List Char)) :
    separated (first :: second :: rest) = first ++ ',' :: separated (second :: rest) := rfl

theorem itemsChars_eq (items : List Json) : itemsChars items = separated (items.map chars) := by
  induction items with
  | nil => rfl
  | cons item rest ih =>
      cases rest with
      | nil => simp [itemsChars, separated]
      | cons next later =>
          rw [itemsChars, ih, List.map_cons, List.map_cons, List.map_cons, separated_cons_cons]

theorem membersChars_eq (members : List (String × Json)) :
    membersChars members = separated (members.map (memberText [] chars)) := by
  induction members with
  | nil => rfl
  | cons entry rest ih =>
      cases rest with
      | nil => simp [membersChars, separated, memberText]
      | cons next later =>
          rw [membersChars, ih, List.map_cons, List.map_cons, List.map_cons, separated_cons_cons]
          simp [memberText]

theorem indentedItems_eq (level : Nat) (items : List Json) :
    indentedItems level items =
      separated (items.map fun item => newline level ++ indentedChars level item) := by
  induction items with
  | nil => rfl
  | cons item rest ih =>
      cases rest with
      | nil => simp [indentedItems, separated]
      | cons next later =>
          rw [indentedItems, ih, List.map_cons, List.map_cons, List.map_cons, separated_cons_cons]

theorem indentedMembers_eq (level : Nat) (members : List (String × Json)) :
    indentedMembers level members = separated
      (members.map (memberText (newline level) fun value => ' ' :: indentedChars level value)) := by
  induction members with
  | nil => rfl
  | cons entry rest ih =>
      cases rest with
      | nil => simp [indentedMembers, separated, memberText]
      | cons next later =>
          rw [indentedMembers, ih, List.map_cons, List.map_cons, List.map_cons, separated_cons_cons]
          simp [memberText]

theorem blanks_newline (level : Nat) : Blanks (newline level) := by
  intro c hc
  rcases List.mem_cons.mp hc with rfl | hspace
  · rfl
  · rw [(List.mem_replicate.mp hspace).2]
    rfl

section Forms

variable {value : Json}

/-- The compact form of a value whose numbers are read back is read as the value. -/
theorem readable_chars (hnumbers : value.EachNumber ReadsBack) : Readable value (chars value) := by
  induction hnumbers with
  | null => exact readable_null
  | bool value =>
      cases value with
      | true => exact readable_true
      | false => exact readable_false
  | number hback => exact readable_number hback
  | string text => exact readable_string text
  | @array items hitems ih =>
      have hreadable := Readable.array blanks_nil ih
      rw [List.append_nil, ← itemsChars_eq] at hreadable
      exact hreadable
  | @object members hmembers ih =>
      have hreadable := Readable.object chars blanks_nil blanks_nil ih
      rw [List.append_nil, ← membersChars_eq] at hreadable
      exact hreadable

/-- The indented form of a value whose numbers are read back is read as the value. -/
theorem readable_indentedChars (hnumbers : value.EachNumber ReadsBack) (level : Nat) :
    Readable value (indentedChars level value) := by
  induction hnumbers generalizing level with
  | null => exact readable_null
  | bool value =>
      cases value with
      | true => exact readable_true
      | false => exact readable_false
  | number hback => exact readable_number hback
  | string text => exact readable_string text
  | @array items hitems ih =>
      cases items with
      | nil => exact Readable.array blanks_nil fun item hitem => ih item hitem level
      | cons item rest =>
          have hreadable := Readable.array (blanks_newline level)
            fun item hitem => (ih item hitem (level + 1)).padded (blanks_newline (level + 1))
          rw [← indentedItems_eq] at hreadable
          exact hreadable
  | @object members hmembers ih =>
      cases members with
      | nil =>
          exact Readable.object (indentedChars level) blanks_nil blanks_nil
            fun entry hentry => ih entry hentry level
      | cons entry rest =>
          have hspace : Blanks [' '] := fun c hc => by rw [List.mem_singleton.mp hc]; rfl
          have hreadable := Readable.object (fun value => ' ' :: indentedChars (level + 1) value)
            (blanks_newline (level + 1)) (blanks_newline level)
            fun entry hentry => (ih entry hentry (level + 1)).padded hspace
          rw [← indentedMembers_eq] at hreadable
          exact hreadable

/-- Whether a number is read back where it is a binary64 number. -/
def FloatReadsBack : Number → Prop
  | .int _ => True
  | .float value => ReadsBack (.float value)

/-- Numbers in range are read back where those of binary64 are. -/
theorem EachNumber.readsBack (hrange : value.EachNumber Number.InRange)
    (hfloats : value.EachNumber FloatReadsBack) : value.EachNumber ReadsBack := by
  induction hrange with
  | null => exact .null
  | bool value => exact .bool value
  | @number value hvalue =>
      cases hfloats with
      | number hfloat =>
          cases value with
          | int value => exact .number (readsBack_int hvalue)
          | float value => exact .number hfloat
  | string text => exact .string text
  | array hitems ih =>
      cases hfloats with
      | array hfloats => exact .array fun item hitem => ih item hitem (hfloats item hitem)
  | object hmembers ih =>
      cases hfloats with
      | object hfloats => exact .object fun entry hentry => ih entry hentry (hfloats entry hentry)

/-- Reading a text that is read as a value gives the value in order, or fails where the value lies
too deep. -/
theorem parse_of_readable {text : List Char} (hreadable : Readable value text) :
    (value.nesting ≤ 127 → parse (String.ofList text) = .ok value.sorted) ∧
      (127 < value.nesting → ∃ error, parse (String.ofList text) = .error error) := by
  have hends : EndsNumeral [] := fun c hc => nomatch hc
  have hfuel : text.length ≤ 2 * text.length + 3 := by omega
  have hfaces : (Cursor.start text).Faces (text ++ []) := by
    rw [List.append_nil]
    rfl
  obtain ⟨hreads, hfails⟩ := hreadable.reads 127 hfuel hends hfaces
  simp only [parse, readText, String.toList_ofList]
  constructor
  · intro hwithin
    obtain ⟨behind, hok, hbehind⟩ := hreads hwithin
    have hend : readEnd behind = .ok () := readEnd_eq_ok_iff.mpr hbehind
    rw [depthLimit, hok]
    simp only [bind, Except.bind, hend]
    rfl
  · intro hbeyond
    obtain ⟨error, herror⟩ := hfails (Nat.not_le.mpr hbeyond)
    exact ⟨error, by rw [depthLimit, herror]; rfl⟩

/-- The compact form of a well-formed value within the reader's limit of depth is read back, if its
binary64 numbers are. -/
theorem parse_render (hvalue : value.WellFormed) (hfloats : value.EachNumber FloatReadsBack)
    (hnesting : value.nesting ≤ 127) : parse value.render = .ok value := by
  have hreadable := readable_chars (hvalue.eachNumber.readsBack hfloats)
  have hread := (parse_of_readable hreadable).1 hnesting
  rw [hvalue.sorted_eq] at hread
  exact hread

end Forms

end PromptScript.Json
