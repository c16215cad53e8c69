import Mathlib.Data.List.Forall2
import Mathlib.Data.List.Infix
import PromptScript.Proofs.Script.Lines
import PromptScript.Proofs.Text.Utf8

/-!
# Lines in their source

A physical line of a source lies between two line feeds or at an end of the source.  Each one that is
not blank is one line of the script, in order, and no line comes from anywhere else.  The line counts
the line feeds before it, it spans the bytes of its physical line, and its payload is a part of it.
-/

namespace PromptScript

namespace Text

/-- The bytes of a text from an offset on, as many as the length says. -/
def slice (text : String) (offset length : Nat) : Bytes :=
  ((toBytes text).drop offset).take length

theorem byteLength_eq_length (text : List Char) :
    byteLength text = (text.flatMap String.utf8EncodeChar).length := by
  induction text with
  | nil => rfl
  | cons c rest ih =>
      have hone : byteLength [c] = c.utf8Size := Nat.zero_add _
      rw [← List.singleton_append, Line.byteLength_append, hone, ih, List.flatMap_append,
        List.length_append, List.flatMap_singleton, String.length_utf8EncodeChar]

/-- A part of a text stands at the bytes that the text before it takes. -/
theorem slice_of_append {text : String} {before part behind : List Char}
    (hwhole : text.toList = before ++ part ++ behind) :
    slice text (byteLength before) (byteLength part) = toBytes (String.ofList part) := by
  simp only [slice, toBytes_eq_flatMap, hwhole, String.toList_ofList, byteLength_eq_length,
    List.flatMap_append, List.append_assoc, List.drop_left, List.take_left]

end Text

namespace Line

/-- Whether a text is a physical line of a source, with so much text before it: it has no line feed,
it begins the source or stands behind a line feed, and it ends the source or stands before one. -/
structure Physical (source : String) (before physical : List Char) : Prop where
  feedless : '\n' ∉ physical
  begins : before = [] ∨ before.getLast? = some '\n'
  ends : source.toList = before ++ physical ∨
    ∃ behind, source.toList = before ++ physical ++ '\n' :: behind

/-- Whether a text is a physical line without the carriage return at its end. -/
def Returned (physical raw : List Char) : Prop :=
  physical = raw ++ ['\r'] ∨ physical = raw ∧ raw.getLast? ≠ some '\r'

/-- What a line reads: behind a keyword the text without the blanks before and behind it, and where
no keyword stands up to the first space all of the line without the blanks behind it. -/
inductive Reads (raw : List Char) : Option StatementKind → List Char → Prop
  | keyword {kind : StatementKind} {gap payload tail : List Char}
      (hraw : raw = kind.keyword.toList ++ gap ++ payload ++ tail)
      (hgap : gap = [] ∧ payload = [] ∨ gap.head? = some ' ')
      (hblank : ∀ c ∈ gap ++ tail, Text.isBlank c = true) (htrimmed : Text.Trimmed payload) :
      Reads raw (some kind) payload
  | continuing {payload tail : List Char} (hraw : raw = payload ++ tail)
      (hblank : ∀ c ∈ tail, Text.isBlank c = true)
      (hlast : ∀ c ∈ payload.getLast?, Text.isBlank c = false)
      (hplain : ∀ (kind : StatementKind) (rest : List Char),
        payload = kind.keyword.toList ++ rest → rest ≠ [] ∧ rest.head? ≠ some ' ') :
      Reads raw none payload

/-- Whether a line tells where a physical line of a source stands and what it holds. -/
structure AccountsFor (source : String) (before physical raw : List Char) (line : Line) :
    Prop where
  stands : Physical source before physical
  returned : Returned physical raw
  number : line.number = before.count '\n' + 1
  offset : line.offset = Text.byteLength before
  bytes : Text.slice source line.offset line.length = Text.toBytes (String.ofList raw)
  reads : Reads raw line.kind line.payload.toList

/-! ## Physical lines -/

section Physicals

variable {source : String} {done rest physicals : List (List Char)} {physical : List Char}
  {index : Nat}

/-- Lines with a line feed between any two have the earlier ones, each with a line feed behind it,
in front of a later one. -/
theorem intercalate_feed (done : List (List Char)) (physical : List Char)
    (rest : List (List Char)) :
    ['\n'].intercalate (done ++ physical :: rest) =
      done.flatMap (· ++ ['\n']) ++ ['\n'].intercalate (physical :: rest) := by
  induction done with
  | nil => rfl
  | cons first done ih =>
      obtain ⟨next, later, hlater⟩ : ∃ next later, done ++ physical :: rest = next :: later :=
        List.exists_cons_of_ne_nil (by simp)
      rw [List.cons_append, hlater, List.intercalate_cons_cons, ← hlater, ih, List.flatMap_cons]
      simp only [List.append_assoc]

theorem textBefore_of_getElem? (hphysical : physicals[index]? = some physical) :
    ∃ rest, ['\n'].intercalate physicals =
      textBefore physicals index ++ ['\n'].intercalate (physical :: rest) := by
  obtain ⟨hindex, rfl⟩ := List.getElem?_eq_some_iff.mp hphysical
  refine ⟨physicals.drop (index + 1), ?_⟩
  have hsplit : physicals = physicals.take index ++ physicals[index] :: physicals.drop (index + 1) :=
    by rw [← List.drop_eq_getElem_cons hindex, List.take_append_drop]
  rw [textBefore, ← intercalate_feed, ← hsplit]

theorem count_flatMap_feed (hfeedless : ∀ physical ∈ done, '\n' ∉ physical) :
    (done.flatMap (· ++ ['\n'])).count '\n' = done.length := by
  induction done with
  | nil => rfl
  | cons first done ih =>
      obtain ⟨hfirst, hdone⟩ := List.forall_mem_cons.mp hfeedless
      rw [List.flatMap_cons, List.count_append, List.count_append,
        List.count_eq_zero_of_not_mem hfirst, ih hdone, List.length_cons,
        List.count_singleton_self, Nat.zero_add, Nat.add_comm]

theorem feed_not_mem_of_mem_splitOn (hphysical : physical ∈ source.toList.splitOn '\n') :
    '\n' ∉ physical := by
  rw [← Text.splitAt_eq_splitOn] at hphysical
  exact Text.not_mem_of_mem_splitAt hphysical

theorem physical_of_getElem? (hphysical : (source.toList.splitOn '\n')[index]? = some physical) :
    Physical source (textBefore (source.toList.splitOn '\n') index) physical := by
  refine ⟨?_, ?_, ?_⟩
  · exact feed_not_mem_of_mem_splitOn (List.mem_of_getElem? hphysical)
  · rcases List.eq_nil_or_concat' ((source.toList.splitOn '\n').take index) with
      hnone | ⟨done, last, hdone⟩
    · exact .inl (by rw [textBefore, hnone]; rfl)
    · refine .inr ?_
      rw [textBefore, hdone, List.flatMap_append, List.flatMap_singleton, ← List.append_assoc,
        List.getLast?_concat]
  · obtain ⟨rest, hwhole⟩ := textBefore_of_getElem? hphysical
    rw [List.intercalate_splitOn] at hwhole
    cases rest with
    | nil =>
        rw [List.intercalate_singleton] at hwhole
        exact .inl hwhole
    | cons next rest =>
        rw [List.intercalate_cons_cons, ← List.append_assoc, ← List.append_assoc] at hwhole
        refine .inr ⟨['\n'].intercalate (next :: rest), hwhole.trans ?_⟩
        rw [List.append_assoc _ ['\n'], List.singleton_append]

theorem Physical.exists_behind {before : List Char} (hstands : Physical source before physical) :
    ∃ behind, source.toList = before ++ physical ++ behind := by
  rcases hstands.ends with hends | ⟨behind, hbehind⟩
  · exact ⟨[], by rw [List.append_nil, hends]⟩
  · exact ⟨'\n' :: behind, hbehind⟩

theorem Returned.exists_ending {raw : List Char} (hreturned : Returned physical raw) :
    ∃ ending, physical = raw ++ ending := by
  rcases hreturned with hreturn | ⟨hsame, -⟩
  · exact ⟨['\r'], hreturn⟩
  · exact ⟨[], by rw [List.append_nil, hsame]⟩

theorem returned_dropReturn (physical : List Char) : Returned physical (dropReturn physical) := by
  rw [dropReturn]
  split
  next hreturn => exact .inl (List.dropLast_append_getLast? '\r' hreturn).symm
  next hreturn => exact .inr ⟨rfl, hreturn⟩

end Physicals

/-! ## What a physical line holds -/

section Reading

variable {source : String} {before physical : List Char} {index : Nat} {line : Line}

theorem keyword_of_ofKeyword? {word : String} {kind : StatementKind}
    (hkind : StatementKind.ofKeyword? word = some kind) : kind.keyword = word := by
  simpa using List.find?_some hkind

theorem space_not_mem_keyword (kind : StatementKind) : ' ' ∉ kind.keyword.toList := by
  cases kind <;> decide

/-- Up to the first space stands a keyword that ends there. -/
theorem takeWhile_keyword (kind : StatementKind) {rest : List Char}
    (hrest : rest = [] ∨ rest.head? = some ' ') :
    (kind.keyword.toList ++ rest).takeWhile (· ≠ ' ') = kind.keyword.toList := by
  have hword : ∀ c ∈ kind.keyword.toList, decide (c ≠ ' ') = true := fun c hc =>
    decide_eq_true (ne_of_mem_of_not_mem hc (space_not_mem_keyword kind))
  have hnone : rest.takeWhile (· ≠ ' ') = [] := by
    rcases hrest with rfl | hspace
    · rfl
    · obtain ⟨more, rfl⟩ := List.head?_eq_some_iff.mp hspace
      exact List.takeWhile_cons_of_neg (by decide)
  rw [List.takeWhile_append_of_pos hword, hnone, List.append_nil]

/-- A line without a keyword up to its first space holds all of its text. -/
theorem reads_text {text tail : List Char} (htext : Text.dropTrailing text = text)
    (htail : ∀ c ∈ tail, Text.isBlank c = true)
    (hkind : StatementKind.ofKeyword? (String.ofList (text.takeWhile (· ≠ ' '))) = none) :
    Reads (text ++ tail) none text := by
  refine .continuing rfl htail (Text.isBlank_of_mem_getLast? htext) ?_
  rintro kind rest rfl
  by_contra hrest
  rw [not_and_or, not_not, not_not] at hrest
  rw [takeWhile_keyword kind hrest, String.ofList_toList, StatementKind.ofKeyword?_keyword] at hkind
  cases hkind

/-- A line with a keyword up to its first space holds what stands behind it. -/
theorem reads_behind_keyword {text tail : List Char} {kind : StatementKind}
    (htext : Text.dropTrailing text = text) (htail : ∀ c ∈ tail, Text.isBlank c = true)
    (hkind : StatementKind.ofKeyword? (String.ofList (text.takeWhile (· ≠ ' '))) = some kind) :
    Reads (text ++ tail) (some kind) (Text.dropAround (text.dropWhile (· ≠ ' '))) := by
  have hword : kind.keyword.toList = text.takeWhile (· ≠ ' ') := by
    rw [keyword_of_ofKeyword? hkind, String.toList_ofList]
  have hbehind : Text.dropTrailing (text.dropWhile (· ≠ ' ')) = text.dropWhile (· ≠ ' ') :=
    Text.dropTrailing_of_suffix htext (List.dropWhile_suffix _)
  have hpayload : Text.dropAround (text.dropWhile (· ≠ ' ')) =
      (text.dropWhile (· ≠ ' ')).dropWhile Text.isBlank := by
    rw [Text.dropAround, hbehind]
    rfl
  have hsplit : text = kind.keyword.toList ++
      (text.dropWhile (· ≠ ' ')).takeWhile Text.isBlank ++
        Text.dropAround (text.dropWhile (· ≠ ' ')) := by
    rw [hword, hpayload, List.append_assoc, List.takeWhile_append_dropWhile,
      List.takeWhile_append_dropWhile]
  refine .keyword (by rw [← hsplit]) ?_ ?_ (Text.trimmed_dropAround _)
  · cases hrest : text.dropWhile (· ≠ ' ') with
    | nil => exact .inl ⟨rfl, rfl⟩
    | cons c more =>
        have hhead := List.head?_dropWhile_not (fun c => decide (c ≠ ' ')) text
        rw [hrest] at hhead
        obtain rfl : c = ' ' := by simpa using hhead
        exact .inr (by rw [List.takeWhile_cons_of_pos (by decide)]; rfl)
  · intro c hc
    rcases List.mem_append.mp hc with hgap | hc
    · exact List.mem_takeWhile_imp hgap
    · exact htail c hc

theorem reads_of_held? (hheld : held? before (physical, index) = some line) :
    Reads (dropReturn physical) line.kind line.payload.toList := by
  simp only [held?, Option.ite_none_left_eq_some, Option.some.injEq] at hheld
  obtain ⟨-, rfl⟩ := hheld
  have hraw : dropReturn physical = Text.dropTrailing physical ++
      (dropReturn physical).rtakeWhile Text.isBlank := by
    rw [← dropTrailing_dropReturn]
    exact List.rdropWhile_append_rtakeWhile.symm
  have htail : ∀ c ∈ (dropReturn physical).rtakeWhile Text.isBlank, Text.isBlank c = true :=
    fun c => List.mem_rtakeWhile_imp
  have htext : Text.dropTrailing (Text.dropTrailing physical) = Text.dropTrailing physical :=
    Text.dropTrailing_dropTrailing physical
  rw [hraw, String.toList_ofList]
  cases hkind : StatementKind.ofKeyword?
      (String.ofList ((Text.dropTrailing physical).takeWhile (· ≠ ' '))) with
  | none => exact reads_text htext htail hkind
  | some kind => exact reads_behind_keyword htext htail hkind

/-- What a physical line holds accounts for it. -/
theorem accountsFor_of_held?
    (hphysical : (source.toList.splitOn '\n')[index]? = some physical)
    (hheld : held? (textBefore (source.toList.splitOn '\n') index) (physical, index) = some line) :
    AccountsFor source (textBefore (source.toList.splitOn '\n') index) physical
      (dropReturn physical) line := by
  have hstands := physical_of_getElem? hphysical
  have hreads := reads_of_held? hheld
  have hfeeds : (textBefore (source.toList.splitOn '\n') index).count '\n' = index := by
    have hindex := (List.getElem?_eq_some_iff.mp hphysical).1
    rw [textBefore, count_flatMap_feed, List.length_take_of_le (Nat.le_of_lt hindex)]
    intro piece hpiece
    exact feed_not_mem_of_mem_splitOn (List.mem_of_mem_take hpiece)
  simp only [held?, Option.ite_none_left_eq_some, Option.some.injEq] at hheld
  obtain ⟨-, rfl⟩ := hheld
  refine ⟨hstands, returned_dropReturn physical, by rw [hfeeds], rfl, ?_, hreads⟩
  obtain ⟨behind, hbehind⟩ := hstands.exists_behind
  obtain ⟨ending, hending⟩ := (returned_dropReturn physical).exists_ending
  have hwhole : source.toList = textBefore (source.toList.splitOn '\n') index ++
      dropReturn physical ++ (ending ++ behind) := by
    refine hbehind.trans ?_
    nth_rewrite 1 [hending]
    simp only [List.append_assoc]
  exact Text.slice_of_append hwhole

theorem byteLength_textBefore_lt {physicals : List (List Char)} {first second : Nat}
    (hless : first < second) (hsecond : second < physicals.length) :
    Text.byteLength (textBefore physicals first) <
      Text.byteLength (textBefore physicals second) := by
  have htake : physicals.take (first + 1) <+: physicals.take second :=
    List.take_prefix_take_left hless
  obtain ⟨later, hlater⟩ := List.IsPrefix.flatMap htake (· ++ ['\n'])
  have hfirst : first < physicals.length := hless.trans hsecond
  have hfeed : Text.byteLength ['\n'] = 1 := by decide
  rw [textBefore, textBefore, ← hlater, List.take_succ_eq_append_getElem hfirst,
    List.flatMap_append, List.flatMap_singleton]
  simp only [byteLength_append, hfeed]
  omega

theorem held?_eq_none_iff : held? before (physical, index) = none ↔
    physical.all Text.isBlank = true := by
  simp [held?]

/-- What is selected from a list stands for what a test that says what is selected keeps of it. -/
theorem forall₂_filterMap_filter {α β : Type} {select : α → Option β} {keep : α → Bool}
    {related : β → α → Prop} {items : List α}
    (hnone : ∀ item ∈ items, select item = none ↔ keep item = false)
    (hsome : ∀ item ∈ items, ∀ selected, select item = some selected → related selected item) :
    List.Forall₂ related (items.filterMap select) (items.filter keep) := by
  induction items with
  | nil => exact .nil
  | cons item rest ih =>
      obtain ⟨hnone, hnones⟩ := List.forall_mem_cons.mp hnone
      obtain ⟨hsome, hsomes⟩ := List.forall_mem_cons.mp hsome
      cases hselect : select item with
      | none =>
          rw [List.filterMap_cons_none hselect, List.filter_cons_of_neg (by simp [hnone.mp hselect])]
          exact ih hnones hsomes
      | some selected =>
          have hkeep : keep item = true := by
            by_contra hdrop
            rw [hnone.mpr (Bool.eq_false_iff.mpr hdrop)] at hselect
            cases hselect
          rw [List.filterMap_cons_some hselect, List.filter_cons_of_pos hkeep]
          exact .cons (hsome selected hselect) (ih hnones hsomes)

/-- The offset of a line is that of the physical line that its number names. -/
theorem offset_of_mem_heldLines (hline : line ∈ heldLines source) :
    line.number - 1 < (source.toList.splitOn '\n').length ∧
      line.offset =
        Text.byteLength (textBefore (source.toList.splitOn '\n') (line.number - 1)) := by
  obtain ⟨⟨physical, index⟩, hmem, hheld⟩ := List.mem_filterMap.mp hline
  have hphysical := List.mem_zipIdx_iff_getElem?.mp hmem
  have hoffset := (accountsFor_of_held? hphysical hheld).offset
  rw [number_of_held? hheld, Nat.add_sub_cancel]
  exact ⟨(List.getElem?_eq_some_iff.mp hphysical).1, hoffset⟩

/-- The lines of a script stand in order, and they are one for each physical line of its source that
is not blank: each counts the line feeds before its own, spans the bytes of it without a carriage
return at its end, and holds what stands behind its keyword, or all of it. -/
theorem lines_account_for_source (source : String) :
    ((ofSource source).Pairwise fun earlier later =>
      earlier.number < later.number ∧ earlier.offset < later.offset) ∧
    List.Forall₂ (fun line physical => ∃ before raw, AccountsFor source before physical raw line)
      (ofSource source) ((source.toList.splitOn '\n').filter (!·.all Text.isBlank)) := by
  rw [ofSource_eq_heldLines]
  constructor
  · refine (pairwise_number_heldLines source).imp_of_mem ?_
    intro earlier later hearlier hlater hnumber
    obtain ⟨-, hfirst⟩ := offset_of_mem_heldLines hearlier
    obtain ⟨hbound, hsecond⟩ := offset_of_mem_heldLines hlater
    have hpositive := number_pos_of_mem_heldLines hearlier
    rw [hfirst, hsecond]
    exact ⟨hnumber, byteLength_textBefore_lt (by omega) hbound⟩
  · have hnumbered : (source.toList.splitOn '\n').filter (!·.all Text.isBlank) =
        ((source.toList.splitOn '\n').zipIdx.filter (!·.1.all Text.isBlank)).map Prod.fst := by
      nth_rewrite 1 [← List.zipIdx_map_fst 0 (source.toList.splitOn '\n')]
      rw [List.filter_map]
      rfl
    rw [hnumbered, List.forall₂_map_right_iff]
    apply forall₂_filterMap_filter
    · rintro ⟨physical, index⟩ -
      rw [held?_eq_none_iff]
      simp
    · rintro ⟨physical, index⟩ hmem line hheld
      exact ⟨_, _, accountsFor_of_held? (List.mem_zipIdx_iff_getElem?.mp hmem) hheld⟩

end Reading

end Line

end PromptScript
