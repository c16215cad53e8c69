import Mathlib.Data.List.Basic
import Mathlib.Data.List.DropRight
import PromptScript.Proofs.Text.Trim
import PromptScript.Script.Program

/-!
# The lines of a script

Each line of a script depends on its own physical line and on what stands before it alone.  A list
that says so line by line is proved equal to the one that the scanner builds.
-/

namespace PromptScript

namespace Text

theorem dropLeading_tail_dropWhile (text : List Char) :
    dropLeading (text.dropWhile (· ≠ ' ')).tail = dropLeading (text.dropWhile (· ≠ ' ')) := by
  cases hbehind : text.dropWhile (· ≠ ' ') with
  | nil => rfl
  | cons c rest =>
      have hne : text.dropWhile (· ≠ ' ') ≠ [] := hbehind ▸ List.cons_ne_nil c rest
      have hhead := List.head_dropWhile_not (· ≠ ' ') hne
      simp only [hbehind, List.head_cons] at hhead
      have hspace : c = ' ' := by simpa using hhead
      rw [hspace, List.tail_cons, dropLeading, dropLeading, List.dropWhile_cons_of_pos (by decide)]

end Text

namespace Line

/-- The text before the physical line of an index. -/
def textBefore (physicals : List (List Char)) (index : Nat) : List Char :=
  (physicals.take index).flatMap (· ++ ['\n'])

/-- The line that a physical line with so much text before it holds, unless it is blank. -/
def held? (before : List Char) (physical : List Char × Nat) : Option Line :=
  let text := Text.dropTrailing physical.1
  let kind := StatementKind.ofKeyword? (String.ofList (text.takeWhile (· ≠ ' ')))
  if physical.1.all Text.isBlank then none
  else some
    { number := physical.2 + 1
      offset := Text.byteLength before
      kind
      payload := String.ofList
        (if kind.isSome then Text.dropAround (text.dropWhile (· ≠ ' ')) else text)
      length := Text.byteLength (dropReturn physical.1) }

/-- The lines of a script that are not blank, each read off its own physical line. -/
def heldLines (source : String) : List Line :=
  let physicals := source.toList.splitOn '\n'
  physicals.zipIdx.filterMap fun physical => held? (textBefore physicals physical.2) physical

theorem dropTrailing_dropReturn (physical : List Char) :
    Text.dropTrailing (dropReturn physical) = Text.dropTrailing physical := by
  rw [dropReturn]
  split
  next hreturn =>
    have hphysical : physical.dropLast ++ ['\r'] = physical :=
      List.dropLast_append_getLast? '\r' hreturn
    rw [← hphysical, List.dropLast_concat]
    exact (List.rdropWhile_concat_pos Text.isBlank physical.dropLast '\r' (by decide)).symm
  next => rfl

theorem classify_of_trimmed {text : List Char} (htrimmed : Text.dropTrailing text = text) :
    classify text =
      let kind := StatementKind.ofKeyword? (String.ofList (text.takeWhile (· ≠ ' ')))
      (kind, if kind.isSome then Text.dropAround (text.dropWhile (· ≠ ' ')) else text) := by
  have hbehind : Text.dropTrailing (text.dropWhile (· ≠ ' ')) = text.dropWhile (· ≠ ' ') :=
    Text.dropTrailing_of_suffix htrimmed (List.dropWhile_suffix _)
  have hcut : (Text.cutAt? ' ' text).getD (text, []) =
      (text.takeWhile (· ≠ ' '), (text.dropWhile (· ≠ ' ')).tail) := by
    rw [Text.cutAt?_eq]
    by_cases hspace : ' ' ∈ text
    · simp [hspace]
    · have hplain : ∀ c ∈ text, (decide (c ≠ ' ')) = true := by
        intro c hc
        exact decide_eq_true fun heq => hspace (heq ▸ hc)
      rw [if_neg hspace, List.takeWhile_eq_self_iff.mpr hplain,
        List.dropWhile_eq_nil_iff.mpr hplain]
      rfl
  simp only [classify, hcut, Text.dropAround, hbehind, Text.dropLeading_tail_dropWhile]
  cases StatementKind.ofKeyword? (String.ofList (text.takeWhile (· ≠ ' '))) <;> rfl

theorem ofPhysical?_eq_held? (before physical : List Char) (index : Nat) :
    ofPhysical? (index + 1) (Text.byteLength before) physical = held? before (physical, index) := by
  have hblank : (Text.dropTrailing physical).isEmpty = physical.all Text.isBlank := by
    rw [Bool.eq_iff_iff, List.isEmpty_iff, Text.dropTrailing_eq_nil_iff]
  simp only [ofPhysical?, held?, dropTrailing_dropReturn, hblank,
    classify_of_trimmed (Text.dropTrailing_dropTrailing physical)]

theorem byteLength_append (front back : List Char) :
    Text.byteLength (front ++ back) = Text.byteLength front + Text.byteLength back := by
  have hcount : ∀ (text : List Char) (count : Nat),
      text.foldl (fun count c => count + c.utf8Size) count = count + Text.byteLength text := by
    intro text
    induction text with
    | nil => exact fun count => rfl
    | cons c rest ih =>
        intro count
        rw [Text.byteLength, List.foldl_cons, List.foldl_cons, ih, ih]
        omega
  rw [Text.byteLength, List.foldl_append, hcount, ← Text.byteLength]

/-- The lines behind physical lines that have been read are read off the physical lines that
follow. -/
theorem ofPhysicalLines_eq (done rest : List (List Char)) :
    ofPhysicalLines (done.length + 1) (Text.byteLength (textBefore done done.length)) rest =
      (rest.zipIdx done.length).filterMap fun physical =>
        held? (textBefore (done ++ rest) physical.2) physical := by
  induction rest generalizing done with
  | nil => rfl
  | cons physical rest ih =>
      have hbefore : textBefore (done ++ physical :: rest) done.length =
          textBefore done done.length := by
        simp [textBefore]
      have hnext : Text.byteLength (textBefore done done.length) + Text.byteLength physical + 1 =
          Text.byteLength (textBefore (done ++ [physical]) (done.length + 1)) := by
        have hfeed : Text.byteLength ['\n'] = 1 := by decide
        have hall : (done ++ [physical]).take (done.length + 1) = done ++ [physical] :=
          List.take_of_length_le (by simp)
        simp only [textBefore, hall, List.take_length, List.flatMap_append, List.flatMap_singleton,
          byteLength_append, hfeed]
        omega
      have hlater := ih (done ++ [physical])
      rw [List.append_assoc, List.singleton_append, List.length_append, List.length_singleton]
        at hlater
      rw [ofPhysicalLines, hnext, List.zipIdx_cons, List.filterMap_cons, hbefore,
        ← ofPhysical?_eq_held?, ← hlater]
      cases ofPhysical? (done.length + 1) (Text.byteLength (textBefore done done.length))
        physical <;> rfl

/-- The scanner reads every physical line, each at its own place. -/
theorem ofSource_eq_heldLines (source : String) : ofSource source = heldLines source := by
  rw [ofSource, Text.splitAt_eq_splitOn]
  exact ofPhysicalLines_eq [] (source.toList.splitOn '\n')

variable {source : String}

theorem number_of_held? {before : List Char} {physical : List Char × Nat} {line : Line}
    (hheld : held? before physical = some line) : line.number = physical.2 + 1 := by
  simp only [held?, Option.ite_none_left_eq_some, Option.some.injEq] at hheld
  rw [← hheld.2]

theorem number_pos_of_mem_heldLines {line : Line} (hline : line ∈ heldLines source) :
    1 ≤ line.number := by
  obtain ⟨physical, -, hheld⟩ := List.mem_filterMap.mp hline
  have hnumber := number_of_held? hheld
  omega

theorem pairwise_number_heldLines (source : String) :
    (heldLines source).Pairwise fun earlier later => earlier.number < later.number := by
  have hindices : ((source.toList.splitOn '\n').zipIdx.map Prod.snd).Pairwise (· < ·) := by
    rw [List.zipIdx_map_snd]
    exact List.pairwise_lt_range'
  refine (List.pairwise_map.mp hindices).filterMap _ ?_
  intro first second hless earlier hearlier later hlater
  have hfirst := number_of_held? hearlier
  have hsecond := number_of_held? hlater
  omega

end Line

end PromptScript
