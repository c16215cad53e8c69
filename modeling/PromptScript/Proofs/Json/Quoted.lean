import PromptScript.Proofs.Json.Numeral

/-!
# Reading written strings

Every string is read back from its quoted form.
-/

namespace PromptScript.Json

section Escapes

variable {cursor : Cursor} {more tail : List Char}

theorem hexDigit?_digitChar {n : Nat} (hn : n < 16) : hexDigit? (Nat.digitChar n) = some n := by
  have hdigits : ∀ n < 16, hexDigit? (Nat.digitChar n) = some n := by decide
  exact hdigits n hn

/-- A control character is read back from its four hexadecimal digits. -/
theorem readUnicodeEscape_control {c : Char} (hcontrol : c.toNat < 0x20)
    (hrest : cursor.rest =
      '0' :: '0' :: Nat.digitChar (c.toNat / 16) :: Nat.digitChar (c.toNat % 16) :: more) :
    ∃ behind, readUnicodeEscape cursor = .ok (c, behind) ∧ behind.rest = more := by
  have hzero : hexDigit? '0' = some 0 := by decide
  have hhigh : hexDigit? (Nat.digitChar (c.toNat / 16)) = some (c.toNat / 16) :=
    hexDigit?_digitChar (by omega)
  have hlow : hexDigit? (Nat.digitChar (c.toNat % 16)) = some (c.toNat % 16) :=
    hexDigit?_digitChar (by omega)
  have hcode : ((0 * 16 + 0) * 16 + c.toNat / 16) * 16 + c.toNat % 16 = c.toNat := by omega
  have hfour : readFourHex cursor = .ok (c.toNat, cursor.advance.advance.advance.advance) := by
    simp only [readFourHex, hrest, hzero, hhigh, hlow, hcode]
  refine ⟨cursor.advance.advance.advance.advance, ?_, by simp [hrest]⟩
  rw [readUnicodeEscape, hfour]
  simp only [bind, Except.bind]
  rw [if_neg (by omega), if_pos (by omega), Char.ofNat_toNat]
  rfl

/-- The marks behind a backslash that are written, with what they stand for. -/
def marks : List (Char × Char) :=
  [('"', '"'), ('\\', '\\'), ('b', '\x08'), ('f', '\x0c'), ('n', '\n'), ('r', '\r'), ('t', '\t')]

theorem readEscape_mark {mark c : Char} (hmark : (mark, c) ∈ marks)
    (hrest : cursor.rest = mark :: more) : readEscape cursor = .ok (c, cursor.advance) := by
  simp only [marks, List.mem_cons, Prod.mk.injEq, List.not_mem_nil, or_false] at hmark
  rcases hmark with ⟨rfl, rfl⟩ | ⟨rfl, rfl⟩ | ⟨rfl, rfl⟩ | ⟨rfl, rfl⟩ | ⟨rfl, rfl⟩ | ⟨rfl, rfl⟩ |
    ⟨rfl, rfl⟩ <;> simp only [readEscape, hrest]

/-- A character is written as itself, behind a backslash as its mark, or by its code. -/
theorem escape_cases (c : Char) :
    (c ≠ '"' ∧ c ≠ '\\' ∧ 0x20 ≤ c.toNat ∧ escape c = [c]) ∨
      (∃ mark, (mark, c) ∈ marks ∧ escape c = ['\\', mark]) ∨
      (c.toNat < 0x20 ∧ escape c =
        ['\\', 'u', '0', '0', Nat.digitChar (c.toNat / 16), Nat.digitChar (c.toNat % 16)]) := by
  by_cases hmark : ∃ mark, (mark, c) ∈ marks
  · obtain ⟨mark, hmark⟩ := hmark
    refine .inr (.inl ⟨mark, hmark, ?_⟩)
    simp only [marks, List.mem_cons, Prod.mk.injEq, List.not_mem_nil, or_false] at hmark
    rcases hmark with ⟨rfl, rfl⟩ | ⟨rfl, rfl⟩ | ⟨rfl, rfl⟩ | ⟨rfl, rfl⟩ | ⟨rfl, rfl⟩ | ⟨rfl, rfl⟩ |
      ⟨rfl, rfl⟩ <;> rfl
  · simp only [marks, List.mem_cons, Prod.mk.injEq, List.not_mem_nil, or_false, not_exists, not_or,
      not_and, forall_and, forall_eq] at hmark
    obtain ⟨hquote, hbackslash, hback, hfeed, hline, hreturn, htab⟩ := hmark
    have hescape : escape c = if c.toNat < 0x20 then
        ['\\', 'u', '0', '0', Nat.digitChar (c.toNat / 16), Nat.digitChar (c.toNat % 16)]
        else [c] := by
      simp only [escape, hquote, hbackslash, hback, hfeed, hline, hreturn, htab, if_false]
    by_cases hcontrol : c.toNat < 0x20
    · exact .inr (.inr ⟨hcontrol, by rw [hescape, if_pos hcontrol]⟩)
    · exact .inl ⟨hquote, hbackslash, Nat.not_lt.mp hcontrol, by rw [hescape, if_neg hcontrol]⟩

theorem readStringBody_of_escape (fuel : Nat) (read : List Char) {behind : Cursor} {c : Char}
    (hrest : cursor.rest = '\\' :: more)
    (hescape : readEscape (cursor.past '\\' more) = .ok (c, behind)) :
    readStringBody (fuel + 1) cursor read = readStringBody fuel behind (c :: read) := by
  rw [readStringBody, hrest]
  simp only [hescape]
  rfl

/-- The form of a character inside a string is read as that character. -/
theorem readStringBody_escape (fuel : Nat) (c : Char) (read : List Char)
    (hrest : cursor.rest = escape c ++ more) :
    ∃ behind, readStringBody (fuel + 1) cursor read = readStringBody fuel behind (c :: read) ∧
      behind.rest = more := by
  rcases escape_cases c with ⟨hquote, hbackslash, hprinted, hself⟩ | ⟨mark, hmark, hwritten⟩ |
    ⟨hcontrol, hwritten⟩
  · rw [hself, List.singleton_append] at hrest
    refine ⟨cursor.past c more, ?_, by simp⟩
    rw [readStringBody, hrest]
    simp only [hquote, hbackslash, Nat.not_lt.mpr hprinted, if_false]
  · rw [hwritten] at hrest
    have hnext : (cursor.past '\\' (mark :: more)).rest = mark :: more := by simp
    exact ⟨_, readStringBody_of_escape fuel read hrest (readEscape_mark hmark hnext), by simp⟩
  · rw [hwritten] at hrest
    have hnext : ∀ text, (cursor.past '\\' ('u' :: text)).advance.rest = text := by simp
    obtain ⟨behind, hcode, hbehind⟩ := readUnicodeEscape_control hcontrol (hnext _)
    refine ⟨behind, readStringBody_of_escape fuel read hrest ?_, hbehind⟩
    rw [← hcode]
    simp [readEscape]

theorem readStringBody_flatMap {fuel : Nat} {text : List Char} (read : List Char)
    (hfuel : text.length < fuel) (hrest : cursor.rest = text.flatMap escape ++ '"' :: tail) :
    ∃ behind, readStringBody fuel cursor read = .ok (read.reverse ++ text, behind) ∧
      behind.rest = tail := by
  induction text generalizing fuel cursor read with
  | nil =>
      obtain ⟨fuel, rfl⟩ := Nat.exists_eq_add_of_lt hfuel
      rw [List.flatMap_nil, List.nil_append] at hrest
      refine ⟨cursor.past '"' tail, ?_, by simp⟩
      rw [readStringBody, hrest, List.append_nil]
      rfl
  | cons c more ih =>
      obtain ⟨fuel, rfl⟩ := Nat.exists_eq_add_of_lt hfuel
      rw [List.flatMap_cons, List.append_assoc] at hrest
      obtain ⟨next, hstep, hnext⟩ :=
        readStringBody_escape (more.length + 1 + fuel) c read hrest
      have hlater : more.length < more.length + 1 + fuel := by omega
      obtain ⟨behind, hread, hbehind⟩ := ih (c :: read) hlater hnext
      refine ⟨behind, ?_, hbehind⟩
      rw [List.length_cons, hstep, hread, List.reverse_cons, List.append_assoc,
        List.singleton_append]

theorem length_le_flatMap_escape (text : List Char) :
    text.length ≤ (text.flatMap escape).length := by
  induction text with
  | nil => exact Nat.le_refl 0
  | cons c more ih =>
      have hsome : 1 ≤ (escape c).length := by
        rcases escape_cases c with ⟨-, -, -, hform⟩ | ⟨mark, -, hform⟩ | ⟨-, hform⟩ <;> simp [hform]
      rw [List.flatMap_cons, List.length_append, List.length_cons]
      omega

/-- A string is read back behind its opening quote, whatever follows its closing one. -/
theorem readString_escape {text : String}
    (hrest : cursor.rest = text.toList.flatMap escape ++ '"' :: tail) :
    ∃ behind, readString cursor = .ok (text, behind) ∧ behind.rest = tail := by
  have hfuel : text.toList.length < cursor.rest.length + 1 := by
    have hlength := length_le_flatMap_escape text.toList
    rw [hrest, List.length_append]
    omega
  obtain ⟨behind, hread, hbehind⟩ := readStringBody_flatMap [] hfuel hrest
  refine ⟨behind, ?_, hbehind⟩
  rw [readString, hread, List.reverse_nil, List.nil_append]
  simp [Except.map]

end Escapes

end PromptScript.Json
