import PromptScript.Text.Utf8

/-!
# Reading back the bytes of a text

The bytes of a text are the bytes of its characters, one after another.  Each character is read from
its bytes whatever follows them, so the text is read from its bytes.
-/

namespace PromptScript.Text

open String (utf8EncodeChar)

/-! ## Bytes as numbers -/

section Bytes

variable {m n : Nat}

theorem toNat_ofNat_of_le (hn : n ≤ 0xFF) : (UInt8.ofNat n).toNat = n :=
  UInt8.toNat_ofNat_of_lt' (Nat.lt_succ_of_le hn)

theorem isTail_ofNat (hlow : 0x80 ≤ n) (hhigh : n ≤ 0xBF) : isTail (UInt8.ofNat n) = true := by
  have hn := toNat_ofNat_of_le (n := n) (by omega)
  simp only [isTail, UInt8.le_iff_toNat_le, hn, Bool.and_eq_true, decide_eq_true_eq]
  exact ⟨hlow, hhigh⟩

/-- The second byte lies within narrower limits behind four of the first bytes. -/
theorem admitsSecond_ofNat (hm : m ≤ 0xFF) (hlow : 0x80 ≤ n) (hhigh : n ≤ 0xBF)
    (hlong : m = 0xE0 → 0xA0 ≤ n) (hsurrogate : m = 0xED → n ≤ 0x9F)
    (hlonger : m = 0xF0 → 0x90 ≤ n) (hbeyond : m = 0xF4 → n ≤ 0x8F) :
    admitsSecond (UInt8.ofNat m) (UInt8.ofNat n) = true := by
  have hfirst := toNat_ofNat_of_le hm
  have hsecond := toNat_ofNat_of_le (n := n) (by omega)
  have htail := isTail_ofNat hlow hhigh
  simp only [admitsSecond, ← UInt8.toNat_inj, UInt8.le_iff_toNat_le, hfirst, hsecond]
  split
  next hcase => simpa using ⟨hlong hcase, hhigh⟩
  next =>
    split
    next hcase => simpa using ⟨hlow, hsurrogate hcase⟩
    next =>
      split
      next hcase => simpa using ⟨hlonger hcase, hhigh⟩
      next =>
        split
        next hcase => simpa using ⟨hlow, hbeyond hcase⟩
        next => exact htail

end Bytes

/-! ## Characters -/

section Heads

variable {first second third fourth : Nat} {later : Bytes}

theorem utf8Head_one (hfirst : first < 0x80) :
    utf8Head (UInt8.ofNat first) later = .char (Char.ofNat first) later := by
  have hn := toNat_ofNat_of_le (n := first) (by omega)
  simp [utf8Head, UInt8.lt_iff_toNat_lt, hn, hfirst]

theorem utf8Head_two (hfirst : 0xC2 ≤ first ∧ first ≤ 0xDF) (hsecond : 0x80 ≤ second ∧ second ≤ 0xBF) :
    utf8Head (UInt8.ofNat first) (UInt8.ofNat second :: later) =
      .char (Char.ofNat (first % 32 * 64 + second % 64)) later := by
  have hn := toNat_ofNat_of_le (n := first) (by omega)
  have hm := toNat_ofNat_of_le (n := second) (by omega)
  have hone : ¬first < 0x80 := by omega
  have htail := isTail_ofNat hsecond.1 hsecond.2
  simp [utf8Head, UInt8.lt_iff_toNat_lt, UInt8.le_iff_toNat_le, hn, hm, hone, hfirst, htail,
    charOfBytes]

theorem utf8Head_three (hfirst : 0xE0 ≤ first ∧ first ≤ 0xEF)
    (hsecond : 0x80 ≤ second ∧ second ≤ 0xBF) (hthird : 0x80 ≤ third ∧ third ≤ 0xBF)
    (hlong : first = 0xE0 → 0xA0 ≤ second) (hsurrogate : first = 0xED → second ≤ 0x9F) :
    utf8Head (UInt8.ofNat first) (UInt8.ofNat second :: UInt8.ofNat third :: later) =
      .char (Char.ofNat ((first % 16 * 64 + second % 64) * 64 + third % 64)) later := by
  have hn := toNat_ofNat_of_le (n := first) (by omega)
  have hm := toNat_ofNat_of_le (n := second) (by omega)
  have hk := toNat_ofNat_of_le (n := third) (by omega)
  have hone : ¬first < 0x80 := by omega
  have htwo : ¬first ≤ 0xDF := by omega
  have hadmits := admitsSecond_ofNat (m := first) (by omega) hsecond.1 hsecond.2 hlong hsurrogate
    (by omega) (by omega)
  have htail := isTail_ofNat hthird.1 hthird.2
  simp [utf8Head, UInt8.lt_iff_toNat_lt, UInt8.le_iff_toNat_le, hn, hm, hk, hone, htwo, hfirst,
    hadmits, htail, charOfBytes]

theorem utf8Head_four (hfirst : 0xF0 ≤ first ∧ first ≤ 0xF4)
    (hsecond : 0x80 ≤ second ∧ second ≤ 0xBF) (hthird : 0x80 ≤ third ∧ third ≤ 0xBF)
    (hfourth : 0x80 ≤ fourth ∧ fourth ≤ 0xBF) (hlonger : first = 0xF0 → 0x90 ≤ second)
    (hbeyond : first = 0xF4 → second ≤ 0x8F) :
    utf8Head (UInt8.ofNat first)
        (UInt8.ofNat second :: UInt8.ofNat third :: UInt8.ofNat fourth :: later) =
      .char (Char.ofNat (((first % 8 * 64 + second % 64) * 64 + third % 64) * 64 + fourth % 64))
        later := by
  have hn := toNat_ofNat_of_le (n := first) (by omega)
  have hm := toNat_ofNat_of_le (n := second) (by omega)
  have hk := toNat_ofNat_of_le (n := third) (by omega)
  have hl := toNat_ofNat_of_le (n := fourth) (by omega)
  have hone : ¬first < 0x80 := by omega
  have htwo : ¬first ≤ 0xDF := by omega
  have hthree : ¬first ≤ 0xEF := by omega
  have hadmits := admitsSecond_ofNat (m := first) (by omega) hsecond.1 hsecond.2 (by omega)
    (by omega) hlonger hbeyond
  have htail := isTail_ofNat hthird.1 hthird.2
  have hlast := isTail_ofNat hfourth.1 hfourth.2
  simp [utf8Head, UInt8.lt_iff_toNat_lt, UInt8.le_iff_toNat_le, hn, hm, hk, hl, hone, htwo, hthree,
    hfirst, hadmits, htail, hlast, charOfBytes]

end Heads

/-- A character is read from its bytes, whatever stands behind them. -/
theorem utf8Head_encoded (c : Char) (later : Bytes) :
    ∃ first more, utf8EncodeChar c = first :: more ∧ utf8Head first (more ++ later) = .char c later := by
  have hscalar : c.toNat < 0xD800 ∨ 0xDFFF < c.toNat ∧ c.toNat < 0x110000 := c.valid
  have hback : ∀ code : Nat, code = c.toNat → Char.ofNat code = c := by
    rintro code rfl
    exact Char.ofNat_toNat c
  have hcode : c.val.toNat = c.toNat := rfl
  simp only [utf8EncodeChar, hcode]
  by_cases hone : c.toNat ≤ 0x7F
  · rw [if_pos hone]
    refine ⟨_, _, rfl, ?_⟩
    rw [List.nil_append, utf8Head_one (by omega), hback _ rfl]
  by_cases htwo : c.toNat ≤ 0x7FF
  · rw [if_neg hone, if_pos htwo]
    refine ⟨_, _, rfl, ?_⟩
    rw [List.singleton_append, utf8Head_two (by omega) (by omega), hback _ (by omega)]
  by_cases hthree : c.toNat ≤ 0xFFFF
  · rw [if_neg hone, if_neg htwo, if_pos hthree]
    refine ⟨_, _, rfl, ?_⟩
    rw [List.cons_append, List.singleton_append,
      utf8Head_three (by omega) (by omega) (by omega) (by omega) (by omega), hback _ (by omega)]
  · rw [if_neg hone, if_neg htwo, if_neg hthree]
    refine ⟨_, _, rfl, ?_⟩
    rw [List.cons_append, List.cons_append, List.singleton_append,
      utf8Head_four (by omega) (by omega) (by omega) (by omega) (by omega) (by omega),
      hback _ (by omega)]

/-! ## Texts -/

/-- The bytes of characters are read as the characters, with none broken. -/
theorem utf8Runs_encoded (text : List Char) {fuel : Nat}
    (hfuel : (text.flatMap utf8EncodeChar).length ≤ fuel) :
    utf8Runs fuel (text.flatMap utf8EncodeChar) = text.map some := by
  induction text generalizing fuel with
  | nil => cases fuel <;> rfl
  | cons c rest ih =>
      obtain ⟨first, more, hbytes, hhead⟩ := utf8Head_encoded c (rest.flatMap utf8EncodeChar)
      rw [List.flatMap_cons, hbytes, List.cons_append] at hfuel ⊢
      rw [List.length_cons, List.length_append] at hfuel
      cases fuel with
      | zero => omega
      | succ fuel =>
          rw [utf8Runs, hhead, List.map_cons]
          have hmore : (rest.flatMap utf8EncodeChar).length ≤ fuel := by omega
          simp only [ih hmore]

/-- The list of the bytes of an array, which is collected from the front. -/
theorem toList_eq_data (bytes : ByteArray) : bytes.toList = bytes.data.toList := by
  have hloop : ∀ (count start : Nat) (read : Bytes), bytes.size - start = count →
      ByteArray.toList.loop bytes start read = read.reverse ++ bytes.data.toList.drop start := by
    intro count
    induction count with
    | zero =>
        intro start read hcount
        rw [ByteArray.toList.loop, if_neg (by omega), List.drop_eq_nil_of_le, List.append_nil]
        exact Nat.le_of_sub_eq_zero hcount
    | succ count ih =>
        intro start read hcount
        have hstart : start < bytes.size := by omega
        have hlength : start < bytes.data.toList.length := hstart
        have hbyte : bytes.get! start = bytes.data.toList[start] :=
          getElem!_pos bytes.data start hstart
        rw [ByteArray.toList.loop, if_pos hstart, ih (start + 1) _ (by omega), hbyte,
          List.reverse_cons, List.append_assoc, List.singleton_append, ← List.drop_eq_getElem_cons]
  exact hloop bytes.size 0 [] rfl

theorem toBytes_eq_flatMap (text : String) : toBytes text = text.toList.flatMap utf8EncodeChar := by
  have hencoded : text.toUTF8 = (text.toList.flatMap utf8EncodeChar).toByteArray :=
    String.utf8Encode_toList.symm
  rw [toBytes, toList_eq_data, hencoded, List.toList_data_toByteArray]

/-- A text is read from its bytes. -/
theorem ofBytes?_toBytes (text : String) : ofBytes? (toBytes text) = some text := by
  have hall : (text.toList.map some).mapM id = some text.toList := by
    induction text.toList with
    | nil => rfl
    | cons c rest ih => rw [List.map_cons, List.mapM_cons, ih]; rfl
  rw [ofBytes?, toBytes_eq_flatMap, utf8Runs_encoded text.toList (Nat.le_refl _), hall,
    Option.map_some, String.ofList_toList]

end PromptScript.Text
