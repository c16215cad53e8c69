/-!
# Trimming and cutting texts

The characters with the Unicode property `White_Space`, and the removal of blank characters at
the ends of a text.  Trimming is defined on lists of characters; the versions on `String` are
read off them.

A list of characters is cut at line feeds, at every occurrence of a character, and at the first
occurrence of a character or of a longer separator.  `before ++ separator ++ after` is the text
again wherever a cut succeeds.
-/

namespace PromptScript.Text

/-- A character of the Unicode property `White_Space`. -/
def isBlank (c : Char) : Bool :=
  let code := c.toNat
  (9 ≤ code && code ≤ 13) || code == 0x20 || code == 0x85 || code == 0xA0 || code == 0x1680
    || (0x2000 ≤ code && code ≤ 0x200A) || code == 0x2028 || code == 0x2029 || code == 0x202F
    || code == 0x205F || code == 0x3000

theorem isBlank_of_isWhitespace {c : Char} (blank : c.isWhitespace = true) :
    isBlank c = true := by
  simp only [Char.isWhitespace, Bool.or_eq_true, decide_eq_true_eq] at blank
  rcases blank with ((rfl | rfl) | rfl) | rfl <;> decide

theorem isBlank_of_isDigit {c : Char} (hdigit : c.isDigit = true) : isBlank c = false := by
  simp only [Char.isDigit, Bool.and_eq_true, decide_eq_true_eq] at hdigit
  have hlow : 48 ≤ c.toNat := hdigit.1
  have hhigh : c.toNat ≤ 57 := hdigit.2
  simp [isBlank]
  omega

/-- The text without its leading blanks. -/
def dropLeading (text : List Char) : List Char :=
  text.dropWhile isBlank

/-- The text without its trailing blanks. -/
def dropTrailing (text : List Char) : List Char :=
  (text.reverse.dropWhile isBlank).reverse

/-- The text without blanks at either end. -/
def dropAround (text : List Char) : List Char :=
  dropLeading (dropTrailing text)

/-- The texts before and behind the first blank. -/
def cutAtBlank? : List Char → Option (List Char × List Char)
  | [] => none
  | c :: rest =>
    if isBlank c then some ([], rest)
    else (cutAtBlank? rest).map fun (before, after) => (c :: before, after)

/-- Whether a text has nothing but blanks. -/
def isBlankText (text : List Char) : Bool :=
  text.all isBlank

/-- `dropLeading` on strings. -/
def trimStart (text : String) : String :=
  String.ofList (dropLeading text.toList)

/-- `dropTrailing` on strings. -/
def trimEnd (text : String) : String :=
  String.ofList (dropTrailing text.toList)

/-- `dropAround` on strings. -/
def trim (text : String) : String :=
  String.ofList (dropAround text.toList)

/-- The pieces between the occurrences of `mark`; one more than there are occurrences. -/
def splitAt (mark : Char) : List Char → List (List Char)
  | [] => [[]]
  | c :: rest =>
    if c = mark then [] :: splitAt mark rest
    else
      match splitAt mark rest with
      | piece :: pieces => (c :: piece) :: pieces
      | [] => [[c]]

/-- The texts before and behind the first `mark`. -/
def cutAt? (mark : Char) : List Char → Option (List Char × List Char)
  | [] => none
  | c :: rest =>
    if c = mark then some ([], rest)
    else (cutAt? mark rest).map fun (before, after) => (c :: before, after)

/-- The text behind `lead`, where the text begins with it. -/
def dropLead? : (lead text : List Char) → Option (List Char)
  | [], text => some text
  | _ :: _, [] => none
  | a :: lead, c :: text => if a = c then dropLead? lead text else none

/-- The texts before and behind the first occurrence of `separator`. -/
def cutAtText? (separator : List Char) : List Char → Option (List Char × List Char)
  | [] => if separator.isEmpty then some ([], []) else none
  | c :: rest =>
    match dropLead? separator (c :: rest) with
    | some after => some ([], after)
    | none => (cutAtText? separator rest).map fun (before, after) => (c :: before, after)

/-- The number of bytes of a text in UTF-8. -/
def byteLength (text : List Char) : Nat :=
  text.foldl (fun count c => count + c.utf8Size) 0

/-- Joins pieces with a separator between any two. -/
def join (separator : String) (pieces : List String) : String :=
  separator.intercalate pieces

theorem dropLead?_eq_some_iff {lead text after : List Char} :
    dropLead? lead text = some after ↔ text = lead ++ after := by
  fun_induction dropLead? lead text <;> simp_all [eq_comm]

theorem eq_of_cutAt?_eq_some {mark : Char} {text before after : List Char}
    (cut : cutAt? mark text = some (before, after)) : text = before ++ mark :: after := by
  induction text generalizing before after with
  | nil => simp [cutAt?] at cut
  | cons c rest ih =>
    by_cases h : c = mark
    · simp_all [cutAt?]
    · simp only [cutAt?, h, if_false, Option.map_eq_some_iff, Prod.exists, Prod.mk.injEq] at cut
      obtain ⟨first, last, found, rfl, rfl⟩ := cut
      simp [ih found]

end PromptScript.Text
