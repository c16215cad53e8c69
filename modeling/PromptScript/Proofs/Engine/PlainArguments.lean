import Mathlib.Data.List.Nodup
import PromptScript.Proofs.Engine.Invocation

/-!
# Calls whose values stand without quotes

A quote opens wherever it stands in the text between the parentheses, also inside a word, and while
it is open no comma separates.  So an argument whose value leaves a quote open takes in the
arguments behind it, up to where that quote comes again, and their names are lost.

Which arguments are taken in depends on nothing but the quotes of the values in front, and a call
is read as it was meant just when every value but the last one closes its own quotes.
-/

namespace PromptScript

namespace Invocation

/-- An argument as a script writes it without quotes: a key, and a value in which nothing but an
open quote can go wrong. -/
structure PlainArgument where
  key : String
  value : String
  key_ne_empty : key ≠ ""
  key_trimmed : Text.trim key = key
  key_plain : ∀ c ∈ key.toList, c ≠ '=' ∧ c ≠ ',' ∧ isQuote c = false
  value_trimmed : Text.trim value = value
  comma_not_mem : ',' ∉ value.toList
  value_begins : ∀ c ∈ value.toList.head?, isQuote c = false

namespace PlainArgument

/-- The text of the argument. -/
def text (argument : PlainArgument) : String :=
  argument.key ++ "=" ++ argument.value

/-- The member that the argument stands for. -/
def member (argument : PlainArgument) : String × Json :=
  (argument.key, .string argument.value)

end PlainArgument

/-- The text of plain arguments, with commas between them. -/
def plainText (arguments : List PlainArgument) : String :=
  ", ".intercalate (arguments.map PlainArgument.text)

/-- Whether every quote in a text that opens is closed by the next one of its kind. -/
inductive Closes : List Char → Prop
  | nil : Closes []
  | plain {c : Char} {rest : List Char} : isQuote c = false → Closes rest → Closes (c :: rest)
  | quoted {mark : Char} {inside rest : List Char} : isQuote mark = true → mark ∉ inside →
      Closes rest → Closes (mark :: (inside ++ mark :: rest))

/-! ## The quote behind a text -/

section Quotes

variable {quote : Option Char} {mark : Char} {text : List Char}

theorem quoteAfter_some_of_not_mem (hmark : mark ∉ text) :
    quoteAfter (some mark) text = some mark := by
  induction text with
  | nil => rfl
  | cons c rest ih =>
      rw [List.mem_cons, not_or] at hmark
      rw [quoteAfter_cons, quoteBehind_some, if_neg (Ne.symm hmark.1), ih hmark.2]

theorem isQuote_of_mem_quoteBehind {c : Char} (hquote : ∀ mark ∈ quote, isQuote mark = true) :
    ∀ mark ∈ quoteBehind quote c, isQuote mark = true := by
  intro mark hmark
  cases quote with
  | none =>
      rw [quoteBehind_none, Option.mem_def, ite_eq_iff] at hmark
      rcases hmark with ⟨hc, hsame⟩ | ⟨-, hnone⟩
      · cases hsame
        exact hc
      · cases hnone
  | some before =>
      rw [quoteBehind_some, Option.mem_def, ite_eq_iff] at hmark
      rcases hmark with ⟨-, hnone⟩ | ⟨-, hsame⟩
      · cases hnone
      · cases hsame
        exact hquote mark rfl

/-- Only a quote is ever open. -/
theorem isQuote_of_mem_quoteAfter (hquote : ∀ mark ∈ quote, isQuote mark = true) :
    ∀ mark ∈ quoteAfter quote text, isQuote mark = true := by
  induction text generalizing quote with
  | nil => exact hquote
  | cons c rest ih => exact ih (isQuote_of_mem_quoteBehind hquote)

theorem quoteAfter_of_closes (hcloses : Closes text) : quoteAfter none text = none := by
  induction hcloses with
  | nil => rfl
  | plain hc hrest ih => rwa [quoteAfter_cons, quoteBehind_none, if_neg (by simp [hc])]
  | quoted hmark hinside hrest ih =>
      rwa [quoteAfter_cons, quoteBehind_none, if_pos hmark, quoteAfter_append,
        quoteAfter_some_of_not_mem hinside, quoteAfter_cons, quoteBehind_some, if_pos rfl]

/-- Whether a text closes the quote that is open in front of it, and then its own. -/
def ClosesFrom : Option Char → List Char → Prop
  | none, text => Closes text
  | some mark, text =>
    ∃ inside rest, text = inside ++ mark :: rest ∧ mark ∉ inside ∧ Closes rest

theorem closesFrom_of_quoteAfter (hnone : quoteAfter quote text = none) :
    ClosesFrom quote text := by
  induction text generalizing quote with
  | nil =>
      rw [quoteAfter_nil] at hnone
      subst hnone
      exact .nil
  | cons c rest ih =>
      rw [quoteAfter_cons] at hnone
      have hrest := ih hnone
      cases quote with
      | none =>
          by_cases hc : isQuote c = true
          · rw [quoteBehind_none, if_pos hc] at hrest
            obtain ⟨inside, later, rfl, hinside, hlater⟩ := hrest
            exact .quoted hc hinside hlater
          · rw [quoteBehind_none, if_neg hc] at hrest
            exact .plain (Bool.eq_false_iff.mpr hc) hrest
      | some mark =>
          by_cases hsame : c = mark
          · rw [quoteBehind_some, if_pos hsame] at hrest
            exact ⟨[], rest, by rw [hsame, List.nil_append], List.not_mem_nil, hrest⟩
          · rw [quoteBehind_some, if_neg hsame] at hrest
            obtain ⟨inside, later, rfl, hinside, hlater⟩ := hrest
            refine ⟨c :: inside, later, rfl, ?_, hlater⟩
            rw [List.mem_cons, not_or]
            exact ⟨Ne.symm hsame, hinside⟩

theorem closes_iff : Closes text ↔ quoteAfter none text = none :=
  ⟨quoteAfter_of_closes, fun hnone => closesFrom_of_quoteAfter hnone⟩

instance (text : List Char) : Decidable (Closes text) :=
  decidable_of_iff _ closes_iff.symm

end Quotes

/-! ## The texts of arguments -/

namespace PlainArgument

variable (argument : PlainArgument)

/-- The key with the value. -/
def pair : String × List Char :=
  (argument.key, argument.value.toList)

theorem toList_text : argument.text.toList = joined argument.pair := by
  simp [text, joined, pair]

theorem trimmed_value : Text.Trimmed argument.value.toList :=
  Text.trimmed_toList argument.value_trimmed

theorem separable_pair : Separable argument.pair where
  key_ne_empty := argument.key_ne_empty
  key_trimmed := argument.key_trimmed
  equals_not_mem := fun hmem => (argument.key_plain '=' hmem).1 rfl
  text_trimmed := argument.trimmed_value

theorem comma_not_mem_joined : ',' ∉ joined argument.pair := by
  have hkey : ',' ∉ argument.key.toList := fun hmem => (argument.key_plain ',' hmem).2.1 rfl
  simp [joined, pair, hkey, argument.comma_not_mem]

/-- Only the value of an argument can open or close a quote. -/
theorem quoteAfter_joined {quote : Option Char} (hquote : ∀ mark ∈ quote, isQuote mark = true) :
    quoteAfter quote (joined argument.pair) = quoteAfter quote argument.value.toList := by
  have hplain : ∀ c ∈ argument.key.toList ++ ['='], isQuote c = false := by
    intro c hc
    rcases List.mem_append.mp hc with hkey | hequals
    · exact (argument.key_plain c hkey).2.2
    · cases List.mem_singleton.mp hequals
      rfl
  have hparts : joined argument.pair =
      (argument.key.toList ++ ['=']) ++ argument.value.toList := by
    simp [joined, pair]
  rw [hparts, quoteAfter_append, quoteAfter_plain hquote hplain]

end PlainArgument

theorem toList_plainText (arguments : List PlainArgument) :
    (plainText arguments).toList =
      [',', ' '].intercalate ((arguments.map PlainArgument.pair).map joined) := by
  simp [plainText, String.toList_intercalate, PlainArgument.toList_text, Function.comp_def]

theorem separable_plain (arguments : List PlainArgument) :
    ∀ pair ∈ arguments.map PlainArgument.pair, Separable pair := by
  rw [List.forall_mem_map]
  exact fun argument _ => argument.separable_pair

/-! ## What an open quote takes in -/

/-- What is read of the arguments behind a text that leaves a quote open or none: the characters
that this text takes in, and the pairs that stand on their own. -/
def regrouped (quote : Option Char) : List PlainArgument → List Char × List (String × List Char)
  | [] => ([], [])
  | argument :: rest =>
    let (taken, pairs) := regrouped (quoteAfter quote argument.value.toList) rest
    match quote with
    | none => ([], (argument.key, argument.value.toList ++ taken) :: pairs)
    | some _ => (',' :: ' ' :: (joined argument.pair ++ taken), pairs)

section Regrouped

variable {quote : Option Char} {argument : PlainArgument} {rest arguments : List PlainArgument}

theorem regrouped_none_fst (arguments : List PlainArgument) :
    (regrouped none arguments).1 = [] := by
  cases arguments <;> rfl

theorem regrouped_none_snd (argument : PlainArgument) (rest : List PlainArgument) :
    (regrouped none (argument :: rest)).2 =
      (argument.key, argument.value.toList ++
          (regrouped (quoteAfter none argument.value.toList) rest).1) ::
        (regrouped (quoteAfter none argument.value.toList) rest).2 := rfl

theorem regrouped_some_cons (mark : Char) (argument : PlainArgument) (rest : List PlainArgument) :
    regrouped (some mark) (argument :: rest) =
      (',' :: ' ' :: (joined argument.pair ++
          (regrouped (quoteAfter (some mark) argument.value.toList) rest).1),
        (regrouped (quoteAfter (some mark) argument.value.toList) rest).2) := rfl

/-- The pieces behind a text are what it takes in, and the pairs that stand on their own. -/
theorem splitOutsideQuotes_regrouped (hquote : ∀ mark ∈ quote, isQuote mark = true)
    (arguments : List PlainArgument) :
    splitOutsideQuotes quote
        ((arguments.map PlainArgument.pair).flatMap fun pair => [',', ' '] ++ joined pair) =
      (regrouped quote arguments).1 ::
        (regrouped quote arguments).2.map fun pair => ' ' :: joined pair := by
  induction arguments generalizing quote with
  | nil => rfl
  | cons argument rest ih =>
      have hbehind : ∀ mark ∈ quoteAfter quote argument.value.toList, isQuote mark = true :=
        isQuote_of_mem_quoteAfter hquote
      have hspace : ¬(quote.isNone = true ∧ ' ' = ',') := by simp
      rw [List.map_cons, List.flatMap_cons, List.append_assoc, List.cons_append, List.cons_append,
        List.nil_append]
      cases quote with
      | none =>
          rw [splitOutsideQuotes_comma, splitOutsideQuotes_cons hspace,
            quoteBehind_plain hquote rfl, splitOutsideQuotes_append argument.comma_not_mem_joined,
            argument.quoteAfter_joined hquote, ih hbehind, regrouped_none_fst, regrouped_none_snd]
          simp [joined, PlainArgument.pair]
      | some mark =>
          rw [splitOutsideQuotes_cons (by simp), quoteBehind_plain hquote rfl,
            splitOutsideQuotes_cons hspace, quoteBehind_plain hquote rfl,
            splitOutsideQuotes_append argument.comma_not_mem_joined,
            argument.quoteAfter_joined hquote, ih hbehind, regrouped_some_cons]
          simp

/-- What a text takes in ends as an argument does. -/
theorem regrouped_ends (quote : Option Char) (arguments : List PlainArgument) :
    (regrouped quote arguments).1 = [] ∨
      ∃ middle last, (regrouped quote arguments).1 = middle ++ last ∧ Text.Trimmed last ∧
        last ≠ [] := by
  induction arguments generalizing quote with
  | nil => exact .inl rfl
  | cons argument rest ih =>
      cases quote with
      | none => exact .inl rfl
      | some mark =>
          right
          rw [regrouped_some_cons]
          rcases ih (quoteAfter (some mark) argument.value.toList) with
            hnone | ⟨middle, last, htaken, hlast⟩
          · exact ⟨[',', ' '], joined argument.pair, by simp [hnone],
              argument.separable_pair.trimmed_joined, joined_ne_nil _⟩
          · exact ⟨',' :: ' ' :: (joined argument.pair ++ middle), last, by simp [htaken], hlast⟩

theorem trimmed_taken (argument : PlainArgument) (rest : List PlainArgument) :
    Text.Trimmed (argument.value.toList ++
      (regrouped (quoteAfter none argument.value.toList) rest).1) := by
  by_cases hempty : argument.value.toList = []
  · simpa [hempty, regrouped_none_fst] using argument.trimmed_value
  · rcases regrouped_ends (quoteAfter none argument.value.toList) rest with
      hnone | ⟨middle, last, htaken, hlast, hsome⟩
    · rw [hnone, List.append_nil]
      exact argument.trimmed_value
    · rw [htaken]
      exact argument.trimmed_value.around hlast hempty hsome middle

/-- A value keeps its beginning, whatever it takes in. -/
theorem isQuote_of_mem_head?_taken (argument : PlainArgument) (rest : List PlainArgument) :
    ∀ c ∈ (argument.value.toList ++
      (regrouped (quoteAfter none argument.value.toList) rest).1).head?, isQuote c = false := by
  by_cases hempty : argument.value.toList = []
  · simp [hempty, regrouped_none_fst]
  · rw [List.head?_append_of_ne_nil _ hempty]
    exact argument.value_begins

/-- A pair that stands on its own is an argument with what it takes in. -/
theorem exists_of_mem_regrouped {pair : String × List Char}
    (hpair : pair ∈ (regrouped quote arguments).2) :
    ∃ argument ∈ arguments, ∃ rest, pair = (argument.key, argument.value.toList ++
      (regrouped (quoteAfter none argument.value.toList) rest).1) := by
  induction arguments generalizing quote with
  | nil => exact nomatch hpair
  | cons argument rest ih =>
      have hlater {quote : Option Char} (hpair : pair ∈ (regrouped quote rest).2) :
          ∃ other ∈ argument :: rest, ∃ behind, pair = (other.key, other.value.toList ++
            (regrouped (quoteAfter none other.value.toList) behind).1) := by
        obtain ⟨other, hother, behind, hsame⟩ := ih hpair
        exact ⟨other, List.mem_cons_of_mem _ hother, behind, hsame⟩
      cases quote with
      | none =>
          rw [regrouped_none_snd, List.mem_cons] at hpair
          rcases hpair with hfirst | hrest
          · exact ⟨argument, List.mem_cons_self, rest, hfirst⟩
          · exact hlater hrest
      | some mark => exact hlater hpair

theorem separable_regrouped (quote : Option Char) (arguments : List PlainArgument) :
    ∀ pair ∈ (regrouped quote arguments).2, Separable pair := by
  intro pair hpair
  obtain ⟨argument, -, rest, rfl⟩ := exists_of_mem_regrouped hpair
  exact { argument.separable_pair with text_trimmed := trimmed_taken argument rest }

theorem unquote_of_head {text : List Char} (hhead : ∀ c ∈ text.head?, isQuote c = false) :
    unquote text = text := by
  have hnone (mark : Char) (hmark : isQuote mark = true) : unquoteWith? mark text = none := by
    unfold unquoteWith?
    split
    next first second rest =>
      have hfirst : first ≠ mark := by
        rintro rfl
        simp [hhead first rfl] at hmark
      rw [if_neg fun hboth => hfirst hboth.1]
    next => rfl
  rw [unquote, hnone '"' rfl, hnone '\'' rfl]
  rfl

theorem unquote_regrouped (quote : Option Char) (arguments : List PlainArgument) :
    ∀ pair ∈ (regrouped quote arguments).2, unquote pair.2 = pair.2 := by
  intro pair hpair
  obtain ⟨argument, -, rest, rfl⟩ := exists_of_mem_regrouped hpair
  exact unquote_of_head (isQuote_of_mem_head?_taken argument rest)

/-- The arguments that are read of a text are the pairs that stand on their own. -/
theorem readArguments_plainText (hfirst : ∀ first ∈ arguments.head?,
    first.key.toList.head? ≠ some '\x7b') :
    readArguments (Text.dropAround (plainText arguments).toList) =
      .ok (.ofMembers ((regrouped none arguments).2.map fun pair =>
        (pair.1, .string (String.ofList pair.2)))) := by
  rw [toList_plainText]
  cases arguments with
  | nil => rfl
  | cons first rest =>
      have hsplit : splitOutsideQuotes none
          ([',', ' '].intercalate (((first :: rest).map PlainArgument.pair).map joined)) =
            joined (first.key, first.value.toList ++
                (regrouped (quoteAfter none first.value.toList) rest).1) ::
              (regrouped (quoteAfter none first.value.toList) rest).2.map
                fun pair => ' ' :: joined pair := by
        rw [List.map_cons, List.map_cons, Text.intercalate_cons_eq, List.flatMap_map,
          splitOutsideQuotes_append first.comma_not_mem_joined, first.quoteAfter_joined (by simp),
          splitOutsideQuotes_regrouped (isQuote_of_mem_quoteAfter (by simp))]
        simp [joined, PlainArgument.pair]
      rw [List.map_cons, readArguments_of_joined (separable_plain (first :: rest))
        (hfirst first rfl), ← List.map_cons,
        pairArguments_of_split (separable_regrouped none (first :: rest)) hsplit,
        ← regrouped_none_snd]
      congr 2
      exact List.map_congr_left fun pair hpair => by
        rw [unquote_regrouped none (first :: rest) pair hpair]

/-! ## Which arguments stand on their own -/

theorem regrouped_keys_sublist (quote : Option Char) (arguments : List PlainArgument) :
    ((regrouped quote arguments).2.map Prod.fst).Sublist (arguments.map PlainArgument.key) := by
  induction arguments generalizing quote with
  | nil => exact .slnil
  | cons argument rest ih =>
      cases quote with
      | none => exact (ih _).cons_cons argument.key
      | some mark => exact (ih _).cons argument.key

theorem length_regrouped_le (quote : Option Char) (arguments : List PlainArgument) :
    (regrouped quote arguments).2.length ≤ arguments.length := by
  simpa using (regrouped_keys_sublist quote arguments).length_le

/-- Arguments that close their quotes take nothing in. -/
theorem regrouped_append {front : List PlainArgument}
    (hfront : ∀ argument ∈ front, Closes argument.value.toList) (rest : List PlainArgument) :
    (regrouped none (front ++ rest)).2 =
      front.map PlainArgument.pair ++ (regrouped none rest).2 := by
  induction front with
  | nil => rfl
  | cons argument front ih =>
      obtain ⟨hargument, hfront⟩ := List.forall_mem_cons.mp hfront
      rw [List.cons_append, regrouped_none_snd, quoteAfter_of_closes hargument,
        regrouped_none_fst, ih hfront, List.append_nil]
      rfl

theorem regrouped_of_closes (hcloses : ∀ argument ∈ arguments.dropLast,
    Closes argument.value.toList) :
    (regrouped none arguments).2 = arguments.map PlainArgument.pair := by
  obtain rfl | ⟨front, last, rfl⟩ := arguments.eq_nil_or_concat'
  · rfl
  · rw [List.dropLast_concat] at hcloses
    rw [regrouped_append hcloses, List.map_append]
    simp [regrouped, PlainArgument.pair]

/-- Where every argument stands on its own, none but the last one leaves a quote open. -/
theorem closes_of_length_regrouped (hlength : (regrouped none arguments).2.length =
    arguments.length) : ∀ argument ∈ arguments.dropLast, Closes argument.value.toList := by
  induction arguments with
  | nil => simp
  | cons argument rest ih =>
      cases rest with
      | nil => simp
      | cons next more =>
          rw [regrouped_none_snd, List.length_cons, List.length_cons] at hlength
          have hnone : quoteAfter none argument.value.toList = none := by
            cases hquote : quoteAfter none argument.value.toList with
            | none => rfl
            | some mark =>
                have hbound := length_regrouped_le (quoteAfter (some mark) next.value.toList) more
                rw [hquote, regrouped_some_cons, List.length_cons] at hlength
                dsimp only at hlength
                omega
          rw [hnone, Nat.add_right_cancel_iff] at hlength
          rw [List.dropLast_cons_cons, List.forall_mem_cons]
          exact ⟨closes_iff.mpr hnone, ih hlength⟩

end Regrouped

/-- What is read of plain arguments, before the members are put in order. -/
def readMembers (arguments : List PlainArgument) : List (String × Json) :=
  (regrouped none arguments).2.map fun pair => (pair.1, .string (String.ofList pair.2))

section ReadMembers

variable {arguments : List PlainArgument}

theorem map_pair_eq (arguments : List PlainArgument) :
    ((arguments.map PlainArgument.pair).map fun pair =>
      ((pair.1, .string (String.ofList pair.2)) : String × Json)) =
        arguments.map PlainArgument.member := by
  simp [PlainArgument.pair, PlainArgument.member]

theorem readMembers_keys_sublist (arguments : List PlainArgument) :
    ((readMembers arguments).map Prod.fst).Sublist (arguments.map PlainArgument.key) := by
  rw [readMembers, List.map_map]
  exact regrouped_keys_sublist none arguments

theorem readMembers_perm_iff :
    (readMembers arguments).Perm (arguments.map PlainArgument.member) ↔
      ∀ argument ∈ arguments.dropLast, Closes argument.value.toList := by
  constructor
  · intro hperm
    apply closes_of_length_regrouped
    simpa [readMembers] using hperm.length_eq
  · intro hcloses
    rw [readMembers, regrouped_of_closes hcloses, map_pair_eq]

/-- The first value that leaves a quote open takes in the argument behind it, and the key of that
argument is lost. -/
theorem readMembers_of_open {front back : List PlainArgument} {argument next : PlainArgument}
    (hkeys : ((front ++ argument :: next :: back).map PlainArgument.key).Nodup)
    (hfront : ∀ earlier ∈ front, Closes earlier.value.toList)
    (hopen : ¬Closes argument.value.toList) :
    (∃ more, (argument.key, .string (argument.value ++ ", " ++ next.text ++ more)) ∈
        readMembers (front ++ argument :: next :: back)) ∧
      next.key ∉ (readMembers (front ++ argument :: next :: back)).map Prod.fst := by
  obtain ⟨mark, hmark⟩ := Option.ne_none_iff_exists'.mp fun hnone => hopen (closes_iff.mpr hnone)
  have htext : String.ofList (argument.value.toList ++ (regrouped (some mark) (next :: back)).1) =
      argument.value ++ ", " ++ next.text ++
        String.ofList (regrouped (quoteAfter (some mark) next.value.toList) back).1 := by
    rw [regrouped_some_cons, ← next.toList_text, ← String.toList_inj]
    simp
  have hread : readMembers (front ++ argument :: next :: back) =
      front.map PlainArgument.member ++
        (argument.key, .string (String.ofList
          (argument.value.toList ++ (regrouped (some mark) (next :: back)).1))) ::
        (regrouped (some mark) (next :: back)).2.map fun pair =>
          (pair.1, .string (String.ofList pair.2)) := by
    rw [readMembers, regrouped_append hfront, List.map_append, map_pair_eq,
      regrouped_none_snd, hmark, List.map_cons]
  have hnames : (readMembers (front ++ argument :: next :: back)).map Prod.fst =
      front.map PlainArgument.key ++ argument.key ::
        (regrouped (quoteAfter (some mark) next.value.toList) back).2.map Prod.fst := by
    rw [hread]
    simp [PlainArgument.member, regrouped_some_cons, Function.comp_def]
  have hback := regrouped_keys_sublist (quoteAfter (some mark) next.value.toList) back
  constructor
  · rw [hread, htext]
    exact ⟨_, List.mem_append_right _ List.mem_cons_self⟩
  · intro hmem
    rw [hnames] at hmem
    have hkept := ((hback.cons_cons argument.key).append_left (front.map PlainArgument.key)).subset
      hmem
    have hmiddle : (front ++ argument :: next :: back).map PlainArgument.key =
        (front.map PlainArgument.key ++ [argument.key]) ++
          next.key :: back.map PlainArgument.key := by simp
    rw [hmiddle, List.nodup_middle, List.nodup_cons] at hkeys
    exact hkeys.1 (by simpa using hkept)

end ReadMembers

/-- A call that is written with plain values is read, but every argument stands on its own just when
all values in front of the last one close the quotes that they open.  The first value that leaves
one open takes in the argument behind it, whose key the call then lacks. -/
theorem plain_call_reads_back_iff {name : String} {target : Option String}
    {arguments : List PlainArgument} (hname : name ≠ "") (htrimmed : Text.trim name = name)
    (hopen : '(' ∉ name.toList) (htarget : ∀ receiver ∈ target, Receives receiver)
    (hkeys : (arguments.map PlainArgument.key).Nodup)
    (hfirst : ∀ first ∈ arguments.head?, first.key.toList.head? ≠ some '\x7b') :
    ∃ members,
      ofText (callText name (plainText arguments) target) =
          .ok ⟨name, .object members, target⟩ ∧
        Json.Ordered members ∧
        (members.Perm (arguments.map PlainArgument.member) ↔
          ∀ argument ∈ arguments.dropLast, Closes argument.value.toList) ∧
        ∀ front argument next back, arguments = front ++ argument :: next :: back →
          (∀ earlier ∈ front, Closes earlier.value.toList) → ¬Closes argument.value.toList →
            (∃ more, (argument.key, .string (argument.value ++ ", " ++ next.text ++ more)) ∈
                members) ∧
              next.key ∉ members.map Prod.fst := by
  have hread := readArguments_plainText hfirst
  rw [← readMembers, Json.ofMembers_eq] at hread
  have hperm : (Json.insertAll [] (readMembers arguments)).Perm (readMembers arguments) :=
    Json.insertAll_perm [] ((readMembers_keys_sublist arguments).nodup hkeys)
  refine ⟨_, ofText_callText hname htrimmed hopen htarget hread,
    Json.Ordered.insertAll List.Pairwise.nil _, ?_, ?_⟩
  · rw [← readMembers_perm_iff]
    exact ⟨hperm.symm.trans, hperm.trans⟩
  · rintro front argument next back rfl hfront hargument
    obtain ⟨⟨more, hmember⟩, hlost⟩ := readMembers_of_open hkeys hfront hargument
    refine ⟨⟨more, hperm.mem_iff.mpr hmember⟩, ?_⟩
    rwa [(hperm.map Prod.fst).mem_iff]

theorem plain_call_reads_back_iff_apostrophe :
    ∃ members,
      ofText "f(a=it's, b=x)" = .ok ⟨"f", .object members, none⟩ ∧
        ¬members.Perm [("a", .string "it's"), ("b", .string "x")] ∧
        (∃ more, ("a", .string ("it's, b=x" ++ more)) ∈ members) ∧
        "b" ∉ members.map Prod.fst := by
  let first : PlainArgument := ⟨"a", "it's", by decide, by decide, by simp [isQuote], by decide,
    by decide, by simp [isQuote]⟩
  let second : PlainArgument := ⟨"b", "x", by decide, by decide, by simp [isQuote], by decide,
    by decide, by simp [isQuote]⟩
  have htext : callText "f" (plainText [first, second]) none = "f(a=it's, b=x)" := by decide
  have hopen : ¬Closes first.value.toList := by decide
  obtain ⟨members, hread, -, hapart, htaken⟩ := @plain_call_reads_back_iff "f" none [first, second]
    (by decide) (by decide) (by decide) (by simp) (by decide) (by decide)
  rw [htext] at hread
  refine ⟨members, hread, ?_, htaken [] first second [] rfl (by simp) hopen⟩
  intro hperm
  exact hopen (hapart.mp hperm first List.mem_cons_self)

end Invocation

end PromptScript
