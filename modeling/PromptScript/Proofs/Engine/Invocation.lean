import PromptScript.Engine.Invocation
import PromptScript.Proofs.Attempt
import PromptScript.Proofs.Json.Members
import PromptScript.Proofs.Json.Padding
import PromptScript.Proofs.Text.Trim

/-!
# Calls read back

A call that is written with every value in quotes is read back as it was meant, whatever the values
hold besides their quotes, and so is a call that is written with an object.

The parentheses are found from both ends of the text, so those inside do not matter.  Inside, a
comma separates only where no quote is open, and each value closes the quote that it opened, so
the pieces between commas are the arguments again.
-/

namespace PromptScript

namespace Invocation

/-- An argument as a script writes it: a key, and a value in quotes that it does not hold. -/
structure QuotedArgument where
  key : String
  mark : Char
  value : String
  key_ne_empty : key ≠ ""
  key_trimmed : Text.trim key = key
  key_plain : ∀ c ∈ key.toList, c ≠ '=' ∧ c ≠ ',' ∧ isQuote c = false
  isQuote_mark : isQuote mark = true
  mark_not_mem : mark ∉ value.toList

namespace QuotedArgument

/-- The text of the argument. -/
def text (argument : QuotedArgument) : String :=
  argument.key ++ "=" ++ argument.mark.toString ++ argument.value ++ argument.mark.toString

/-- The member that the argument stands for. -/
def member (argument : QuotedArgument) : String × Json :=
  (argument.key, .string argument.value)

end QuotedArgument

/-- The text of arguments, with commas between them. -/
def argumentsText (arguments : List QuotedArgument) : String :=
  ", ".intercalate (arguments.map QuotedArgument.text)

/-- The text of a call, given what stands between its parentheses. -/
def callText (name inner : String) (target : Option String) : String :=
  name ++ "(" ++ inner ++ ")" ++
    match target with
    | none => ""
    | some receiver => " -> " ++ receiver

/-! ## Pairs of a key and a text -/

/-- Whether a key and a text can be told apart once they are joined. -/
structure Separable (pair : String × List Char) : Prop where
  key_ne_empty : pair.1 ≠ ""
  key_trimmed : Text.trim pair.1 = pair.1
  equals_not_mem : '=' ∉ pair.1.toList
  text_trimmed : Text.Trimmed pair.2

/-- The characters of a pair. -/
def joined (pair : String × List Char) : List Char :=
  pair.1.toList ++ '=' :: pair.2

theorem joined_ne_nil (pair : String × List Char) : joined pair ≠ [] := by
  simp [joined]

namespace Separable

variable {pair : String × List Char} (hpair : Separable pair)

include hpair

theorem key_toList_ne_nil : pair.1.toList ≠ [] := by
  simpa using hpair.key_ne_empty

theorem trimmed_joined : Text.Trimmed (joined pair) := by
  have hkey := Text.trimmed_toList hpair.key_trimmed
  have hequals : Text.Trimmed ['='] := Text.trimmed_singleton rfl
  by_cases hempty : pair.2 = []
  · rw [joined, hempty]
    exact hkey.around hequals hpair.key_toList_ne_nil (List.cons_ne_nil _ _) []
  · exact hkey.around hpair.text_trimmed hpair.key_toList_ne_nil hempty ['=']

end Separable

/-! ## The texts of arguments -/

namespace QuotedArgument

variable (argument : QuotedArgument)

/-- The characters of the value in its quotes. -/
def quoted : List Char :=
  argument.mark :: (argument.value.toList ++ [argument.mark])

/-- The characters of the argument. -/
def chars : List Char :=
  argument.key.toList ++ '=' :: argument.quoted

/-- The key with the value in its quotes. -/
def pair : String × List Char :=
  (argument.key, argument.quoted)

theorem toList_text : argument.text.toList = argument.chars := by
  simp [text, chars, quoted]

theorem trimmed_mark : Text.Trimmed [argument.mark] := by
  apply Text.trimmed_singleton
  have hmark := argument.isQuote_mark
  simp only [isQuote, Bool.or_eq_true, beq_iff_eq] at hmark
  rcases hmark with hmark | hmark <;> rw [hmark] <;> rfl

theorem trimmed_quoted : Text.Trimmed argument.quoted :=
  argument.trimmed_mark.around argument.trimmed_mark (by simp) (by simp) argument.value.toList

theorem separable_pair : Separable argument.pair where
  key_ne_empty := argument.key_ne_empty
  key_trimmed := argument.key_trimmed
  equals_not_mem := fun hmem => (argument.key_plain '=' hmem).1 rfl
  text_trimmed := argument.trimmed_quoted

end QuotedArgument

theorem map_joined_pair (arguments : List QuotedArgument) :
    (arguments.map QuotedArgument.pair).map joined = arguments.map QuotedArgument.chars :=
  List.map_map

theorem separable_pairs (arguments : List QuotedArgument) :
    ∀ pair ∈ arguments.map QuotedArgument.pair, Separable pair := by
  rw [List.forall_mem_map]
  exact fun argument _ => argument.separable_pair

theorem toList_argumentsText (arguments : List QuotedArgument) :
    (argumentsText arguments).toList =
      [',', ' '].intercalate (arguments.map QuotedArgument.chars) := by
  simp [argumentsText, String.toList_intercalate, QuotedArgument.toList_text, Function.comp_def]

/-! ## Splitting -/

section Splitting

variable {quote : Option Char} {c mark : Char} {text rest : List Char}

/-- The quote that is open behind a character. -/
def quoteBehind (quote : Option Char) (c : Char) : Option Char :=
  match quote with
  | some mark => if c = mark then none else some mark
  | none => if isQuote c then some c else none

theorem quoteBehind_none (c : Char) :
    quoteBehind none c = if isQuote c then some c else none := rfl

theorem quoteBehind_some (mark c : Char) :
    quoteBehind (some mark) c = if c = mark then none else some mark := rfl

theorem splitOutsideQuotes_ne_nil (quote : Option Char) (text : List Char) :
    splitOutsideQuotes quote text ≠ [] := by
  cases text with
  | nil => simp [splitOutsideQuotes]
  | cons c rest =>
      cases quote <;> rw [splitOutsideQuotes] <;> split
      next => simp
      next => dsimp only; split <;> simp
      next => simp
      next => dsimp only; split <;> simp

/-- A character that does not separate belongs to the first piece. -/
theorem splitOutsideQuotes_cons (hkept : ¬(quote.isNone = true ∧ c = ',')) :
    splitOutsideQuotes quote (c :: rest) =
      (splitOutsideQuotes (quoteBehind quote c) rest).modifyHead (c :: ·) := by
  obtain ⟨piece, pieces, hpieces⟩ :=
    List.exists_cons_of_ne_nil (splitOutsideQuotes_ne_nil (quoteBehind quote c) rest)
  rw [hpieces]
  cases quote <;> rw [splitOutsideQuotes, if_neg hkept] <;> simp only [quoteBehind] at hpieces <;>
    simp only [hpieces, List.modifyHead_cons]

theorem splitOutsideQuotes_comma :
    splitOutsideQuotes none (',' :: rest) = [] :: splitOutsideQuotes none rest := by
  simp [splitOutsideQuotes]

/-- The quote that is open behind a text. -/
def quoteAfter (quote : Option Char) (text : List Char) : Option Char :=
  text.foldl quoteBehind quote

@[simp]
theorem quoteAfter_nil (quote : Option Char) : quoteAfter quote [] = quote := rfl

@[simp]
theorem quoteAfter_cons (quote : Option Char) (c : Char) (text : List Char) :
    quoteAfter quote (c :: text) = quoteAfter (quoteBehind quote c) text := rfl

@[simp]
theorem quoteAfter_append (quote : Option Char) (first second : List Char) :
    quoteAfter quote (first ++ second) = quoteAfter (quoteAfter quote first) second :=
  List.foldl_append

theorem quoteBehind_plain (hquote : ∀ mark ∈ quote, isQuote mark = true)
    (hplain : isQuote c = false) : quoteBehind quote c = quote := by
  cases quote with
  | none => rw [quoteBehind_none, if_neg (by simp [hplain])]
  | some mark =>
      have hother : c ≠ mark := by
        rintro rfl
        simp [hquote c rfl] at hplain
      rw [quoteBehind_some, if_neg hother]

/-- A text without quotes leaves a quote as it is. -/
theorem quoteAfter_plain (hquote : ∀ mark ∈ quote, isQuote mark = true)
    (hplain : ∀ c ∈ text, isQuote c = false) : quoteAfter quote text = quote := by
  induction text with
  | nil => rfl
  | cons c rest ih =>
      obtain ⟨hc, hrest⟩ := List.forall_mem_cons.mp hplain
      rw [quoteAfter_cons, quoteBehind_plain hquote hc, ih hrest]

/-- A text without commas belongs to the first piece. -/
theorem splitOutsideQuotes_append (hcomma : ',' ∉ text) :
    splitOutsideQuotes quote (text ++ rest) =
      (splitOutsideQuotes (quoteAfter quote text) rest).modifyHead (text ++ ·) := by
  induction text generalizing quote with
  | nil => exact (congrFun List.modifyHead_id _).symm
  | cons c more ih =>
      rw [List.mem_cons, not_or] at hcomma
      rw [List.cons_append, splitOutsideQuotes_cons (by simp [Ne.symm hcomma.1]), ih hcomma.2,
        List.modifyHead_modifyHead]
      rfl

/-- A quote is open until its mark comes again. -/
theorem splitOutsideQuotes_value (hmark : mark ∉ text) :
    splitOutsideQuotes (some mark) (text ++ mark :: rest) =
      (splitOutsideQuotes none rest).modifyHead (text ++ mark :: ·) := by
  induction text with
  | nil =>
      rw [List.nil_append, splitOutsideQuotes_cons (by simp)]
      simp [quoteBehind]
  | cons c more ih =>
      rw [List.mem_cons, not_or] at hmark
      have hbehind : quoteBehind (some mark) c = some mark := by
        simp [quoteBehind, Ne.symm hmark.1]
      rw [List.cons_append, splitOutsideQuotes_cons (by simp), hbehind, ih hmark.2,
        List.modifyHead_modifyHead]
      rfl

/-- The text of an argument holds no comma outside its quotes and leaves no quote open. -/
theorem splitOutsideQuotes_chars (argument : QuotedArgument) (rest : List Char) :
    splitOutsideQuotes none (argument.chars ++ rest) =
      (splitOutsideQuotes none rest).modifyHead (argument.chars ++ ·) := by
  have hkey : ∀ c ∈ argument.key.toList ++ ['='], c ≠ ',' ∧ isQuote c = false := by
    intro c hc
    rcases List.mem_append.mp hc with hkey | hequals
    · exact (argument.key_plain c hkey).2
    · cases List.mem_singleton.mp hequals
      decide
  have hcomma : ',' ∉ argument.key.toList ++ ['='] := fun hmem => (hkey ',' hmem).1 rfl
  have hclosed : quoteAfter none (argument.key.toList ++ ['=']) = none :=
    quoteAfter_plain (by simp) fun c hc => (hkey c hc).2
  have hopen : ¬((none : Option Char).isNone = true ∧ argument.mark = ',') := by
    rintro ⟨-, hcomma⟩
    have hquote := argument.isQuote_mark
    rw [hcomma] at hquote
    cases hquote
  have hbehind : quoteBehind none argument.mark = some argument.mark := by
    simp [quoteBehind, argument.isQuote_mark]
  have hparts : argument.chars ++ rest = (argument.key.toList ++ ['=']) ++
      argument.mark :: (argument.value.toList ++ argument.mark :: rest) := by
    simp [QuotedArgument.chars, QuotedArgument.quoted]
  calc
    splitOutsideQuotes none (argument.chars ++ rest)
      = (splitOutsideQuotes none
          (argument.mark :: (argument.value.toList ++ argument.mark :: rest))).modifyHead
            ((argument.key.toList ++ ['=']) ++ ·) := by
        rw [hparts, splitOutsideQuotes_append hcomma, hclosed]
    _ = (splitOutsideQuotes none rest).modifyHead (argument.chars ++ ·) := by
        rw [splitOutsideQuotes_cons hopen, hbehind, splitOutsideQuotes_value argument.mark_not_mem,
          List.modifyHead_modifyHead, List.modifyHead_modifyHead]
        congr 1
        funext piece
        simp [QuotedArgument.chars, QuotedArgument.quoted]

/-- Arguments behind the first one keep the blank in front of them. -/
theorem splitOutsideQuotes_arguments (argument : QuotedArgument) (rest : List QuotedArgument) :
    splitOutsideQuotes none ([',', ' '].intercalate ((argument :: rest).map QuotedArgument.chars)) =
      argument.chars :: rest.map fun later => ' ' :: later.chars := by
  induction rest generalizing argument with
  | nil =>
      have hsplit := splitOutsideQuotes_chars argument []
      rw [List.append_nil] at hsplit
      rw [List.map_singleton, List.intercalate_singleton, hsplit]
      simp [splitOutsideQuotes]
  | cons next rest ih =>
      have hblank : quoteBehind none ' ' = none := rfl
      have hnext := ih next
      rw [List.map_cons] at hnext
      rw [List.map_cons, List.map_cons, List.intercalate_cons_cons, List.append_assoc,
        splitOutsideQuotes_chars, List.cons_append, List.cons_append, List.nil_append,
        splitOutsideQuotes_comma, splitOutsideQuotes_cons (by decide), hblank, hnext]
      simp

end Splitting

/-! ## Reading -/

section Reading

theorem unquoteWith?_quoted (quote mark : Char) (value : List Char) :
    unquoteWith? quote (mark :: (value ++ [mark])) = if mark = quote then some value else none := by
  cases value with
  | nil => by_cases hsame : mark = quote <;> simp [unquoteWith?, hsame]
  | cons c rest =>
      have hlast : (c :: (rest ++ [mark])).getLast? = some mark := by
        rw [← List.cons_append, List.getLast?_concat]
      have hinside : (c :: (rest ++ [mark])).dropLast = c :: rest := by
        rw [← List.cons_append, List.dropLast_concat]
      by_cases hsame : mark = quote
      · subst hsame
        simp only [List.cons_append, unquoteWith?, hlast, hinside, and_self, if_true]
      · simp only [List.cons_append, unquoteWith?, hsame, false_and, if_false]

theorem unquote_quoted (argument : QuotedArgument) :
    unquote argument.quoted = argument.value.toList := by
  have hmark := argument.isQuote_mark
  simp only [isQuote, Bool.or_eq_true, beq_iff_eq] at hmark
  rw [unquote, QuotedArgument.quoted, unquoteWith?_quoted, unquoteWith?_quoted]
  rcases hmark with hmark | hmark <;> simp [hmark]

section Pairs

variable {first : String × List Char} {rest : List (String × List Char)}
variable (hpairs : ∀ pair ∈ first :: rest, Separable pair)

include hpairs

/-- The pieces of a text are trimmed before they are read, and none of them is dropped. -/
theorem pieces_of_pairs :
    ((joined first :: rest.map fun pair => ' ' :: joined pair).map Text.dropAround).filter
      (!·.isEmpty) = (first :: rest).map joined := by
  obtain ⟨hfirst, hrest⟩ := List.forall_mem_cons.mp hpairs
  have htrimmed : (rest.map fun pair => ' ' :: joined pair).map Text.dropAround =
      rest.map joined := by
    rw [List.map_map]
    exact List.map_congr_left fun pair hpair =>
      (hrest pair hpair).trimmed_joined.dropAround_cons rfl
  rw [List.map_cons, hfirst.trimmed_joined.dropAround_eq, htrimmed, ← List.map_cons,
    List.filter_eq_self, List.forall_mem_map]
  intro pair _
  simp [joined_ne_nil]

/-- Where the pieces of a text are pairs, each pair gives a member. -/
theorem pairArguments_of_split {inner : List Char}
    (hsplit : splitOutsideQuotes none inner =
      joined first :: rest.map fun pair => ' ' :: joined pair) :
    pairArguments inner = .ok (.ofMembers ((first :: rest).map fun pair =>
      (pair.1, .string (String.ofList (unquote pair.2))))) := by
  simp only [pairArguments, hsplit, pieces_of_pairs hpairs, Attempt.bind_eq_ok_iff,
    Attempt.pure_eq_ok_iff]
  refine ⟨_, ?_, rfl⟩
  rw [Attempt.mapM_eq_ok_iff, List.forall₂_map_left_iff, List.forall₂_map_right_iff,
    List.forall₂_same]
  intro pair hpair
  have hseparable := hpairs pair hpair
  have hcut : Text.cutAt? '=' (joined pair) = some (pair.1.toList, pair.2) :=
    Text.cutAt?_of_not_mem hseparable.equals_not_mem pair.2
  have hkey : Text.dropAround pair.1.toList = pair.1.toList :=
    (Text.trimmed_toList hseparable.key_trimmed).dropAround_eq
  have hsome : ¬pair.1.toList.isEmpty = true := by
    rw [List.isEmpty_iff]
    exact hseparable.key_toList_ne_nil
  simp only [hcut, hkey, hseparable.text_trimmed.dropAround_eq, if_neg hsome, String.ofList_toList]
  rfl

end Pairs

theorem pairArguments_of_quoted (arguments : List QuotedArgument) :
    pairArguments ([',', ' '].intercalate (arguments.map QuotedArgument.chars)) =
      .ok (.ofMembers (arguments.map QuotedArgument.member)) := by
  cases arguments with
  | nil => rfl
  | cons first rest =>
      have hsplit : splitOutsideQuotes none
          ([',', ' '].intercalate ((first :: rest).map QuotedArgument.chars)) =
            joined first.pair ::
              (rest.map QuotedArgument.pair).map fun pair => ' ' :: joined pair := by
        rw [splitOutsideQuotes_arguments, List.map_map]
        rfl
      rw [pairArguments_of_split (separable_pairs (first :: rest)) hsplit, ← List.map_cons,
        List.map_map]
      simp only [Function.comp_def, QuotedArgument.pair, unquote_quoted, String.ofList_toList]
      rfl

/-- A text that no brace begins is read as pairs. -/
theorem readArguments_of_head {inner : List Char} (hhead : inner.head? ≠ some '\x7b') :
    readArguments inner = pairArguments inner := by
  unfold readArguments
  split
  next => exact absurd rfl hhead
  next => rfl

/-- The text of pairs is not read as an object, unless its first key begins with a brace. -/
theorem readArguments_of_joined {first : String × List Char} {rest : List (String × List Char)}
    (hpairs : ∀ pair ∈ first :: rest, Separable pair)
    (hfirst : first.1.toList.head? ≠ some '\x7b') :
    readArguments (Text.dropAround ([',', ' '].intercalate ((first :: rest).map joined))) =
      pairArguments ([',', ' '].intercalate ((first :: rest).map joined)) := by
  have htexts : ∀ text ∈ (first :: rest).map joined, Text.Trimmed text ∧ text ≠ [] := by
    rw [List.forall_mem_map]
    exact fun pair hpair => ⟨(hpairs pair hpair).trimmed_joined, joined_ne_nil pair⟩
  rw [List.map_cons] at htexts ⊢
  rw [(Text.trimmed_intercalate htexts).dropAround_eq]
  apply readArguments_of_head
  rw [Text.intercalate_cons_eq, joined, List.append_assoc,
    List.head?_append_of_ne_nil _ (hpairs first List.mem_cons_self).key_toList_ne_nil]
  exact hfirst

theorem readArguments_of_quoted {arguments : List QuotedArgument}
    (hfirst : ∀ first ∈ arguments.head?, first.key.toList.head? ≠ some '\x7b') :
    readArguments (Text.dropAround
      ([',', ' '].intercalate (arguments.map QuotedArgument.chars))) =
        .ok (.ofMembers (arguments.map QuotedArgument.member)) := by
  rw [← pairArguments_of_quoted]
  cases arguments with
  | nil => rfl
  | cons first rest =>
      rw [← map_joined_pair]
      exact readArguments_of_joined (separable_pairs (first :: rest)) (hfirst first rfl)

theorem readArguments_of_object {text : String} {value : Json}
    (hparse : Json.parse text = .ok value) (hobject : value.isObject = true) :
    readArguments (Text.dropAround text.toList) = .ok value := by
  obtain ⟨more, hbrace, hread⟩ := Json.parse_trimmed_of_object hparse hobject
  rw [hbrace] at hread ⊢
  rw [readArguments, hread]
  cases value with
  | object members => rfl
  | _ => simp [Json.isObject] at hobject

theorem cutAtLast?_of_not_mem {mark : Char} {behind : List Char} (hbehind : mark ∉ behind)
    (before : List Char) : cutAtLast? mark (before ++ mark :: behind) = some (before, behind) := by
  have hreverse : (before ++ mark :: behind).reverse =
      behind.reverse ++ mark :: before.reverse := by simp
  rw [cutAtLast?, hreverse, Text.cutAt?_of_not_mem (by simpa using hbehind)]
  simp

/-- What stands behind the parentheses. -/
def targetChars : Option String → List Char
  | none => []
  | some receiver => [' ', '-', '>', ' '] ++ receiver.toList

/-- Whether a text may stand behind an arrow. -/
structure Receives (receiver : String) : Prop where
  ne_empty : receiver ≠ ""
  trimmed : Text.trim receiver = receiver
  close_not_mem : ')' ∉ receiver.toList

theorem readTarget_targetChars {target : Option String}
    (htarget : ∀ receiver ∈ target, Receives receiver) :
    readTarget (Text.dropAround (targetChars target)) = .ok target := by
  cases target with
  | none => rfl
  | some receiver =>
      obtain ⟨hsome, htrimmed, -⟩ := htarget receiver rfl
      have hsomeChars : receiver.toList ≠ [] := by simpa using hsome
      have hreceiver := Text.trimmed_toList htrimmed
      have hfirst : Text.Trimmed ['-'] := Text.trimmed_singleton rfl
      have hbehind := hfirst.around hreceiver (by simp) hsomeChars ['>', ' ']
      have harrow : Text.dropAround (' ' :: '-' :: '>' :: ' ' :: receiver.toList) =
          '-' :: '>' :: ' ' :: receiver.toList := hbehind.dropAround_cons rfl
      have hinner : Text.dropAround (' ' :: receiver.toList) = receiver.toList :=
        hreceiver.dropAround_cons rfl
      obtain ⟨c, more, hchars⟩ := List.exists_cons_of_ne_nil hsomeChars
      have hlead : Text.dropLead? ['-', '>'] ('-' :: '>' :: ' ' :: receiver.toList) =
          some (' ' :: receiver.toList) := rfl
      change readTarget (Text.dropAround (' ' :: '-' :: '>' :: ' ' :: receiver.toList)) = _
      rw [harrow, readTarget, if_neg (by simp), hlead, Option.map_some, hinner, hchars]
      simp only [← hchars, String.ofList_toList]

theorem read_chars {name inner tail : List Char} (hname : Text.Trimmed name) (hsome : name ≠ [])
    (hopen : '(' ∉ name) (hclose : ')' ∉ tail) :
    read (name ++ '(' :: (inner ++ ')' :: tail)) = (do
      let target ← readTarget (Text.dropAround tail)
      let arguments ← readArguments (Text.dropAround inner)
      return ⟨String.ofList name, arguments, target⟩) := by
  rw [read, Text.cutAt?_of_not_mem hopen]
  simp only [pure_bind, cutAtLast?_of_not_mem hclose, hname.dropAround_eq]
  rw [if_neg (by simpa using hsome)]

theorem close_not_mem_targetChars {target : Option String}
    (htarget : ∀ receiver ∈ target, Receives receiver) : ')' ∉ targetChars target := by
  cases target with
  | none => simp [targetChars]
  | some receiver => simp [targetChars, (htarget receiver rfl).close_not_mem]

theorem toList_callText (name inner : String) (target : Option String) :
    (callText name inner target).toList =
      name.toList ++ '(' :: (inner.toList ++ ')' :: targetChars target) := by
  cases target <;> simp [callText, targetChars]

/-- The text of a call has no blank at either end. -/
theorem trimmed_callText {name : String} (inner : String) {target : Option String}
    (hname : Text.Trimmed name.toList) (hsome : name.toList ≠ [])
    (htarget : ∀ receiver ∈ target, Receives receiver) :
    Text.Trimmed (callText name inner target).toList := by
  rw [toList_callText]
  cases target with
  | none =>
      have hclose : Text.Trimmed [')'] := Text.trimmed_singleton rfl
      exact hname.around hclose hsome (by simp) ('(' :: inner.toList)
  | some receiver =>
      obtain ⟨hreceiver, htrimmed, -⟩ := htarget receiver rfl
      have hlast := Text.trimmed_toList htrimmed
      have hwhole := hname.around hlast hsome (by simpa using hreceiver)
        ('(' :: (inner.toList ++ [')', ' ', '-', '>', ' ']))
      simpa [targetChars] using hwhole

/-- A call is read once what stands between its parentheses is. -/
theorem ofText_callText {name inner : String} {target : Option String} {arguments : Json}
    (hname : name ≠ "") (htrimmed : Text.trim name = name) (hopen : '(' ∉ name.toList)
    (htarget : ∀ receiver ∈ target, Receives receiver)
    (harguments : readArguments (Text.dropAround inner.toList) = .ok arguments) :
    ofText (callText name inner target) = .ok ⟨name, arguments, target⟩ := by
  have hsome : name.toList ≠ [] := by simpa using hname
  have hchars := Text.trimmed_toList htrimmed
  have hwhole : (Text.trim (callText name inner target)).toList =
      name.toList ++ '(' :: (inner.toList ++ ')' :: targetChars target) := by
    rw [Text.trim, String.toList_ofList,
      (trimmed_callText inner hchars hsome htarget).dropAround_eq, toList_callText]
  have hread : read (name.toList ++ '(' :: (inner.toList ++ ')' :: targetChars target)) = _ :=
    read_chars hchars hsome hopen (close_not_mem_targetChars htarget)
  rw [readTarget_targetChars htarget, harguments] at hread
  rw [ofText, hwhole, hread, String.ofList_toList]
  rfl

end Reading

/-- A call that is written with quoted values is read back with exactly its members, and one that
is written with an object with that object, whatever the values and the object hold. -/
theorem quoted_call_reads_back {name : String} {target : Option String} (hname : name ≠ "")
    (htrimmed : Text.trim name = name) (hopen : '(' ∉ name.toList)
    (htarget : ∀ receiver ∈ target, Receives receiver) :
    (∀ arguments : List QuotedArgument, (arguments.map QuotedArgument.key).Nodup →
      (∀ first ∈ arguments.head?, first.key.toList.head? ≠ some '\x7b') →
        ∃ members,
          ofText (callText name (argumentsText arguments) target) =
              .ok ⟨name, .object members, target⟩ ∧
            Json.Ordered members ∧ members.Perm (arguments.map QuotedArgument.member)) ∧
      ∀ text value, Json.parse text = .ok value → value.isObject = true →
        ofText (callText name text target) = .ok ⟨name, value, target⟩ := by
  constructor
  · intro arguments hkeys hfirst
    have hnames : (arguments.map QuotedArgument.member).map Prod.fst =
        arguments.map QuotedArgument.key := by
      rw [List.map_map]
      rfl
    have hread : readArguments (Text.dropAround (argumentsText arguments).toList) =
        .ok (.ofMembers (arguments.map QuotedArgument.member)) := by
      rw [toList_argumentsText]
      exact readArguments_of_quoted hfirst
    rw [Json.ofMembers_eq] at hread
    refine ⟨_, ofText_callText hname htrimmed hopen htarget hread, ?_, ?_⟩
    · exact Json.Ordered.insertAll List.Pairwise.nil _
    · exact Json.insertAll_perm [] (by rwa [List.nil_append, hnames])
  · intro text value hparse hobject
    exact ofText_callText hname htrimmed hopen htarget (readArguments_of_object hparse hobject)

theorem quoted_call_reads_back_marks :
    (∃ members,
      ofText "f(a=\"x, (y) = z -> 'w'\", b=' \"\n') -> out" =
          .ok ⟨"f", .object members, some "out"⟩ ∧
        Json.Ordered members ∧
        members.Perm [("a", .string "x, (y) = z -> 'w'"), ("b", .string " \"\n")]) ∧
      ofText "f( \x7b\"a\": \")\"\x7d ) -> out" =
        .ok ⟨"f", .object [("a", .string ")")], some "out"⟩ := by
  have hreceives : ∀ receiver ∈ some "out", Receives receiver := by
    rintro _ ⟨⟩
    exact ⟨by decide, by decide, by decide⟩
  let arguments : List QuotedArgument :=
    [⟨"a", '"', "x, (y) = z -> 'w'", by decide, by decide, by simp [isQuote], rfl, by decide⟩,
      ⟨"b", '\'', " \"\n", by decide, by decide, by simp [isQuote], rfl, by decide⟩]
  have hpairs : callText "f" (argumentsText arguments) (some "out") =
      "f(a=\"x, (y) = z -> 'w'\", b=' \"\n') -> out" := by decide
  have hobject : callText "f" " \x7b\"a\": \")\"\x7d " (some "out") =
      "f( \x7b\"a\": \")\"\x7d ) -> out" := by decide
  rw [← hpairs, ← hobject]
  constructor
  · exact (quoted_call_reads_back (by decide) (by decide) (by decide) hreceives).1 arguments
      (by decide) (by decide)
  · exact (quoted_call_reads_back (by decide) (by decide) (by decide) hreceives).2
      " \x7b\"a\": \")\"\x7d " (.object [("a", .string ")")]) (by decide +kernel) rfl

end Invocation

end PromptScript
