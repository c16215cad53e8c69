import PromptScript.Expression.Tree
import PromptScript.Text.Basic

/-!
# Named classes and escapes

The classes of characters that have a name, by properties of characters and those of ASCII, and what
a backslash and the characters behind it stand for in the strict notation of expressions, which has
neither look-around nor references back to groups.  Names of properties are read without regard to
case, blanks, hyphens and underscores, and with or without a leading "is".
-/

namespace PromptScript.Expression

open Text (Category Property WritingSystem)

/-! ## Named classes -/

/-- A name of a property without what does not count in it. -/
def looseName (name : List Char) : String :=
  let (rest, hasIs) := match name with
    | a :: b :: rest => if a.toLower = 'i' ∧ b.toLower = 's' then (rest, true) else (name, false)
    | few => (few, false)
  let kept := (rest.filter fun c => c.toNat < 0x80 && c != ' ' && c != '_' && c != '-').map
    Char.toLower
  if hasIs ∧ kept = ['c'] then "isc" else String.ofList kept

/-- The names of general categories and of groups of them. -/
def categoryNames : List (List String × List Category) :=
  let letters : List Category := [.uppercaseLetter, .lowercaseLetter, .titlecaseLetter]
  let marks : List Category := [.nonspacingMark, .spacingMark, .enclosingMark]
  let numbers : List Category := [.decimalNumber, .letterNumber, .otherNumber]
  let punctuation : List Category := [.connectorPunctuation, .dashPunctuation, .openPunctuation,
    .closePunctuation, .initialPunctuation, .finalPunctuation, .otherPunctuation]
  let symbols : List Category := [.mathSymbol, .currencySymbol, .modifierSymbol, .otherSymbol]
  let separators : List Category := [.spaceSeparator, .lineSeparator, .paragraphSeparator]
  let others : List Category := [.control, .format, .surrogate, .privateUse, .unassigned]
  [(["l", "letter"], letters ++ [.modifierLetter, .otherLetter]),
    (["lc", "casedletter"], letters), (["lu", "uppercaseletter"], [.uppercaseLetter]),
    (["ll", "lowercaseletter"], [.lowercaseLetter]),
    (["lt", "titlecaseletter"], [.titlecaseLetter]),
    (["lm", "modifierletter"], [.modifierLetter]), (["lo", "otherletter"], [.otherLetter]),
    (["m", "mark", "combiningmark"], marks), (["mn", "nonspacingmark"], [.nonspacingMark]),
    (["mc", "spacingmark"], [.spacingMark]), (["me", "enclosingmark"], [.enclosingMark]),
    (["n", "number"], numbers), (["nd", "decimalnumber", "digit"], [.decimalNumber]),
    (["nl", "letternumber"], [.letterNumber]), (["no", "othernumber"], [.otherNumber]),
    (["p", "punctuation", "punct"], punctuation),
    (["pc", "connectorpunctuation"], [.connectorPunctuation]),
    (["pd", "dashpunctuation"], [.dashPunctuation]),
    (["ps", "openpunctuation"], [.openPunctuation]),
    (["pe", "closepunctuation"], [.closePunctuation]),
    (["pi", "initialpunctuation"], [.initialPunctuation]),
    (["pf", "finalpunctuation"], [.finalPunctuation]),
    (["po", "otherpunctuation"], [.otherPunctuation]),
    (["s", "symbol"], symbols), (["sm", "mathsymbol"], [.mathSymbol]),
    (["sc", "currencysymbol"], [.currencySymbol]),
    (["sk", "modifiersymbol"], [.modifierSymbol]), (["so", "othersymbol"], [.otherSymbol]),
    (["z", "separator"], separators), (["zs", "spaceseparator"], [.spaceSeparator]),
    (["zl", "lineseparator"], [.lineSeparator]),
    (["zp", "paragraphseparator"], [.paragraphSeparator]),
    (["c", "other"], others), (["cc", "control", "cntrl"], [.control]),
    (["cf", "format"], [.format]), (["co", "privateuse"], [.privateUse]),
    (["cn", "unassigned"], [.unassigned])]

/-- The class of a general category, of a group of them, or of one of three further names. -/
def categoryClass? (name : String) : Option CharClass :=
  if name == "any" then some .anything
  else if name == "assigned" then some (.complement (.categories [.unassigned]))
  else if name == "ascii" then some (.range (Char.ofNat 0) (Char.ofNat 0x7F))
  else (categoryNames.find? fun entry => entry.1.contains name).map fun entry =>
    .categories entry.2

/-- The names of the properties with values. -/
def valuedNames : List String :=
  ["gc", "generalcategory", "sc", "script", "scx", "scriptextensions", "age", "blk", "block", "bc",
    "bidiclass", "ccc", "canonicalcombiningclass", "cf", "casefolding", "lc", "lowercasemapping",
    "dt", "decompositiontype", "ea", "eastasianwidth", "gcb", "graphemeclusterbreak", "jt",
    "joiningtype", "lb", "linebreak", "na", "name", "nt", "numerictype", "nv", "numericvalue",
    "sb", "sentencebreak", "wb", "wordbreak"]

/-- The class that one name stands for: a property, a general category or a writing system.  Three
short names of properties with values stand for general categories. -/
def classOfName? (name : List Char) : Option CharClass :=
  let loose := looseName name
  match if ["cf", "sc", "lc"].contains loose then none else Property.ofName? loose with
  | some property => some (.property property)
  | none =>
    if valuedNames.contains loose && !List.contains ["cf", "sc", "lc"] loose then none
    else
      match categoryClass? loose with
      | some members => some members
      | none => (WritingSystem.ofName? loose).map .writing

/-- The class of the characters for which a property has a value. -/
def classOfValue? (name value : List Char) : Option CharClass :=
  match looseName name with
  | "gc" | "generalcategory" => categoryClass? (looseName value)
  | "sc" | "script" => (WritingSystem.ofName? (looseName value)).map .writing
  | "scx" | "scriptextensions" => (WritingSystem.ofName? (looseName value)).map .usedIn
  | _ => none

/-- The classes of ASCII characters that have a name. -/
def asciiClass? : String → Option CharClass
  | "alnum" => some (.ofRanges [('0', '9'), ('A', 'Z'), ('a', 'z')])
  | "alpha" => some (.ofRanges [('A', 'Z'), ('a', 'z')])
  | "ascii" => some (.range (Char.ofNat 0) (Char.ofNat 0x7F))
  | "blank" => some (.ofList ['\t', ' '])
  | "cntrl" => some (.ofRanges [(Char.ofNat 0, Char.ofNat 0x1F), (Char.ofNat 0x7F, Char.ofNat 0x7F)])
  | "digit" => some (.range '0' '9')
  | "graph" => some (.range '!' '~')
  | "lower" => some (.range 'a' 'z')
  | "print" => some (.range ' ' '~')
  | "punct" => some (.ofRanges [('!', '/'), (':', '@'), ('[', Char.ofNat 0x60), ('\x7b', '~')])
  | "space" => some (.ofList ['\t', '\n', '\x0b', '\x0c', '\r', ' '])
  | "upper" => some (.range 'A' 'Z')
  | "word" => some (.ofRanges [('0', '9'), ('A', 'Z'), ('_', '_'), ('a', 'z')])
  | "xdigit" => some (.ofRanges [('0', '9'), ('A', 'F'), ('a', 'f')])
  | _ => none

/-! ## Escapes in the strict notation -/

/-- Why a text is no expression in the strict notation. -/
inductive Refusal where
  | malformed
  /-- The text has a part that only the wide notation has. -/
  | onlyWide
  /-- The text has an escape for a control character, which the strict notation lacks; so many
  characters, the letter first, stand behind it. -/
  | controlEscape (left : Nat)
  deriving DecidableEq, Repr

/-- The classes of characters that have a letter of their own. -/
inductive Shorthand where
  | digit
  | blank
  | word
  deriving DecidableEq, Repr

/-- The characters of a shorthand class. -/
def Shorthand.members : Shorthand → CharClass
  | digit => .digits
  | blank => .blanks
  | word => .wordCharacters

/-- What an escape stands for. -/
inductive Escape where
  | character (c : Char)
  | bell
  | shorthand (kind : Shorthand) (negated : Bool)
  /-- A class by the name of a property, or by the name and value of one. -/
  | named (negated : Bool) (name : List Char) (value : Option (List Char))
  /-- A condition on a place. -/
  | place
  deriving DecidableEq, Repr

/-- The class that an escape stands for where it stands for one. -/
def Escape.class? : Escape → Option CharClass
  | character c => some (.single c)
  | bell => some (.single '\x07')
  | shorthand kind negated => some (kind.members.negateIf negated)
  | named negated name none => (classOfName? name).map (.negateIf negated)
  | named negated name (some value) => (classOfValue? name value).map (.negateIf negated)
  | place => none

/-- The value of a hexadecimal digit. -/
def hexDigit? (c : Char) : Option Nat :=
  if c.isDigit then some (c.toNat - '0'.toNat)
  else if 'a' ≤ c ∧ c ≤ 'f' then some (c.toNat - 'a'.toNat + 10)
  else if 'A' ≤ c ∧ c ≤ 'F' then some (c.toNat - 'A'.toNat + 10)
  else none

/-- The number that hexadecimal digits write. -/
def hexNumber? (digits : List Char) : Option Nat :=
  digits.foldl (fun value c => do return (← value) * 16 + (← hexDigit? c)) (some 0)

/-- The character with a code. -/
def charOfCode? (code : Nat) : Option Char :=
  if code < 0xD800 ∨ (0xDFFF < code ∧ code < 0x110000) then some (Char.ofNat code) else none

/-- Whether a character has a meaning of its own in expressions. -/
def isMeta (c : Char) : Bool :=
  "\\.+*?()|[]\x7b\x7d^$#&-~".toList.contains c

/-- Whether a backslash before a character takes away its meaning. -/
def isEscapable (c : Char) : Bool :=
  isMeta c || (c.toNat < 0x80 && !c.isAlphanum && c != '<' && c != '>')

/-- Reads a character by its code: so many hexadecimal digits, or any number of them in braces. -/
def readCode (count : Nat) (text : List Char) : Except Refusal (Escape × List Char) :=
  let (digits, rest) := match text with
    | '\x7b' :: inner =>
      (inner.takeWhile (· != '\x7d'), (inner.dropWhile (· != '\x7d')).drop 1)
    | _ => (text.take count, text.drop count)
  let complete := match text with
    | '\x7b' :: inner => inner.contains '\x7d' && !digits.isEmpty
    | _ => digits.length == count
  match if complete then (hexNumber? digits).bind charOfCode? else none with
  | some c => .ok (.character c, rest)
  | none => .error .malformed

/-- Splits a name of a class into the name of a property and a value: whether both are set against
each other, the name and the value. -/
def splitName (name : List Char) : Bool × List Char × Option (List Char) :=
  match (List.range name.length).find? fun i => name[i]? == some '!' && name[i + 1]? == some '=' with
  | some i => (true, name.take i, some (name.drop (i + 2)))
  | none =>
    let mark := if name.contains ':' then ':' else '='
    if name.contains mark then
      (false, name.takeWhile (· != mark), some ((name.dropWhile (· != mark)).drop 1))
    else (false, name, none)

/-- Reads the name of a class: one character, or a name in braces. -/
def readClassName (negated : Bool) : List Char → Except Refusal (Escape × List Char)
  | '\x7b' :: inner =>
    if inner.contains '\x7d' then
      let (against, name, value) := splitName (inner.takeWhile (· != '\x7d'))
      .ok (.named (negated != against) name value, (inner.dropWhile (· != '\x7d')).drop 1)
    else .error .malformed
  | '\\' :: _ | [] => .error .malformed
  | c :: rest => .ok (.named negated [c] none, rest)

/-- Reads what may follow the letter of a word's end: a kind of end in braces.  Braces that hold
something else belong to what follows. -/
def readWordEnd (text : List Char) : Except Refusal (List Char) :=
  let isNameChar (c : Char) := c.isAlpha || c == '-'
  match text with
  | '\x7b' :: [] => .error .malformed
  | '\x7b' :: c :: rest =>
    if isNameChar c then
      let name := String.ofList ((c :: rest).takeWhile isNameChar)
      match (c :: rest).dropWhile isNameChar with
      | '\x7d' :: behind =>
        if ["start", "end", "start-half", "end-half"].contains name then .ok behind
        else .error .malformed
      | _ => .error .malformed
    else .ok text
  | _ => .ok text

/-- Reads an escape; the text stands behind the backslash. -/
def readEscape : List Char → Except Refusal (Escape × List Char)
  | [] => .error .malformed
  | 'x' :: rest => readCode 2 rest
  | 'u' :: rest => readCode 4 rest
  | 'U' :: rest => readCode 8 rest
  | 'p' :: rest => readClassName false rest
  | 'P' :: rest => readClassName true rest
  | 'd' :: rest => .ok (.shorthand .digit false, rest)
  | 'D' :: rest => .ok (.shorthand .digit true, rest)
  | 's' :: rest => .ok (.shorthand .blank false, rest)
  | 'S' :: rest => .ok (.shorthand .blank true, rest)
  | 'w' :: rest => .ok (.shorthand .word false, rest)
  | 'W' :: rest => .ok (.shorthand .word true, rest)
  | 'a' :: rest => .ok (.bell, rest)
  | 'f' :: rest => .ok (.character '\x0c', rest)
  | 't' :: rest => .ok (.character '\t', rest)
  | 'n' :: rest => .ok (.character '\n', rest)
  | 'r' :: rest => .ok (.character '\r', rest)
  | 'v' :: rest => .ok (.character '\x0b', rest)
  | 'A' :: rest | 'z' :: rest | 'B' :: rest | '<' :: rest | '>' :: rest => .ok (.place, rest)
  | 'b' :: rest => (readWordEnd rest).map fun behind => (.place, behind)
  | 'c' :: letter :: rest =>
    if letter.isAlpha then .error (.controlEscape (letter :: rest).length) else .error .malformed
  | c :: rest =>
    if c.isDigit then .error .onlyWide
    else if isEscapable c then .ok (.character c, rest)
    else .error .malformed

end PromptScript.Expression
