import PromptScript.Text.Property
import PromptScript.Text.WritingSystem

/-!
# Expressions

The trees of expressions in the wide notation, with the classes of characters that stand in them:
sets built from ranges and properties of characters by the operations on sets and by disregard of
case.  The measures of a tree say how an expression has to be searched for: the least length of a
match, whether all matches have that length, and whether it takes trying one choice after the
other.
-/

namespace PromptScript.Expression

open Text (Category Property WritingSystem)

/-! ## Classes of characters -/

/-- A set of characters. -/
inductive CharClass where
  | nothing
  | anything
  | range (low high : Char)
  | categories (members : List Category)
  | property (property : Property)
  /-- The characters of a writing system. -/
  | writing (system : WritingSystem)
  /-- The characters that are used with a writing system. -/
  | usedIn (system : WritingSystem)
  | union (left right : CharClass)
  | intersection (left right : CharClass)
  | difference (left right : CharClass)
  /-- The characters of one class that do not belong to the other. -/
  | exclusive (left right : CharClass)
  | complement (members : CharClass)
  /-- The characters that differ from those of a class in case at most. -/
  | anyCase (members : CharClass)
  deriving DecidableEq, Repr

namespace CharClass

/-- Whether a character belongs to a class. -/
def contains : CharClass → Char → Bool
  | nothing, _ => false
  | anything, _ => true
  | range low high, c => low ≤ c && c ≤ high
  | categories members, c => members.contains (Text.categoryOf c)
  | property p, c => p.holds c
  | writing system, c => Text.writingOf c == system
  | usedIn system, c => Text.isUsedIn system c
  | union left right, c => left.contains c || right.contains c
  | intersection left right, c => left.contains c && right.contains c
  | difference left right, c => left.contains c && !right.contains c
  | exclusive left right, c => left.contains c != right.contains c
  | complement members, c => !members.contains c
  | anyCase members, c => members.contains c || (Text.caseVariants c).any members.contains

/-- The class of one character. -/
def single (c : Char) : CharClass :=
  range c c

/-- The class of the characters of a list. -/
def ofList (members : List Char) : CharClass :=
  members.foldl (fun others c => union others (single c)) nothing

/-- The class of some ranges. -/
def ofRanges (ranges : List (Char × Char)) : CharClass :=
  ranges.foldl (fun others (low, high) => union others (range low high)) nothing

/-- The class or, where `negated` holds, its complement. -/
def negateIf (negated : Bool) (members : CharClass) : CharClass :=
  if negated then complement members else members

/-- The class or, where `ignoreCase` holds, the class with regard to no case. -/
def foldIf (ignoreCase : Bool) (members : CharClass) : CharClass :=
  if ignoreCase then anyCase members else members

/-- The decimal digits of all writing systems. -/
def digits : CharClass :=
  categories [.decimalNumber]

/-- The blank characters. -/
def blanks : CharClass :=
  property .whiteSpace

/-- The characters of words. -/
def wordCharacters : CharClass :=
  union (property .alphabetic) <| union (property .joinControl) <|
    categories [.nonspacingMark, .spacingMark, .enclosingMark, .decimalNumber,
      .connectorPunctuation]

theorem contains_complement (members : CharClass) (c : Char) :
    (complement members).contains c = !members.contains c := rfl

theorem contains_single_self (c : Char) : (single c).contains c = true := by
  simp [single, contains]

end CharClass

/-- Whether a character belongs to a word. -/
def isWordCharacter (c : Char) : Bool :=
  CharClass.wordCharacters.contains c

/-! ## Trees -/

/-- A condition on a place between characters. -/
inductive Condition where
  | textStart
  | textEnd
  | lineStart
  | lineEnd
  | wordStart
  | wordEnd
  /-- Either end of a word, or neither. -/
  | wordBoundary (wanted : Bool)
  deriving DecidableEq, Repr

namespace Condition

/-- Whether a condition holds at a place of a text. -/
def holds (text : Array Char) (place : Nat) : Condition → Bool
  | textStart => place == 0
  | textEnd => place == text.size
  | lineStart => place == 0 || text[place - 1]? == some '\n'
  | lineEnd => place == text.size || text[place]? == some '\n'
  | wordStart => !wordBefore && wordAfter
  | wordEnd => wordBefore && !wordAfter
  | wordBoundary wanted => (wordBefore != wordAfter) == wanted
where
  wordBefore : Bool := place ≠ 0 && (text[place - 1]?).any isWordCharacter
  wordAfter : Bool := (text[place]?).any isWordCharacter

/-- Whether a condition asks for words. -/
def isOnWords : Condition → Bool
  | textStart | textEnd | lineStart | lineEnd => false
  | wordStart | wordEnd | wordBoundary _ => true

end Condition

/-- An expression. -/
inductive Tree where
  | empty
  | one (members : CharClass)
  | place (condition : Condition)
  | sequence (parts : List Tree)
  /-- The first of some branches that lets the rest match. -/
  | choice (branches : List Tree)
  | group (index : Nat) (body : Tree)
  /-- A place where a match of the body begins, or none does. -/
  | ahead (wanted : Bool) (body : Tree)
  /-- A place where a match of the body ends, or none does. -/
  | behind (wanted : Bool) (body : Tree)
  | times (least : Nat) (most : Option Nat) (greedy : Bool) (body : Tree)
  /-- The text that a group matched. -/
  | back (index : Nat)
  /-- A body whose first match is kept. -/
  | atomic (body : Tree)
  deriving Repr, Inhabited

/-- The lengths of the matches of an expression. -/
structure Extent where
  least : Nat
  /-- Whether no match is longer. -/
  exact : Bool
  deriving DecidableEq, Repr

namespace Tree

/-- Whether an expression may be repeated. -/
def isRepeatable : Tree → Bool
  | empty | place _ | ahead _ _ | behind _ _ => false
  | _ => true

mutual

/-- The lengths of the matches of an expression. -/
def extent : Tree → Extent
  | empty | place _ | ahead _ _ | behind _ _ => ⟨0, true⟩
  | one _ => ⟨1, true⟩
  | sequence parts => extentOfParts parts
  | choice [] => ⟨0, true⟩
  | choice (first :: others) => extentOfBranches (extent first) others
  | group _ body | atomic body => extent body
  | times least most _ body =>
    let inner := extent body
    ⟨inner.least * least, inner.exact && most == some least⟩
  | back _ => ⟨0, false⟩

/-- The lengths of the matches of expressions one after the other. -/
def extentOfParts : List Tree → Extent
  | [] => ⟨0, true⟩
  | first :: rest =>
    let left := extent first
    let right := extentOfParts rest
    ⟨left.least + right.least, left.exact && right.exact⟩

/-- The lengths of the matches of one of several expressions, of which some are known. -/
def extentOfBranches (known : Extent) : List Tree → Extent
  | [] => known
  | first :: rest =>
    let next := extent first
    extentOfBranches
      ⟨min known.least next.least, known.exact && next.exact && known.least == next.least⟩ rest

end

mutual

/-- Whether matching an expression takes trying one choice after the other.  A group that is
referred to takes it, too. -/
def isHard (referred : List Nat) : Tree → Bool
  | empty | one _ => false
  | place condition => condition.isOnWords
  | sequence parts => isAnyHard referred parts
  | choice branches => isAnyHard referred branches
  | group index body => isHard referred body || referred.contains index
  | times _ _ _ body => isHard referred body
  | ahead _ _ | behind _ _ | back _ | atomic _ => true

/-- Whether some expression is hard. -/
def isAnyHard (referred : List Nat) : List Tree → Bool
  | [] => false
  | first :: rest => isHard referred first || isAnyHard referred rest

end

end Tree

end PromptScript.Expression
