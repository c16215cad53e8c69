import PromptScript.Pattern.Regular

/-!
# Reading regular expressions

Several notations share one reader.  In the basic one the marks of groups, bounds and choices are
written with a backslash; in the extended one they stand alone.  In the notation of record programs
backslashes count in brackets as well, and there are no references to groups.
-/

namespace PromptScript.Pattern.Regular

/-- A way to write regular expressions. -/
structure Notation where
  /-- Whether marks stand alone, without a backslash. -/
  isExtended : Bool
  /-- Whether marks that have nothing to act on are no mistakes. -/
  isLenient : Bool
  /-- Whether the expression belongs to a record program. -/
  isRecord : Bool := false
  deriving DecidableEq, Repr

/-- The basic notation of editing scripts. -/
def Notation.basic : Notation := ⟨false, false, false⟩

/-- The extended notation of editing scripts. -/
def Notation.extended : Notation := ⟨true, false, false⟩

/-- The notation of searches. -/
def Notation.ofSearch (isExtended : Bool) : Notation := ⟨isExtended, true, false⟩

/-- The notation of record programs. -/
def Notation.record : Notation := ⟨true, true, true⟩

/-- Why a text is no regular expression. -/
inductive Fault where
  | trailingBackslash
  | unclosedBracket
  | emptyBracket
  | misplacedClass
  | unclosedGroup
  | unopenedGroup
  | unclosedBound
  | badBound
  | badRange
  | badClass
  | badCollation
  | badReference
  | nothingToRepeat
  | repeatedStart
  | tooBig
  deriving DecidableEq, Repr

/-- The wording of a fault. -/
def Fault.message : Fault → String
  | trailingBackslash => "Trailing backslash"
  | unclosedBracket => "Unmatched [, [^, [:, [., or [="
  | emptyBracket => "Invalid regular expression"
  | misplacedClass => "character class syntax is [[:space:]], not [:space:]"
  | unclosedGroup => "Unmatched ( or \\("
  | unopenedGroup => "Unmatched ) or \\)"
  | unclosedBound => "Unmatched \\\x7b"
  | badBound => "Invalid content of \\\x7b\\\x7d"
  | badRange => "Invalid range end"
  | badClass => "Invalid character class name"
  | badCollation => "Invalid collation character"
  | badReference => "Invalid back reference"
  | nothingToRepeat | repeatedStart => "Invalid preceding regular expression"
  | tooBig => "Regular expression too big"

/-- What is left to read. -/
structure Input where
  rest : List Char
  /-- The number of the next group. -/
  nextGroup : Nat := 1
  /-- The groups that are closed. -/
  closed : List Nat := []
  /-- The number of groups that are open. -/
  depth : Nat := 0

/-- A step of reading. -/
abbrev Step (α : Type) := StateT Input (Except Fault) α

/-- Takes the given number of characters. -/
def skip (count : Nat) : Step Unit :=
  modify fun input => { input with rest := input.rest.drop count }

/-- The mark of an expression, which one character or an escape writes. -/
inductive Mark where
  | open | close | bar | star | plus | optional | bound | caret | dollar | dot | bracket
  | escape (c : Char)
  | plain (c : Char)
  deriving DecidableEq

/-- The mark at the beginning of a text, and its length. -/
def mark? (shape : Notation) (text : List Char) : Option (Mark × Nat) :=
  let isBasic := !shape.isExtended
  match text with
  | [] => none
  | '\\' :: c :: _ =>
    if isBasic then
      some (match c with
        | '(' => .open
        | ')' => .close
        | '|' => .bar
        | '+' => .plus
        | '?' => .optional
        | '\x7b' => .bound
        | _ => .escape c, 2)
    else some (.escape c, 2)
  | c :: _ =>
    let mark : Mark := match c with
      | '*' => .star
      | '^' => .caret
      | '$' => .dollar
      | '.' => .dot
      | '[' => .bracket
      | '(' => if isBasic then .plain c else .open
      | ')' => if isBasic then .plain c else .close
      | '|' => if isBasic then .plain c else .bar
      | '+' => if isBasic then .plain c else .plus
      | '?' => if isBasic then .plain c else .optional
      | '\x7b' => if isBasic then .plain c else .bound
      | _ => .plain c
    some (mark, 1)

/-- The character that a letter behind a backslash stands for in record programs. -/
def recordEscape? (c : Char) : Option Char :=
  match c with
  | 'n' => some '\n'
  | 't' => some '\t'
  | 'r' => some '\r'
  | 'a' => some '\x07'
  | 'b' => some '\x08'
  | 'f' => some '\x0c'
  | 'v' => some '\x0b'
  | _ => none

/-- The octal digits at the beginning of a text, at most three. -/
def octalDigits (text : List Char) : List Char :=
  (text.take 3).takeWhile fun c => '0' ≤ c && c ≤ '7'

/-- The character that octal digits write. -/
def octalChar (digits : List Char) : Char :=
  Char.ofNat (digits.foldl (fun code c => code * 8 + (c.toNat - 48)) 0 % 256)

/-- A member of a class. -/
inductive Member where
  | char (c : Char)
  /-- A character that cannot begin or end a range. -/
  | alone (c : Char)
  | set (set : CharSet)

/-- What stands before a mark and a closing bracket, and what follows them. -/
def upToMark? (mark : Char) (text : List Char) : Option (List Char × List Char) :=
  match text with
  | [] => none
  | c :: rest =>
    if c == mark && rest.head? == some ']' then some ([], rest.drop 1)
    else (upToMark? mark rest).map fun (name, after) => (c :: name, after)

/-- A member of a class, and what follows it. -/
def classMember (shape : Notation) (text : List Char) : Except Fault (Member × List Char) :=
  match text with
  | [] => .error .unclosedBracket
  | '[' :: ':' :: rest =>
    match upToMark? ':' rest with
    | some (name, after) =>
      match CharSet.named? (String.ofList name) with
      | some set => .ok (.set set, after)
      | none => .error .badClass
    | none => if shape.isRecord then .ok (.char '[', ':' :: rest) else .error .unclosedBracket
  | '[' :: '.' :: rest =>
    if shape.isRecord then .ok (.char '[', '.' :: rest)
    else match upToMark? '.' rest with
    | some ([c], after) => .ok (.char c, after)
    | some _ => .error .badCollation
    | none => .error .unclosedBracket
  | '[' :: '=' :: rest =>
    if shape.isRecord then .ok (.char '[', '=' :: rest)
    else match upToMark? '=' rest with
    | some ([c], after) => .ok (.alone c, after)
    | some _ => .error .badCollation
    | none => .error .unclosedBracket
  | '\\' :: c :: rest =>
    if !shape.isRecord then .ok (.char '\\', c :: rest)
    else
      let digits := octalDigits (c :: rest)
      if !digits.isEmpty then .ok (.char (octalChar digits), (c :: rest).drop digits.length)
      else .ok (.char ((recordEscape? c).getD c), rest)
  | c :: rest => .ok (.char c, rest)

/-- The ranges of a class up to its closing bracket, which is a member where it comes first. -/
def classRanges (shape : Notation) : Nat → (isFirst : Bool) → List Char →
    Except Fault (List (Char × Char) × List Char)
  | 0, _, _ => .error .unclosedBracket
  | fuel + 1, isFirst, text =>
    let further (ranges : List (Char × Char)) (rest : List Char) :
        Except Fault (List (Char × Char) × List Char) := do
      let (others, after) ← classRanges shape fuel false rest
      return (ranges ++ others, after)
    match text, isFirst with
    | [], _ => .error .unclosedBracket
    | ']' :: rest, false => .ok ([], rest)
    | _, _ => do
      if !isFirst && !shape.isRecord && text.head? == some '-' && text.length ≠ 1
          && text[1]? != some ']' then
        throw .badRange
      let (low, rest) ← classMember shape text
      let isRange := rest.head? == some '-' && rest[1]? != some ']' && 1 < rest.length
      match low with
      | .set set => if isRange then throw .badRange else further set.ranges rest
      | .alone c => if isRange then throw .badRange else further [(c, c)] rest
      | .char low =>
        if !isRange then
          if rest == ['-'] then throw .unclosedBracket
          further [(low, low)] rest
        else
          match ← classMember shape (rest.drop 1) with
          | (.char high, later) =>
            if high < low && !shape.isRecord then throw .badRange
            further [(low, high)] later
          | _ => throw .badRange

/-- Whether the inner text of a class looks like the name of one. -/
def looksNamed (text : List Char) : Bool :=
  text.head? == some ':' && text.getLast? == some ':' && text.any (· != ':')
    && !text.any fun c => c == '[' || c == '-'

/-- The class behind an opening bracket. -/
def readClass (shape : Notation) : Step CharSet := do
  let text := (← get).rest
  let negated := text.head? == some '^'
  let members := if negated then text.drop 1 else text
  if members.isEmpty then throw .emptyBracket
  let (ranges, rest) ← classRanges shape (members.length + 1) true members
  if !shape.isRecord && looksNamed (members.take (members.length - rest.length - 1)) then
    throw .misplacedClass
  modify fun input => { input with rest }
  return ⟨ranges, negated⟩

/-- The greatest bound. -/
def maxBound : Nat := 32767

/-- A number among the marks of a bound: none where no digit stands there. -/
def number? (text : List Char) : Option Nat × List Char :=
  let digits := text.takeWhile Char.isDigit
  (if digits.isEmpty then none else (String.ofList digits).toNat?, text.drop digits.length)

/-- The bounds behind their opening mark: none where what stands there means itself. -/
def bounds? (shape : Notation) (text : List Char) :
    Except Fault (Option (Nat × Option Nat × List Char)) :=
  let close : List Char := if shape.isExtended then ['\x7d'] else ['\\', '\x7d']
  let closes (text : List Char) : Bool := close.isPrefixOf text
  let (least?, rest) := number? text
  let isRanged := rest.head? == some ','
  let (most?, after) := if isRanged then number? (rest.drop 1) else (least?, rest)
  if least?.isNone && !isRanged && closes rest then .error .badBound
  else if closes after && (least?.isSome || isRanged) then
    let least := least?.getD 0
    if most?.any (· < least) then .error .badBound
    else if maxBound < most?.getD least then .error .tooBig
    else .ok (some (least, most?, after.drop close.length))
  else if shape.isLenient && shape.isExtended then .ok none
  else if (List.range text.length).any fun place => closes (text.drop place) then .error .badBound
  else .error .unclosedBound

/-- Puts the repetitions behind an expression around it. -/
def readRepetitions (shape : Notation) : Nat → (isRepeated : Bool) → Regular → Step Regular
  | 0, _, body => return body
  | fuel + 1, isRepeated, body => do
    let isStrict := isRepeated && !shape.isExtended && !shape.isLenient
    match mark? shape (← get).rest with
    | some (.star, length) =>
      if isStrict then throw .nothingToRepeat
      skip length
      readRepetitions shape fuel true (.times 0 none body)
    | some (.plus, length) =>
      skip length
      readRepetitions shape fuel true (.times 1 none body)
    | some (.optional, length) =>
      skip length
      readRepetitions shape fuel true (.times 0 (some 1) body)
    | some (.bound, length) =>
      if isStrict then throw .nothingToRepeat
      match ← bounds? shape ((← get).rest.drop length) with
      | none => return body
      | some (least, most, rest) =>
        modify fun input => { input with rest }
        readRepetitions shape fuel true (.times least most body)
    | _ => return body

/-- The expression of an escaped character. -/
def readEscape (shape : Notation) (c : Char) : Step Regular := do
  let itself : Regular := .one (.ofList [c])
  if shape.isRecord then
    let digits := octalDigits (c :: (← get).rest)
    if !digits.isEmpty then
      skip (digits.length - 1)
      return .one (.ofList [octalChar digits])
    return match recordEscape? c with
      | some char => .one (.ofList [char])
      | none => itself
  else
    match c with
    | 'w' => return .one .wordChars
    | 'W' => return .one CharSet.wordChars.complement
    | 's' => return .one .spaces
    | 'S' => return .one CharSet.spaces.complement
    | 'b' => return .edge .wordEdge
    | 'B' => return .edge .noWordEdge
    | '<' => return .edge .wordStart
    | '>' => return .edge .wordFinish
    | '\x60' => return .edge .textStart
    | '\'' => return .edge .textFinish
    | 'n' => return .one (.ofList ['\n'])
    | _ =>
      if '1' ≤ c && c ≤ '9' then
        let index := c.toNat - 48
        if (← get).closed.contains index then return .again index else throw .badReference
      else return itself

/-- Refuses an empty sequence, which record programs do not have; `isLast` says whether the end of
the text is one. -/
def demandOperand (shape : Notation) (isLast : Bool) : Step Unit := do
  if shape.isRecord then
    match mark? shape (← get).rest with
    | none => if isLast then throw .nothingToRepeat
    | some (.bar, _) => throw .nothingToRepeat
    | some (.close, _) => if (← get).depth ≠ 0 then throw .nothingToRepeat
    | _ => return

/-- The edge at the start of a line in a record program, which can only be optional. -/
def readRecordStart (body : Regular) (shape : Notation) : Step Regular := do
  match mark? shape (← get).rest with
  | some (.star, _) | some (.plus, _) => throw .repeatedStart
  | some (.optional, length) =>
    skip length
    return .times 0 (some 1) body
  | _ => return body

/-- A place in a sequence: its start, behind an anchor at the start, or further on. -/
inductive Place where
  | start
  | anchored
  | inside
  deriving DecidableEq

mutual

/-- A choice between sequences. -/
def readChoice (shape : Notation) : Nat → Step Regular
  | 0 => return .empty
  | fuel + 1 => do
    let left ← readSequence shape fuel .start
    match mark? shape (← get).rest with
    | some (.bar, length) =>
      skip length
      demandOperand shape true
      return .choice left (← readChoice shape fuel)
    | _ => return left

/-- A sequence of repeated expressions. -/
def readSequence (shape : Notation) : Nat → Place → Step Regular
  | 0, _ => return .empty
  | fuel + 1, place => do
    match mark? shape (← get).rest with
    | none => return .empty
    | some (.bar, _) => return .empty
    | some (mark, length) =>
      let isClose := mark == .close
      if isClose && (← get).depth ≠ 0 then return .empty
      if isClose && !(shape.isExtended && shape.isLenient) then throw .unopenedGroup
      let rest := (← get).rest.drop length
      skip length
      let isAnchor := mark == .caret && (place == .start || (shape.isExtended && place == .anchored))
      let body ← readAtom shape fuel place mark rest
      let body ← if shape.isRecord && mark == .caret then readRecordStart body shape
        else if isAnchor then pure body
        else readRepetitions shape ((← get).rest.length + 1) false body
      return .sequence body (← readSequence shape fuel (if isAnchor then .anchored else .inside))

/-- One expression without repetitions, behind its first mark. -/
def readAtom (shape : Notation) : Nat → Place → Mark → List Char → Step Regular
  | 0, _, _, _ => return .empty
  | fuel + 1, place, mark, rest => do
    let itself (c : Char) : Regular := .one (.ofList [c])
    let stray (c : Char) : Step Regular :=
      if !shape.isExtended || place == .inside then return itself c
      else if shape.isLenient && !shape.isRecord then return .empty
      else throw .nothingToRepeat
    match mark with
    | .open =>
      let index := (← get).nextGroup
      modify fun input => { input with nextGroup := index + 1, depth := input.depth + 1 }
      demandOperand shape false
      let body ← readChoice shape fuel
      match mark? shape (← get).rest with
      | some (.close, length) =>
        skip length
        modify fun input =>
          { input with closed := index :: input.closed, depth := input.depth - 1 }
        return .group index body
      | _ => throw .unclosedGroup
    | .bracket => return .one (← readClass shape)
    | .dot => return .one .all
    | .caret =>
      if !shape.isExtended && place != .start then return itself '^' else return .edge .lineStart
    | .dollar =>
      let ends := match mark? shape rest with
        | none => true
        | some (.close, _) | some (.bar, _) => true
        | _ => false
      if !shape.isExtended && !ends then return itself '$' else return .edge .lineFinish
    | .escape c => readEscape shape c
    | .star => stray '*'
    | .plus => stray '+'
    | .optional => stray '?'
    | .bound =>
      if shape.isLenient then
        match ← bounds? shape rest with
        | some (_, _, rest) =>
          if !shape.isExtended || place == .inside then return itself '\x7b'
          modify fun input => { input with rest }
          return .empty
        | none => return itself '\x7b'
      else throw .nothingToRepeat
    | .plain '\\' => throw .trailingBackslash
    | .plain c => return itself c
    | .close => return itself ')'
    | .bar => return .empty

end

/-- Reads a regular expression. -/
def read (shape : Notation) (text : List Char) : Except Fault Regular :=
  let step : Step Regular := do
    demandOperand shape false
    readChoice shape (4 * text.length + 8)
  (step.run { rest := text }).map (·.1)

end PromptScript.Pattern.Regular
