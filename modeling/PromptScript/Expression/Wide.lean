import PromptScript.Expression.Strict
import PromptScript.Expression.Tree
import PromptScript.Text.Basic

/-!
# The wide notation

The reader of expressions in the wide notation, which has look-around, references back to groups,
and repetitions and groups that keep their first match.  A brace that begins no repetition stands
for itself.
-/

namespace PromptScript.Expression

/-- The flags of the notation. -/
structure Flags where
  ignoreCase : Bool
  multiLine : Bool
  dotMatchesAll : Bool
  lazyFirst : Bool
  verbose : Bool

/-- How far the reading of a text has come. -/
structure WideState where
  text : List Char
  flags : Flags
  /-- The number of groups so far. -/
  groups : Nat
  /-- The names of groups with their numbers, the last first. -/
  names : List (List Char × Nat)
  /-- The groups that are referred to. -/
  referred : List Nat
  /-- Whether a group was referred to by its number. -/
  numbered : Bool

/-- A step of the reader; none where the text is no expression. -/
abbrev WideReader := StateT WideState Option

namespace WideReader

/-- The unread text. -/
def unread : WideReader (List Char) := do
  return (← get).text

/-- Goes on with the given text. -/
def goOn (text : List Char) : WideReader Unit :=
  modify fun state => { state with text }

/-- The greatest number of groups inside one another. -/
def maxNesting : Nat := 63

/-- The text behind a remark in parentheses; the text stands inside it. -/
def dropRemark? : List Char → Option (List Char)
  | [] => none
  | ')' :: rest => some rest
  | '\\' :: _ :: rest => dropRemark? rest
  | '\\' :: [] => none
  | _ :: rest => dropRemark? rest

/-- The text behind the blanks and remarks that begin it.  The fuel bounds their number. -/
def dropBlanks? (verbose : Bool) : Nat → List Char → Option (List Char)
  | 0, text => some text
  | fuel + 1, text =>
    match text with
    | '(' :: '?' :: '#' :: rest => (dropRemark? rest).bind (dropBlanks? verbose fuel)
    | '#' :: rest =>
      if verbose then dropBlanks? verbose fuel ((rest.dropWhile (· != '\n')).drop 1)
      else some text
    | c :: rest =>
      if verbose && [' ', '\r', '\n', '\t'].contains c then dropBlanks? verbose fuel rest
      else some text
    | [] => some []

/-- Passes over blanks and remarks. -/
def skipBlanks : WideReader Unit := do
  let state ← get
  goOn (← dropBlanks? state.flags.verbose (state.text.length + 1) state.text)

/-- The number that begins a text. -/
def readDecimal? (text : List Char) : Option (Nat × List Char) :=
  let digits := text.takeWhile Char.isDigit
  if digits.isEmpty then none
  else some (digits.foldl (fun value d => value * 10 + (d.toNat - '0'.toNat)) 0,
    text.dropWhile Char.isDigit)

/-- Reads the bounds of a repetition; the text stands behind the opening brace. -/
def readBounds? (verbose : Bool) (text : List Char) : Option (Nat × Option Nat × List Char) := do
  let skip (text : List Char) := dropBlanks? verbose (text.length + 1) text
  let text ← skip text
  let (least, text) ← match text with
    | ',' :: _ => some (0, text)
    | _ => readDecimal? text
  let (most, text) ← match ← skip text with
    | '\x7d' :: rest => some (some least, '\x7d' :: rest)
    | ',' :: rest => do
      let text ← skip rest
      match readDecimal? text with
      | some (most, rest) => some (some most, ← skip rest)
      | none => some (none, ← skip text)
    | _ => none
  match text with
  | '\x7d' :: rest => some (least, most, rest)
  | _ => none

/-- Reads a character by its code: so many hexadecimal digits, or one to eight in braces. -/
def readHex? (count : Nat) (text : List Char) : Option (Char × List Char) :=
  let plain := text.take count
  if plain.length == count && plain.all fun c => (hexDigit? c).isSome then do
    some (← (hexNumber? plain).bind charOfCode?, text.drop count)
  else
    match text with
    | '\x7b' :: inner =>
      let digits := inner.takeWhile fun c => (hexDigit? c).isSome
      match inner.dropWhile fun c => (hexDigit? c).isSome with
      | '\x7d' :: rest =>
        if digits.isEmpty || 8 < digits.length then none
        else do some (← (hexNumber? digits).bind charOfCode?, rest)
      | _ => none
    | _ => none

/-- What an escape outside or inside a class is. -/
inductive Piece where
  | tree (tree : Tree)
  /-- One character. -/
  | character (c : Char)
  /-- A class in the strict notation. -/
  | written (text : List Char)

/-- Reads the name or number between two marks. -/
def readGroupLabel? (open' close : List Char) (text : List Char) :
    Option (List Char × List Char) :=
  if text.take open'.length = open' then
    let inner := text.drop open'.length
    let label := inner.takeWhile fun c => isAlphanumeric c || c == '_'
    let rest := inner.dropWhile fun c => isAlphanumeric c || c == '_'
    if label.isEmpty || rest.take close.length ≠ close then none
    else some (label, rest.drop close.length)
  else none

/-- A reference back to a group; there must be a group of the number so far. -/
def refer (index : Nat) : WideReader Tree := do
  let state ← get
  if index ≤ state.groups then
    set { state with referred := index :: state.referred }
    return .back index
  else failure

/-- Reads a reference by name, by number, or by a number that counts backwards. -/
def readReference (open' close : List Char) : WideReader Tree := do
  let state ← get
  match readGroupLabel? open' close state.text with
  | some (label, rest) =>
    goOn rest
    match state.names.lookup label with
    | some index => refer index
    | none => if label.all Char.isDigit then refer (← (readDecimal? label).map (·.1)) else failure
  | none =>
    match readGroupLabel? (open' ++ ['-']) close state.text with
    | some (label, rest) =>
      goOn rest
      let back ← (readDecimal? label).map (·.1)
      if label.all Char.isDigit && 0 < back && back ≤ state.groups then
        refer (state.groups + 1 - back)
      else failure
    | none => failure

/-- Reads a reference by number.  The number must be less than half the length of the whole text,
which is `size` bytes long. -/
def readNumbered (size : Nat) : WideReader Tree := do
  match readDecimal? (← unread) with
  | some (index, rest) =>
    if index < size / 2 then
      goOn rest
      modify fun state => { state with numbered := true }
      refer index
    else failure
  | none => failure

/-- The condition that the letter of an escape stands for. -/
def conditionOf? : Char → Option Condition
  | 'A' => some .textStart
  | 'z' => some .textEnd
  | 'b' => some (.wordBoundary true)
  | 'B' => some (.wordBoundary false)
  | '<' => some .wordStart
  | '>' => some .wordEnd
  | _ => none

/-- The expression that the letter of an escape stands for, apart from conditions: the place where
the search began, a place that is the end but for line ends, and a mark that changes nothing. -/
def specialOf? : Char → Option Tree
  | 'K' => some (.atomic .empty)
  | 'G' => some (.atomic (.place .textStart))
  | 'Z' => some (.ahead true
      (.sequence [.times 0 none true (.one (.single '\n')), .place .textEnd]))
  | _ => none

/-- The number of digits of a code behind a letter. -/
def codeLength? : Char → Option Nat
  | 'x' => some 2
  | 'u' => some 4
  | 'U' => some 8
  | _ => none

/-- The class, in the strict notation, that the letter of an escape stands for. -/
def classText? (c : Char) : Option (List Char) :=
  if c = 'h' then some "[0-9A-Fa-f]".toList
  else if c = 'H' then some "[^0-9A-Fa-f]".toList
  else if "dDsSwWafnrtv".toList.contains c then some ['\\', c]
  else none

/-- Reads the name of a class; the text stands behind the letter. -/
def readNamed? (letter : Char) : List Char → Option (Piece × List Char)
  | [] => none
  | '\x7b' :: inner =>
    if inner.contains '\x7d' then
      some (.written ('\\' :: letter :: '\x7b' :: inner.takeWhile (· != '\x7d') ++ ['\x7d']),
        (inner.dropWhile (· != '\x7d')).drop 1)
    else none
  | name :: rest => some (.written ['\\', letter, name], rest)

/-- Reads an escape other than a reference: its letter, and the text behind it. -/
def readSimple? (inClass : Bool) (letter : Char) (rest : List Char) :
    Option (Piece × List Char) :=
  match if inClass then none else conditionOf? letter with
  | some (.wordBoundary wanted) =>
    if rest.head? = some '\x7b' then none else some (.tree (.place (.wordBoundary wanted)), rest)
  | some condition => some (.tree (.place condition), rest)
  | none =>
    match if inClass then none else specialOf? letter with
    | some tree => some (.tree tree, rest)
    | none =>
      match codeLength? letter with
      | some count => (readHex? count rest).map fun (c, behind) => (.character c, behind)
      | none =>
        match classText? letter with
        | some text => some (.written text, rest)
        | none =>
          if letter = 'p' ∨ letter = 'P' then readNamed? letter rest
          else if letter = 'e' then some (.character '\x1b', rest)
          else if letter.isAlpha || letter.toNat < 0x20 || 0x7F < letter.toNat then none
          else some (.character letter, rest)

/-- Reads an escape; the text stands behind the backslash. -/
def readEscape (size : Nat) (inClass : Bool) : WideReader Piece := do
  match ← unread with
  | [] => failure
  | letter :: rest =>
    if letter.isDigit then return .tree (← readNumbered size)
    else if letter = 'k' ∧ inClass = false then
      goOn rest
      if rest.head? = some '\'' then return .tree (← readReference ['\''] ['\''])
      else return .tree (← readReference ['<'] ['>'])
    else
      match readSimple? inClass letter rest with
      | some (piece, behind) =>
        goOn behind
        return piece
      | none => failure

/-- The class that a text in the strict notation writes: an escape, or a class in brackets. -/
def classOfText? (ignoreCase : Bool) : List Char → Option CharClass
  | '[' :: text =>
    match readBracket ⟨false, ignoreCase⟩ (text.length + 1) text with
    | .ok (some members, []) => some members
    | _ => none
  | '\\' :: text =>
    match Expression.readEscape text with
    | .ok (escape, []) =>
      match memberClass ⟨false, ignoreCase⟩ escape with
      | .ok members => members
      | .error _ => none
    | _ => none
  | _ => none

/-- The expression of a piece. -/
def treeOfPiece (ignoreCase : Bool) : Piece → Option Tree
  | .tree tree => some tree
  | .character c => some (.one ((CharClass.single c).foldIf ignoreCase))
  | .written text => (classOfText? ignoreCase text).map .one

/-- Reads the rest of a class in brackets, of which the given text, in reverse, stands in the strict
notation for what was read.  The fuel bounds the number of its parts. -/
def readClassText (size : Nat) : (fuel nesting : Nat) → List Char → WideReader (List Char)
  | 0, _, _ => failure
  | fuel + 1, nesting, read => do
    match ← unread with
    | [] => failure
    | '\\' :: rest =>
      goOn rest
      match ← readEscape size true with
      | .character c =>
        readClassText size fuel nesting (if isMeta c then c :: '\\' :: read else c :: read)
      | .written text => readClassText size fuel nesting (text.reverse ++ read)
      | .tree _ => failure
    | '[' :: rest =>
      goOn rest
      readClassText size fuel (nesting + 1) ('[' :: read)
    | ']' :: rest =>
      goOn rest
      match nesting with
      | 0 => return (']' :: read).reverse
      | outer + 1 => readClassText size fuel outer (']' :: read)
    | c :: rest =>
      goOn rest
      readClassText size fuel nesting (c :: read)

/-- Reads a class in brackets; the text stands behind its opening bracket. -/
def readClass (size : Nat) : WideReader Tree := do
  let (negated, text) := match ← unread with
    | '^' :: rest => (['^'], rest)
    | rest => ([], rest)
  let (first, text) := match text with
    | ']' :: rest => ([']'], rest)
    | rest => ([], rest)
  goOn text
  let written ← readClassText size (text.length + 1) 0 (first ++ negated ++ ['['])
  let members ← classOfText? (← get).flags.ignoreCase written
  return .one members

/-- The expression of several parts one after the other. -/
def joinParts : List Tree → Tree
  | [] => .empty
  | [part] => part
  | parts => .sequence parts

/-- Sets a flag, which is none of those that the notation has where the result is none. -/
def setFlag? (flags : Flags) (on : Bool) : Char → Option Flags
  | 'i' => some { flags with ignoreCase := on }
  | 'm' => some { flags with multiLine := on }
  | 's' => some { flags with dotMatchesAll := on }
  | 'U' => some { flags with lazyFirst := on }
  | 'x' => some { flags with verbose := on }
  | 'u' => if on then some flags else none
  | _ => none

/-- Reads flags up to the colon or parenthesis behind them, which is the result.  The fuel bounds
their number. -/
def readFlags : (fuel : Nat) → (first negated afterMinus : Bool) → WideReader Char
  | 0, _, _, _ => failure
  | fuel + 1, first, negated, afterMinus => do
    skipBlanks
    match ← unread with
    | [] => failure
    | c :: rest =>
      goOn rest
      match c with
      | '-' => if negated then failure else readFlags fuel false true first
      | ')' => if first || afterMinus then failure else return c
      | ':' => if afterMinus then failure else return c
      | _ =>
        let state ← get
        set { state with flags := ← setFlag? state.flags (!negated) c }
        readFlags fuel false negated false

/-- Reads the closing parenthesis of a group. -/
def readClose : WideReader Unit := do
  skipBlanks
  match ← unread with
  | ')' :: rest => goOn rest
  | _ => failure

/-- What kind of group begins. -/
inductive GroupKind where
  | numbered
  /-- A name between two marks follows. -/
  | named (open' close : List Char)
  | ahead (wanted : Bool)
  | behind (wanted : Bool)
  | atomic
  | reference
  | flagged
  deriving DecidableEq, Repr

/-- The kind of a group by the text behind its parenthesis, and what follows. -/
def groupKind : List Char → GroupKind × List Char
  | '?' :: '=' :: rest => (.ahead true, rest)
  | '?' :: '!' :: rest => (.ahead false, rest)
  | '?' :: '>' :: rest => (.atomic, rest)
  | '?' :: '\'' :: rest => (.named ['\''] ['\''], '\'' :: rest)
  | '?' :: '<' :: rest =>
    match rest with
    | '=' :: inner => (.behind true, inner)
    | '!' :: inner => (.behind false, inner)
    | _ => (.named ['<'] ['>'], '<' :: rest)
  | '?' :: 'P' :: '<' :: rest => (.named ['<'] ['>'], '<' :: rest)
  | '?' :: 'P' :: '=' :: rest => (.reference, rest)
  | '?' :: rest => (.flagged, rest)
  | rest => (.numbered, rest)

/-- Makes a new group. -/
def newGroup : WideReader Nat := do
  let state ← get
  set { state with groups := state.groups + 1 }
  return state.groups + 1

mutual

/-- Reads branches with bars between them.  References by number do not go together with names of
groups. -/
def readChoice (size : Nat) : (fuel nesting : Nat) → WideReader Tree
  | 0, _ => failure
  | fuel + 1, nesting => do
    let first ← readParts size fuel nesting []
    skipBlanks
    match ← unread with
    | '|' :: _ => return .choice (first :: (← readBranches size fuel nesting))
    | _ =>
      let state ← get
      if state.numbered && !state.names.isEmpty then failure
      return first

/-- Reads the branches that follow. -/
def readBranches (size : Nat) : (fuel nesting : Nat) → WideReader (List Tree)
  | 0, _ => failure
  | fuel + 1, nesting => do
    match ← unread with
    | '|' :: rest =>
      goOn rest
      let branch ← readParts size fuel nesting []
      skipBlanks
      return branch :: (← readBranches size fuel nesting)
    | _ => return []

/-- Reads parts one after the other, of which some were read, the last first. -/
def readParts (size : Nat) : (fuel nesting : Nat) → List Tree → WideReader Tree
  | 0, _, _ => failure
  | fuel + 1, nesting, parts => do
    let before ← unread
    if before.isEmpty then return joinParts parts.reverse
    let part ← readPart size fuel nesting
    if (← unread).length = before.length then return joinParts parts.reverse
    match part with
    | .empty => readParts size fuel nesting parts
    | part => readParts size fuel nesting (part :: parts)

/-- Reads a part and the repetition behind it. -/
def readPart (size : Nat) : (fuel nesting : Nat) → WideReader Tree
  | 0, _ => failure
  | fuel + 1, nesting => do
    let body ← readAtom size fuel nesting
    skipBlanks
    let state ← get
    let bounds : Option (Nat × Option Nat × List Char) := match state.text with
      | '?' :: rest => some (0, some 1, rest)
      | '*' :: rest => some (0, none, rest)
      | '+' :: rest => some (1, none, rest)
      | '\x7b' :: rest => readBounds? state.flags.verbose rest
      | _ => none
    match bounds with
    | none => return body
    | some (least, most, rest) =>
      if !body.isRepeatable then failure
      goOn rest
      skipBlanks
      let lazily ← match ← unread with
        | '?' :: rest => do
          goOn rest
          pure true
        | _ => pure false
      let repeated : Tree := .times least most (lazily == state.flags.lazyFirst) body
      match ← unread with
      | '+' :: rest =>
        goOn rest
        return .atomic repeated
      | _ => return repeated

/-- Reads what cannot be taken apart: a character, a class, a condition or a group. -/
def readAtom (size : Nat) : (fuel nesting : Nat) → WideReader Tree
  | 0, _ => failure
  | fuel + 1, nesting => do
    skipBlanks
    let state ← get
    let flags := state.flags
    match state.text with
    | [] | '+' :: _ | '*' :: _ | '?' :: _ | '|' :: _ | ')' :: _ => return .empty
    | '.' :: rest =>
      goOn rest
      return .one (if flags.dotMatchesAll then .anything else .complement (.single '\n'))
    | '^' :: rest =>
      goOn rest
      return .place (if flags.multiLine then .lineStart else .textStart)
    | '$' :: rest =>
      goOn rest
      return .place (if flags.multiLine then .lineEnd else .textEnd)
    | '(' :: rest =>
      goOn rest
      readGroup size fuel nesting
    | '[' :: rest =>
      goOn rest
      readClass size
    | '\\' :: rest =>
      goOn rest
      let piece ← readEscape size false
      let tree ← treeOfPiece flags.ignoreCase piece
      return tree
    | c :: rest =>
      goOn rest
      return .one ((CharClass.single c).foldIf flags.ignoreCase)

/-- Reads a group; the text stands behind its opening parenthesis. -/
def readGroup (size : Nat) : (fuel nesting : Nat) → WideReader Tree
  | 0, _ => failure
  | fuel + 1, outer => do
    let nesting := outer + 1
    if maxNesting < nesting then failure
    skipBlanks
    let (kind, rest) := groupKind (← unread)
    goOn rest
    match kind with
    | .numbered => do
      let index ← newGroup
      return .group index (← readBody size fuel nesting)
    | .named open' close => do
      let index ← newGroup
      let (name, behind) ← readGroupLabel? open' close rest
      modify fun state => { state with text := behind, names := (name, index) :: state.names }
      return .group index (← readBody size fuel nesting)
    | .ahead wanted => return .ahead wanted (← readBody size fuel nesting)
    | .behind wanted => return .behind wanted (← readBody size fuel nesting)
    | .atomic => return .atomic (← readBody size fuel nesting)
    | .reference => readReference [] [')']
    | .flagged => do
      let before := (← get).flags
      let mark ← readFlags (rest.length + 1) true false false
      if mark = ')' then return .empty
      let tree ← readChoice size fuel nesting
      match ← unread with
      | ')' :: behind =>
        modify fun state => { state with text := behind, flags := before }
        return tree
      | _ => failure

/-- Reads the body of a group and its closing parenthesis. -/
def readBody (size : Nat) : (fuel nesting : Nat) → WideReader Tree
  | 0, _ => failure
  | fuel + 1, nesting => do
    let tree ← readChoice size fuel nesting
    readClose
    return tree

end

end WideReader

/-- The expression that a text writes in the wide notation, the groups that it refers to, and the
number of its groups. -/
def readWide? (text : List Char) : Option (Tree × List Nat × Nat) :=
  let size := Text.byteLength text
  let start : WideState := ⟨text, ⟨false, false, false, false, false⟩, 0, [], [], false⟩
  match (WideReader.readChoice size (8 * text.length + 16) 0).run start with
  | some (tree, state) =>
    if state.text.isEmpty then some (tree, state.referred, state.groups) else none
  | none => none

end PromptScript.Expression
