import PromptScript.Expression.Escape

/-!
# The strict notation

The notation that expressions have to have, and its classes in brackets.
-/

namespace PromptScript.Expression

/-!
## Classes in brackets

The reader of classes in brackets: single characters, ranges, escapes, named classes of ASCII and
further classes in brackets, joined by the operations on sets.  Where the notation is verbose,
blanks and comments between the parts do not count.
-/

/-- The text behind the blanks and comments that begin it.  The fuel bounds their number. -/
def dropRemarks : Nat → List Char → List Char
  | 0, text => text
  | fuel + 1, c :: rest =>
    if Text.isBlank c then dropRemarks fuel rest
    else if c = '#' then dropRemarks fuel ((rest.dropWhile (· != '\n')).drop 1)
    else c :: rest
  | _, [] => []

/-- The text from its next part on. -/
def nextPart (verbose : Bool) (text : List Char) : List Char :=
  if verbose then dropRemarks text.length text else text

/-- An operation on two classes. -/
inductive ClassOperation where
  | intersection
  | difference
  | exclusive
  deriving DecidableEq, Repr

/-- How classes are read. -/
structure ClassStyle where
  verbose : Bool
  ignoreCase : Bool

/-- The class read so far with the operation that waits for its right side. -/
abbrev Pending := Option (ClassOperation × Option CharClass)

/-- Joins the left side that waits with its right side.  Each side disregards case by itself. -/
def joinPending (style : ClassStyle) (pending : Pending) (right : Option CharClass) :
    Option CharClass :=
  match pending with
  | none => right
  | some (operation, left) => do
    let left := (← left).foldIf style.ignoreCase
    let right := (← right).foldIf style.ignoreCase
    return match operation with
      | .intersection => .intersection left right
      | .difference => .difference left right
      | .exclusive => .exclusive left right

/-- Both classes, where both are known. -/
def joinKnown (left right : Option CharClass) : Option CharClass := do
  return .union (← left) (← right)

/-- Reads a named class of ASCII; the text stands behind its opening bracket. -/
def readAsciiClass? (style : ClassStyle) : List Char → Option (CharClass × List Char)
  | ':' :: text =>
    let (negated, named) := match text with
      | '^' :: rest => (true, rest)
      | rest => (false, rest)
    let name := named.takeWhile (· != ':')
    match named.dropWhile (· != ':') with
    | ':' :: ']' :: rest =>
      (asciiClass? (String.ofList name)).map fun members =>
        ((members.foldIf style.ignoreCase).negateIf negated, rest)
    | _ => none
  | _ => none

/-- Reads one member of a class. -/
def readMember (text : List Char) : Except Refusal (Escape × List Char) :=
  match text with
  | [] => .error .malformed
  | '\\' :: rest => readEscape rest
  | c :: rest => .ok (.character c, rest)

/-- The class of a member; a condition on a place is no member.  A name that nothing has gives no
class. -/
def memberClass (style : ClassStyle) : Escape → Except Refusal (Option CharClass)
  | .place => .error .malformed
  | .named negated name value =>
    .ok ((Escape.named false name value).class?.map fun members =>
      (members.foldIf style.ignoreCase).negateIf negated)
  | member => .ok member.class?

/-- The character of a member that is one. -/
def memberCharacter : Escape → Except Refusal Char
  | .character c => .ok c
  | .bell => .ok '\x07'
  | _ => .error .malformed

/-- Reads a member, or a range from one member to another. -/
def readRange (style : ClassStyle) (text : List Char) :
    Except Refusal (Option CharClass × List Char) := do
  let (first, behind) ← readMember text
  match nextPart style.verbose behind with
  | [] => throw .malformed
  | '-' :: rest =>
    match nextPart style.verbose rest with
    | ']' :: _ | '-' :: _ => return (← memberClass style first, '-' :: rest)
    | last =>
      let (second, end') ← readMember last
      let low ← memberCharacter first
      let high ← memberCharacter second
      if low ≤ high then return (some (.range low high), end') else throw .malformed
  | rest => return (← memberClass style first, rest)

mutual

/-- Reads a class; the text stands behind its opening bracket.  A closing bracket that comes first is
a member.   The class is none where it has a
name that nothing has.  The fuel bounds the number of parts. -/
def readBracket (style : ClassStyle) : Nat → List Char →
    Except Refusal (Option CharClass × List Char)
  | 0, _ => .error .malformed
  | fuel + 1, text => do
    let opened := nextPart style.verbose text
    let (negated, body) := match opened with
      | '^' :: rest => (true, nextPart style.verbose rest)
      | rest => (false, rest)
    let (hyphens, rest) := readHyphens style body.length body
    let (first, rest) : CharClass × List Char :=
      if hyphens then (.single '-', rest)
      else
        match rest with
        | ']' :: behind => (.single ']', nextPart style.verbose behind)
        | _ => (.nothing, rest)
    let (members, behind) ← readMembers style fuel none (some first) rest
    return (members.map fun members => (members.foldIf style.ignoreCase).negateIf negated, behind)

/-- Reads the parts of a class up to its closing bracket, with the class read so far. -/
def readMembers (style : ClassStyle) : Nat → Pending → Option CharClass → List Char →
    Except Refusal (Option CharClass × List Char)
  | 0, _, _, _ => .error .malformed
  | fuel + 1, pending, read, text =>
    match nextPart style.verbose text with
    | [] => .error .malformed
    | ']' :: rest => .ok (joinPending style pending read, rest)
    | '[' :: rest =>
      match readAsciiClass? style rest with
      | some (members, behind) =>
        readMembers style fuel pending (joinKnown read (some members)) behind
      | none => do
        let (members, behind) ← readBracket style fuel rest
        readMembers style fuel pending (joinKnown read members) behind
    | '&' :: '&' :: rest =>
      readMembers style fuel (some (.intersection, joinPending style pending read)) (some .nothing)
        rest
    | '-' :: '-' :: rest =>
      readMembers style fuel (some (.difference, joinPending style pending read)) (some .nothing)
        rest
    | '~' :: '~' :: rest =>
      readMembers style fuel (some (.exclusive, joinPending style pending read)) (some .nothing)
        rest
    | next => do
      let (members, behind) ← readRange style next
      readMembers style fuel pending (joinKnown read members) behind

/-- Reads the hyphens that begin a class: whether there is one, and the text behind them. -/
def readHyphens (style : ClassStyle) : Nat → List Char → Bool × List Char
  | fuel + 1, '-' :: rest => (true, (readHyphens style fuel (nextPart style.verbose rest)).2)
  | _, text => (false, text)

end

/-!
## The strict notation

A check that a text is an expression in the strict notation.  The letters for digits, blanks and
characters of words stand there for classes of few characters; texts that only the wide notation
has keep the letters' own, wider meaning.
-/

/-- How far the check of a text has come. -/
structure StrictState where
  text : List Char
  /-- For each open group, whether the notation is verbose behind it. -/
  groups : List Bool
  verbose : Bool
  /-- Whether the part read last can be repeated. -/
  repeatable : Bool
  /-- The names of the groups so far. -/
  names : List (List Char)
  /-- Whether the bell was named outside a class. -/
  hasBell : Bool

/-- Reads a number with blanks around it: of at most 32 bits, or none where there is no digit. -/
def readCount (text : List Char) : Except Refusal (Option Nat × List Char) :=
  let digits := (text.dropWhile Text.isBlank).takeWhile Char.isDigit
  let rest := ((text.dropWhile Text.isBlank).dropWhile Char.isDigit).dropWhile Text.isBlank
  if digits.isEmpty then .ok (none, rest)
  else
    let value := digits.foldl (fun value d => value * 10 + (d.toNat - '0'.toNat)) 0
    if value < 0x100000000 then .ok (some value, rest) else .error .malformed

/-- Reads the bounds of a repetition up to the closing brace. -/
def readBounds (text : List Char) : Except Refusal (List Char) := do
  match ← readCount text with
  | (none, _) => throw .malformed
  | (some least, rest) =>
    match rest with
    | '\x7d' :: behind => return behind
    | ',' :: rest =>
      match rest.dropWhile Text.isBlank with
      | '\x7d' :: behind => return behind
      | _ =>
        match ← readCount rest with
        | (some most, '\x7d' :: behind) => if least ≤ most then return behind else throw .malformed
        | _ => throw .malformed
    | _ => throw .malformed

/-- Whether a name of a group can begin with a character. -/
def beginsGroupName (c : Char) : Bool :=
  c == '_' || Text.Property.isAlphabetic c

/-- Whether a character is a letter or a number. -/
def isAlphanumeric (c : Char) : Bool :=
  Text.Property.isAlphabetic c
    || [.decimalNumber, .letterNumber, .otherNumber].contains (Text.categoryOf c)

/-- Whether a name of a group can go on with a character. -/
def continuesGroupName (c : Char) : Bool :=
  c == '_' || c == '.' || c == '[' || c == ']' || isAlphanumeric c

/-- Reads the name of a group up to its closing angle bracket. -/
def readGroupName (text : List Char) : Except Refusal (List Char × List Char) :=
  let name := text.takeWhile (· != '>')
  match name, text.dropWhile (· != '>') with
  | first :: more, '>' :: rest =>
    if beginsGroupName first && more.all continuesGroupName then .ok (name, rest)
    else .error .malformed
  | _, _ => .error .malformed

/-- Reads flags up to the colon or parenthesis behind them: the flags, the mark behind them, and
the rest. -/
def readFlags (text : List Char) : Except Refusal (List Char × Char × List Char) :=
  let flags := text.takeWhile fun c => c != ':' && c != ')'
  match text.dropWhile fun c => c != ':' && c != ')' with
  | [] => .error .malformed
  | mark :: rest =>
    let known := flags.all fun c => ['-', 'i', 'm', 's', 'U', 'u', 'R', 'x'].contains c
    if known && flags.eraseDups.length == flags.length && flags.getLast? != some '-' then
      .ok (flags, mark, rest)
    else .error .malformed

/-- Whether flags make the notation verbose, where it was so before or not. -/
def flagsVerbose (before : Bool) (flags : List Char) : Bool :=
  if (flags.takeWhile (· != '-')).contains 'x' then true
  else if flags.contains 'x' then false
  else before

namespace StrictState

/-- The state behind a part that can be repeated. -/
def past (state : StrictState) (rest : List Char) : StrictState :=
  { state with text := rest, repeatable := true }

/-- The state inside a group. -/
def enter (state : StrictState) (rest : List Char) : StrictState :=
  { state with text := rest, groups := state.verbose :: state.groups, repeatable := false }

/-- Reads the beginning of a group; the text stands behind the parenthesis. -/
def openGroup (state : StrictState) (text : List Char) : Except Refusal StrictState := do
  let nameGroup (rest : List Char) : Except Refusal StrictState := do
    let (name, behind) ← readGroupName rest
    if state.names.contains name then throw .malformed
    return { state.enter behind with names := name :: state.names }
  match nextPart state.verbose text with
  | '?' :: '=' :: _ | '?' :: '!' :: _ | '?' :: '<' :: '=' :: _ | '?' :: '<' :: '!' :: _ =>
    throw .onlyWide
  | '?' :: 'P' :: '<' :: rest | '?' :: '<' :: rest => nameGroup rest
  | '?' :: rest =>
    let (flags, mark, behind) ← readFlags rest
    let verbose := flagsVerbose state.verbose flags
    if mark = ':' then return { state.enter behind with verbose }
    else if flags.isEmpty then throw .malformed
    else return { state with text := behind, verbose, repeatable := false }
  | rest => return state.enter rest

/-- The state behind a question mark, where one comes next. -/
def pastLazyMark (state : StrictState) (rest : List Char) : StrictState :=
  match rest with
  | '?' :: behind => state.past behind
  | _ => state.past rest

/-- Reads the next part; the text begins with `c`. -/
def step (state : StrictState) (c : Char) (rest : List Char) : Except Refusal StrictState := do
  match c with
  | '(' => state.openGroup rest
  | ')' =>
    match state.groups with
    | verbose :: groups => return { state.past rest with groups, verbose }
    | [] => throw .malformed
  | '|' => return { state with text := rest, repeatable := false }
  | '[' =>
    let (_, behind) ← readBracket ⟨state.verbose, false⟩ (rest.length + 1) rest
    return state.past behind
  | '?' | '*' | '+' =>
    if state.repeatable then return state.pastLazyMark rest else throw .malformed
  | '\x7b' =>
    if state.repeatable then return state.pastLazyMark (← readBounds rest) else throw .malformed
  | '\\' =>
    let (escape, behind) ← readEscape rest
    return { state.past behind with hasBell := state.hasBell || escape == .bell }
  | _ => return state.past rest

/-- Checks the rest of the text; the result is whether the bell was named outside a class. -/
def run : Nat → StrictState → Except Refusal Bool
  | 0, _ => .error .malformed
  | fuel + 1, state =>
    match nextPart state.verbose state.text with
    | [] => if state.groups.isEmpty then .ok state.hasBell else .error .malformed
    | c :: rest => do run fuel (← state.step c rest)

end StrictState

/-- Checks a text against the strict notation; the result is whether the bell is named in it
outside a class. -/
def checkStrict (text : List Char) : Except Refusal Bool :=
  StrictState.run (text.length + 1) ⟨text, [], false, false, [], false⟩

/-- The class that a letter for a shorthand class stands for in the strict notation. -/
def narrowClass? : Char → Option String
  | 'd' => some "[0-9]"
  | 'D' => some "[^0-9]"
  | 'w' => some "[A-Za-z0-9_]"
  | 'W' => some "[^A-Za-z0-9_]"
  | 's' => some "[ \t\n\r\x0b\x0c\u00a0\ufeff\u2003\u2029]"
  | 'S' => some "[^ \t\n\r\x0b\x0c\u00a0\ufeff\u2003\u2029]"
  | _ => none

/-- The text with the narrow classes written out. -/
def narrow : List Char → List Char
  | '\\' :: c :: rest =>
    match narrowClass? c with
    | some written => written.toList ++ narrow rest
    | none => '\\' :: c :: narrow rest
  | c :: rest => c :: narrow rest
  | [] => []

/-- The text in the wide notation that means what a text means: its classes are written out where
it keeps the strict notation, and it is left as it is where only the wide notation has it.  Escapes
for control characters are replaced by these first; the fuel bounds their number. -/
def widen? : Nat → List Char → Option (List Char)
  | 0, _ => none
  | fuel + 1, text =>
    match checkStrict text with
    | .ok hasBell => if hasBell then none else some (narrow text)
    | .error .onlyWide => some text
    | .error .malformed => none
    | .error (.controlEscape left) =>
      match text.drop (text.length - left) with
      | letter :: rest =>
        widen? fuel (text.take (text.length - left - 2) ++ Char.ofNat (letter.toNat % 32) :: rest)
      | [] => none

end PromptScript.Expression
