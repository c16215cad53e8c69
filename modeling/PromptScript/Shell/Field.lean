import PromptScript.Pattern.CharSet
import PromptScript.Shell.Command
import PromptScript.Shell.State

/-!
# Wild cards and fields

The patterns of shell scripts are followed through all their choices at once, one character of the
text after the other.

An expanded word is a list of pieces that remember where they come from.  It is split into fields
at the characters of values that separate them, and fields with wild cards become the names of
files.
-/

namespace PromptScript.Shell

open Pattern (CharSet)

/-! ## Wild cards -/

/-- A piece of a pattern. -/
inductive Wildcard where
  /-- Any text. -/
  | run
  /-- One character of a set. -/
  | one (set : CharSet)
  deriving DecidableEq

namespace Wildcard

/-- What is left of a pattern at a place of the text, with what is left where its runs of any text
end there. -/
def opened : List Wildcard → List (List Wildcard)
  | [] => [[]]
  | run :: rest => (run :: rest) :: opened rest
  | one set :: rest => [one set :: rest]

/-- What can be left of patterns behind a character. -/
def advance (states : List (List Wildcard)) (c : Char) : List (List Wildcard) :=
  (states.flatMap fun state =>
    match state with
    | run :: rest => [run :: rest]
    | one set :: rest => if set.contains c then [rest] else []
    | [] => []).eraseDups.flatMap opened |>.eraseDups

/-- The lengths of the beginnings of a text that match, the shortest first. -/
def lengthsFrom : Nat → List (List Wildcard) → Octets → List Nat
  | place, states, text =>
    (if states.contains [] then [place] else [])
      ++ match text with
        | [] => []
        | c :: rest =>
          match advance states c with
          | [] => []
          | later => lengthsFrom (place + 1) later rest

/-- The lengths of the beginnings of a text that match a pattern, the shortest first. -/
def lengths (pattern : List Wildcard) (text : Octets) : List Nat :=
  lengthsFrom 0 (opened pattern) text

/-- Whether a whole text matches a pattern. -/
def matchesAll (pattern : List Wildcard) (text : Octets) : Bool :=
  (text.foldl advance (opened pattern)).contains []

/-- A text without the part at its beginning that a pattern matches. -/
def trimStart (longest : Bool) (pattern : List Wildcard) (text : Octets) : Octets :=
  let found := lengths pattern text
  match if longest then found.getLast? else found.head? with
  | some length => text.drop length
  | none => text

/-- A text without the part at its end that a pattern matches: read from its end, that is a
beginning which the pattern matches from its own end. -/
def trimEnd (longest : Bool) (pattern : List Wildcard) (text : Octets) : Octets :=
  (trimStart longest pattern.reverse text.reverse).reverse

/-- A character of a pattern: whether it stands for itself only. -/
abbrev Sign := Char × Bool

/-- The set of a class that is called by its name, and what follows it. -/
def namedClass? (signs : List Sign) : Option (CharSet × List Sign) :=
  match signs with
  | (':', _) :: rest =>
    let name := rest.takeWhile fun sign => sign.1.isAlpha
    match rest.drop name.length with
    | (':', _) :: (']', _) :: behind =>
      (CharSet.named? (String.ofList (name.map (·.1)))).map fun set => (set, behind)
    | _ => none
  | _ => none

/-- The members of a class up to its closing bracket, which is a member where it comes first: their
ranges and what follows the class. -/
def classRanges? : Nat → (first : Bool) → List Sign → Option (List (Char × Char) × List Sign)
  | 0, _, _ => none
  | _, _, [] => none
  | fuel + 1, first, (c, literal) :: rest =>
    if c == ']' && !literal && !first then some ([], rest)
    else
      let named? := if c == '[' && !literal then namedClass? rest else none
      match named?, rest with
      | some (set, behind), _ =>
        (classRanges? fuel false behind).map fun (ranges, behind) => (set.ranges ++ ranges, behind)
      | none, ('-', false) :: (high, highLiteral) :: behind =>
        if high == ']' && !highLiteral then
          (classRanges? fuel false rest).map fun (ranges, behind) => ((c, c) :: ranges, behind)
        else
          (classRanges? fuel false behind).map fun (ranges, behind) => ((c, high) :: ranges, behind)
      | none, _ =>
        (classRanges? fuel false rest).map fun (ranges, behind) => ((c, c) :: ranges, behind)

/-- The class behind an opening bracket, and what follows it. -/
def class? (signs : List Sign) : Option (CharSet × List Sign) :=
  let negated := match signs with
    | ('!', false) :: _ | ('^', false) :: _ => true
    | _ => false
  let members := if negated then signs.drop 1 else signs
  (classRanges? (members.length + 1) true members).map fun (ranges, behind) =>
    (⟨ranges, negated⟩, behind)

/-- The pattern that some signs write. -/
def ofSigns : Nat → List Sign → List Wildcard
  | 0, _ => []
  | _, [] => []
  | fuel + 1, (c, literal) :: rest =>
    let itself := one (.ofList [c])
    if literal then itself :: ofSigns fuel rest
    else
      match c with
      | '*' => run :: ofSigns fuel (rest.dropWhile fun sign => sign == ('*', false))
      | '?' => one .all :: ofSigns fuel rest
      | '[' =>
        match class? rest with
        | some (set, behind) => one set :: ofSigns fuel behind
        | none => itself :: ofSigns fuel rest
      | _ => itself :: ofSigns fuel rest

end Wildcard

/-- The signs of a pattern in which a backslash makes a character stand for itself. -/
def signsOf : Octets → List Wildcard.Sign
  | '\\' :: c :: rest => (c, true) :: signsOf rest
  | c :: rest => (c, false) :: signsOf rest
  | [] => []

/-- The pattern that some signs write. -/
def wildcards (signs : List Wildcard.Sign) : List Wildcard :=
  Wildcard.ofSigns (signs.length + 1) signs

/-! ## Fields -/

/-- Where a character of an expanded word comes from. -/
inductive Origin where
  /-- From quotes; it stands for itself only. -/
  | quoted
  /-- From the script; it can be a wild card. -/
  | plain
  /-- From a value; it can be a wild card or separate fields. -/
  | loose
  deriving DecidableEq

/-- A piece of an expanded word. -/
inductive Piece where
  | char (c : Char) (origin : Origin)
  /-- The place of quotes, which make a field even where it is empty. -/
  | edge
  /-- The beginning of a value, at which blanks before it are forgotten. -/
  | seam
  /-- The end of an argument in a list that is split further. -/
  | cut
  /-- The end of an argument that is a field of its own. -/
  | wall
  deriving DecidableEq

namespace Piece

/-- The character of a piece. -/
def char? : Piece → Option Char
  | char c _ => some c
  | _ => none

/-- The pieces of a text from one origin. -/
def ofText (text : Octets) (origin : Origin) : List Piece :=
  text.map fun c => char c origin

/-- The text of some pieces. -/
def text (pieces : List Piece) : Octets :=
  pieces.filterMap char?

/-- Pieces of the script that stand for a value. -/
def loosen (pieces : List Piece) : List Piece :=
  pieces.map fun piece =>
    match piece with
    | .char c .plain => .char c .loose
    | other => other

/-- The signs of a pattern.  A backslash in a value takes the meaning of the next character. -/
def signs : List Piece → List Wildcard.Sign
  | .char '\\' .loose :: .char c _ :: rest => (c, true) :: signs rest
  | .char c origin :: rest => (c, origin == .quoted) :: signs rest
  | _ :: rest => signs rest
  | [] => []

/-- The pattern that some pieces write. -/
def pattern (pieces : List Piece) : List Wildcard :=
  wildcards (signs pieces)

end Piece

/-- Splits pieces into fields at the characters of values that separate them.  Blank separators
count once; a separator of another kind ends a field even where it is empty. -/
def splitFields (separators : Octets) : List Piece → (current : List Piece) →
    (begun afterBlank : Bool) → List (List Piece)
  | [], current, begun, _ => if begun then [current.reverse] else []
  | .wall :: rest, current, begun, _ =>
    (if begun then [current.reverse] else []) ++ splitFields separators rest [] false false
  | .cut :: rest, current, begun, afterBlank =>
    if begun then current.reverse :: splitFields separators rest [] false true
    else splitFields separators rest [] false afterBlank
  | .seam :: rest, current, begun, _ => splitFields separators rest current begun false
  | .edge :: rest, current, _, afterBlank => splitFields separators rest current true afterBlank
  | .char c origin :: rest, current, begun, afterBlank =>
    if origin = .loose ∧ c ∈ separators then
      if c ∈ blankSeparators then
        if begun then current.reverse :: splitFields separators rest [] false true
        else splitFields separators rest [] false afterBlank
      else if begun then current.reverse :: splitFields separators rest [] false false
      else if afterBlank then splitFields separators rest [] false false
      else [] :: splitFields separators rest [] false false
    else splitFields separators rest (.char c origin :: current) true false

/-! ## File names -/

/-- Whether a field has wild cards. -/
def hasWild (pieces : List Piece) : Bool :=
  pieces.any fun piece =>
    match piece with
    | .char c origin => origin != .quoted && (c == '*' || c == '?' || c == '[')
    | _ => false

/-- The components of a field. -/
def splitComponents (pieces : List Piece) : List (List Piece) :=
  match pieces with
  | [] => [[]]
  | piece :: rest =>
    if piece.char? = some '/' then [] :: splitComponents rest
    else
      match splitComponents rest with
      | component :: others => (piece :: component) :: others
      | [] => [[piece]]

/-- The paths that continue a path by one component. -/
def componentPaths (tree : FileTree) (component : List Piece) (lead : Octets) : List Octets :=
  if hasWild component then
    match tree.list (if lead.isEmpty then "." else display lead) with
    | .ok names =>
      let showsHidden := component.head?.bind Piece.char? == some '.'
      let names := if showsHidden then "." :: ".." :: names else names
      (names.map octets).filterMap fun name =>
        if (name.head? == some '.' && !showsHidden)
            || !Wildcard.matchesAll (Piece.pattern component) name then none
        else some (lead ++ name)
    | .error _ => []
  else
    let path := lead ++ Piece.text component
    if path.isEmpty || tree.existsAt (display path) then [path] else []

/-- The paths of the files that match the components of a field. -/
def walkComponents (tree : FileTree) : List (List Piece) → List Octets → List Octets
  | [], paths => paths
  | [component], paths => paths.flatMap (componentPaths tree component)
  | component :: rest, paths =>
    walkComponents tree rest
      ((paths.flatMap (componentPaths tree component)).filterMap fun path =>
        if path.isEmpty || tree.isDirectory (display path) then some (path ++ ['/']) else none)

/-- The names of files that a field stands for, or its own text. -/
def fieldTexts (tree : FileTree) (pieces : List Piece) : List Octets :=
  if hasWild pieces then
    let found := walkComponents tree (splitComponents pieces) [[]]
    if found.isEmpty then [Piece.text pieces]
    else found.mergeSort fun a b => !(String.ofList b < String.ofList a)
  else [Piece.text pieces]

end PromptScript.Shell
