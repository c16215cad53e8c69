import PromptScript.Shell.Arithmetic
import PromptScript.Shell.Field

/-!
# Words

What words stand for: their parameters, the output of their commands and their sums are put in,
and a tilde at the beginning becomes a home.
-/

namespace PromptScript.Shell

/-! ## Parameters -/

/-- The characters that separate fields. -/
def separatorsOf (shell : Machine) : Octets :=
  (shell.get? "IFS".toList).getD blankSeparators

/-- The letters of the options, in the order in which they are shown. -/
def optionLetters : List Char :=
  ['u', 'b', 'a', 'C', 'E', 'V', 'v', 'x', 's', 'n', 'm', 'i', 'I', 'f', 'e']

/-- The value of a parameter other than the list of arguments. -/
def parameterValue? (shell : Machine) (name : Octets) : Option Octets :=
  match name with
  | ['#'] => some (decimal shell.arguments.length)
  | ['?'] => some (decimal shell.status)
  | ['$'] => some (decimal shell.number)
  | ['!'] => shell.background.map decimal
  | ['-'] => some (optionLetters.filter shell.isOn)
  | _ =>
    if name.all Char.isDigit then
      match Integer.ofDigits 10 name with
      | 0 => some shell.name
      | place + 1 => shell.arguments[place]?
    else shell.get? name

/-- What separates arguments that are joined to one text. -/
def joint (shell : Machine) : Octets :=
  match shell.get? "IFS".toList with
  | some separators => separators.take 1
  | none => [' ']

/-- How words are expanded. -/
structure Manner where
  /-- Whether the word becomes fields. -/
  splits : Bool
  /-- Whether tildes count behind colons, too. -/
  isAssignment : Bool := false

/-- The pieces of the list of arguments. -/
def argumentPieces (shell : Machine) (manner : Manner) (quoted isStar : Bool) : List Piece :=
  if !manner.splits || (quoted && isStar) then
    .seam :: Piece.ofText ((joint shell).intercalate shell.arguments)
      (if quoted then .quoted else .loose)
  else if quoted then
    [Piece.wall].intercalate
      (shell.arguments.map fun argument => .edge :: Piece.ofText argument .quoted)
  else
    .seam :: [Piece.cut].intercalate
      (shell.arguments.map fun argument => Piece.ofText argument .loose)

/-- The home that a tilde with a name stands for. -/
def homeOf? (shell : Machine) (name : Octets) : Option Octets :=
  match String.ofList name with
  | "" => shell.get? "HOME".toList
  | "root" => some "/root".toList
  | "daemon" => some "/usr/sbin".toList
  | "bin" => some "/bin".toList
  | "nobody" => some "/nonexistent".toList
  | _ => none

/-- The pieces of an unquoted text, in which tildes become homes: one at its beginning where `open`
holds, and in assignments those behind colons.  `last` says whether the word ends with the text. -/
def tildePieces (shell : Machine) (manner : Manner) (opened last : Bool) : Nat → Octets → List Piece
  | 0, text => Piece.ofText text .plain
  | fuel + 1, text =>
    match text with
    | [] => []
    | '~' :: rest =>
      let ends (c : Char) : Bool := c == '/' || (manner.isAssignment && c == ':')
      let name := rest.takeWhile fun c => !ends c
      let home? := if opened && (last || name.length < rest.length) then homeOf? shell name else none
      match home? with
      | some home =>
        .edge :: Piece.ofText home .quoted
          ++ tildePieces shell manner false last fuel (rest.drop name.length)
      | none => .char '~' .plain :: tildePieces shell manner false last fuel rest
    | c :: rest =>
      .char c .plain :: tildePieces shell manner (manner.isAssignment && c == ':') last fuel rest

/-- The value of an arithmetic expression, whose assignments are made. -/
def evaluateSum (text : Octets) : Action Octets := do
  let shell ← get
  match Arithmetic.evaluate (fun name => (shell.get? name).getD []) text with
  | .error fault => Action.fail (fault.message text)
  | .ok (value, made) =>
    for (name, value) in made.reverse do
      Action.assign name (Integer.text value)
    return Integer.text value

/-- What an expansion needs to run commands: their output without line feeds at its end. -/
abbrev Capture := Command → Action Octets

/-- Complains about a parameter that is not set. -/
def complainUnset {α : Type} (name : Octets) (reason : Octets) : Action α :=
  Action.fail (name ++ octets ": " ++ reason)

/-- The reason why a parameter is missing. -/
def unsetReason (orEmpty : Bool) : Octets :=
  octets (if orEmpty then "parameter not set or null" else "parameter not set")

/-- The pieces of the parts of a word.  Where `opened` holds, a tilde may begin the parts.  The
fuel bounds the depth of the word. -/
def expandParts (capture : Capture) (manner : Manner) : Nat → (opened : Bool) → List Part →
    Action (List Piece)
  | 0, _, _ => return []
  | depth + 1, opened, parts => do
    let shell ← get
    match parts with
    | [] => return []
    | .text [] true :: .parameter ['@'] .value true :: rest =>
      let alone := match rest with
        | .text [] true :: _ => true
        | .text _ quoted :: _ | .parameter _ _ quoted :: _ | .output _ quoted :: _
        | .sum _ quoted :: _ => !quoted
        | [] => true
      let own := argumentPieces shell manner true false
      let own := if alone && manner.splits then own else .edge :: own
      return own ++ (← expandParts capture manner depth false rest)
    | .text content false :: rest =>
      let own := tildePieces shell manner opened rest.isEmpty (content.length + 1) content
      let goesOn := manner.isAssignment && content.getLast? == some ':'
      return own ++ (← expandParts capture manner depth goesOn rest)
    | .text content true :: rest =>
      return .edge :: Piece.ofText content .quoted
        ++ (← expandParts capture manner depth false rest)
    | part :: rest =>
      let own ← expandPart capture depth part
      return own ++ (← expandParts capture manner depth false rest)
where
  /-- The pieces of a text that is put in. -/
  inserted (text : Octets) (quoted : Bool) : List Piece :=
    if quoted then Piece.ofText text .quoted else .seam :: Piece.ofText text .loose
  /-- The pieces of a part that is no text. -/
  expandPart (capture : Capture) : Nat → Part → Action (List Piece)
    | 0, _ => return []
    | _, .text content quoted => return inserted content quoted
    | _, .output body quoted => do
      return inserted (← capture body) quoted
    | depth + 1, .sum expression quoted => do
      let text := Piece.text (← expandParts capture ⟨false, false⟩ depth false expression)
      return inserted (← evaluateSum text) quoted
    | depth + 1, .parameter name treatment quoted => do
      let shell ← get
      let isList := name == ['@'] || name == ['*']
      let value? := if isList then some ((joint shell).intercalate shell.arguments)
        else parameterValue? shell name
      let own : List Piece :=
        if isList then argumentPieces shell manner quoted (name == ['*'])
        else inserted (value?.getD []) quoted
      let isMissing (orEmpty : Bool) : Bool := match value? with
        | none => true
        | some text => orEmpty && text.isEmpty
      let demandValue : Action Unit := do
        if value?.isNone && shell.isOn 'u' then complainUnset name (unsetReason false)
      let word (parts : List Part) : Action (List Piece) := do
        let pieces ← expandParts capture ⟨manner.splits, false⟩ depth true parts
        return if quoted then pieces else Piece.loosen pieces
      let pattern (parts : List Part) : Action (List Wildcard) := do
        return Piece.pattern (← expandParts capture ⟨false, false⟩ depth true parts)
      match treatment with
      | .unknown => Action.fail (octets "Bad substitution")
      | .value =>
        demandValue
        return own
      | .length =>
        demandValue
        return inserted (decimal (value?.getD []).length) quoted
      | .fallback orEmpty parts => if isMissing orEmpty then word parts else return own
      | .replace orEmpty parts => if isMissing orEmpty then return [] else word parts
      | .assign orEmpty parts =>
        if isMissing orEmpty then
          let text := Piece.text (← word parts)
          if !isName name then Action.fail (name ++ octets ": bad variable name")
          Action.assign name text
          return inserted text quoted
        else return own
      | .demand orEmpty parts =>
        if isMissing orEmpty then
          if parts.isEmpty then complainUnset name (unsetReason orEmpty)
          else complainUnset name (Piece.text (← word parts))
        else return own
      | .trimStart longest parts =>
        demandValue
        return inserted (Wildcard.trimStart longest (← pattern parts) (value?.getD [])) quoted
      | .trimEnd longest parts =>
        demandValue
        return inserted (Wildcard.trimEnd longest (← pattern parts) (value?.getD [])) quoted

/-- The greatest depth of a word that is followed. -/
def maxWordDepth : Nat := 100000

/-- The text of a word that is neither split nor matched with files. -/
def expandText (capture : Capture) (word : List Part) : Action Octets := do
  return Piece.text (← expandParts capture ⟨false, false⟩ maxWordDepth true word)

/-- The pattern of a word. -/
def expandPattern (capture : Capture) (word : List Part) : Action (List Wildcard) := do
  return Piece.pattern (← expandParts capture ⟨false, false⟩ maxWordDepth true word)

/-- The text of an assignment: its name, an equals sign and its value. -/
def expandAssignment (capture : Capture) (word : List Part) : Action Octets := do
  match word with
  | .text content false :: rest =>
    let name := leadingName content
    let value := content.drop (name.length + 1)
    let value := if value.isEmpty then rest else .text value false :: rest
    let pieces ← expandParts capture ⟨false, true⟩ maxWordDepth true value
    return name ++ '=' :: Piece.text pieces
  | _ => expandText capture word

/-- The fields of a word. -/
def expandWord (capture : Capture) (word : List Part) : Action (List Octets) := do
  let pieces ← expandParts capture ⟨true, false⟩ maxWordDepth true word
  let shell ← get
  let fields := splitFields (separatorsOf shell) pieces [] false false
  if shell.isOn 'f' then return fields.map Piece.text
  else return fields.flatMap (fieldTexts shell.tree)

end PromptScript.Shell
