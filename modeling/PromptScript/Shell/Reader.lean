import PromptScript.Shell.Token

/-!
# Reading shell scripts

A script is read one complete command after the other, so that the commands before a mistake can
still run.  The text of a here-document is read at the end of the line that asks for it.
-/

namespace PromptScript.Shell

open Reading

/-- Where the text stands that is being read for a word, which says what ends it. -/
inductive Level where
  /-- A word of a command. -/
  | bare
  /-- Braces of a parameter outside of double quotes. -/
  | bareBrace
  /-- Double quotes, perhaps within such braces. -/
  | double (inBrace : Bool)
  /-- Braces of a parameter within double quotes or a here-document; `inner` is turned around by
  the double quotes in them. -/
  | doubleBrace (inDocument inner : Bool)
  | document
  /-- Double parentheses, with the number of parentheses that are open within them. -/
  | arithmetic (depth : Nat)
  deriving DecidableEq

namespace Level

/-- Whether texts of a level count as quoted. -/
def isQuoted : Level → Bool
  | bare | bareBrace => false
  | _ => true

/-- Whether a backslash stays where it stands before a character. -/
def keepsBackslash (level : Level) (c : Char) : Bool :=
  level.isQuoted && c != '\\' && c != '\x60' && c != '$'
    && (c != '"' || level == document)
    && (c != '\x7d' || match level with
      | double inBrace => !inBrace
      | doubleBrace _ inner => inner
      | _ => true)

/-- The level of the word in braces that begin at a level. -/
def inBraces : Level → Level
  | bare | bareBrace => bareBrace
  | document => doubleBrace true false
  | doubleBrace inDocument _ => doubleBrace inDocument false
  | _ => doubleBrace false false

end Level

/-- Whether a character ends a word. -/
def endsWord (c : Char) : Bool :=
  c ∈ [' ', '\t', '\n', ';', '&', '|', '<', '>', '(', ')']

/-- Whether a character is the name of a parameter by itself. -/
def isSpecialParameter (c : Char) : Bool :=
  c.isDigit || c ∈ ['@', '*', '#', '?', '-', '$', '!']

/-- The text up to a closing back quote, and its length with that quote. -/
def backQuoted (inDouble : Bool) : Octets → Option (Octets × Nat)
  | [] => none
  | '\x60' :: _ => some ([], 1)
  | '\\' :: '\n' :: rest => (backQuoted inDouble rest).map fun (text, length) => (text, length + 2)
  | '\\' :: c :: rest =>
    (backQuoted inDouble rest).map fun (text, length) =>
      (if c ∈ ['$', '\x60', '\\'] || (inDouble && c == '"') then c :: text
        else '\\' :: c :: text, length + 2)
  | c :: rest => (backQuoted inDouble rest).map fun (text, length) => (c :: text, length + 1)

/-- Takes characters as long as they stand in a name, joining lines. -/
def takeWhile (holds : Char → Bool) : Nat → Reading Octets
  | 0 => return []
  | fuel + 1 => do
    match ← peek? with
    | some c =>
      if holds c then
        skip 1
        return c :: (← takeWhile holds fuel)
      else return []
    | none => return []

/-- Splits the body of a here-document off the lines behind its redirection: the body, the number
of its lines, and what follows. -/
def splitDocument (mark : Octets) (trimTabs : Bool) : Nat → Octets → Octets × Octets
  | 0, text => (text, [])
  | fuel + 1, text =>
    if text.isEmpty then ([], [])
    else
      let line := text.takeWhile (· != '\n')
      let later := text.drop (line.length + 1)
      let trimmed := if trimTabs then line.dropWhile (· == '\t') else line
      if trimmed = mark then ([], later)
      else if line.length = text.length then (trimmed, [])
      else
        let (body, behind) := splitDocument mark trimTabs fuel later
        (trimmed ++ '\n' :: body, behind)

/-- What the signs behind the name of a parameter in braces ask for. -/
inductive Sign where
  | close
  | test (c : Char) (orEmpty : Bool)
  | trim (atStart longest : Bool)
  | bad
  deriving DecidableEq

/-- Reads the signs behind the name of a parameter in braces. -/
def readSign : Reading Sign := do
  match ← peek? with
  | some '\x7d' =>
    skip 1
    return .close
  | some ':' =>
    skip 1
    match ← peek? with
    | some c =>
      skip 1
      if c ∈ ['\x7d', '-', '+', '?', '='] then return .test c true else return .bad
    | none => return .bad
  | some '#' =>
    skip 1
    return .trim true (← accept '#')
  | some '%' =>
    skip 1
    return .trim false (← accept '%')
  | some c =>
    skip 1
    if c ∈ ['-', '+', '?', '='] then return .test c false else return .bad
  | none => return .bad

/-- The kind of redirection behind its first sign, with the descriptor that it is for. -/
def readRedirectionSign (first : Char) : Reading (Nat × RedirectionKind) := do
  if first == '>' then
    if ← accept '>' then return (1, .append)
    if ← accept '|' then return (1, .overwrite)
    if ← accept '&' then return (1, .duplicate)
    return (1, .output)
  else
    if ← accept '<' then
      let trimsTabs ← accept '-'
      modify fun input => { input with trimsTabs }
      return (0, .document 0)
    if ← accept '&' then return (0, .duplicate)
    if ← accept '>' then return (0, .update)
    return (0, .input)

/-- Where a list of commands stands. -/
inductive ListPlace where
  /-- At the top of a script, where a line feed ends it. -/
  | line
  /-- In a compound command, where it has one command at least. -/
  | block
  /-- Where it may be empty. -/
  | within
  deriving DecidableEq

/-- The pieces of a simple command, in reversed order. -/
structure SimplePieces where
  assignments : List (List Part) := []
  words : List (List Part) := []
  redirections : List Redirection := []

/-- The commands of the shell that no function may be named after. -/
def specialNames : List String :=
  [".", ":", "break", "continue", "eval", "exec", "exit", "export", "local", "readonly", "return",
    "set", "shift", "times", "trap", "unset"]

/-- The line where a command that is put into the background begins. -/
def lineOf : Command → Nat
  | .simple line .. | .subshell line .. | .redirected line .. | .each line .. | .select line ..
  | .define line .. => line
  | _ => 0

/-- Puts a command into the background. -/
def inBackground : Command → Command
  | .pipe commands _ => .pipe commands true
  | .redirected line body redirections => .background line body redirections
  | command => .background (lineOf command) command []

mutual

/-- The parts of a text up to the end of its level. -/
def readParts : Nat → Level → Reading (List Part)
  | 0, _ => overlong
  | fuel + 1, level => do
    let quoted := level.isQuoted
    match ← peek? with
    | none =>
      match level with
      | .bare | .document => return []
      | .bareBrace | .doubleBrace true _ => stop "Missing '\x7d'"
      | .double _ | .doubleBrace false _ => stop "Unterminated quoted string"
      | .arithmetic _ => stop "Missing '))'"
    | some c =>
      let later : Reading (List Part) := readParts fuel level
      let literal : Reading (List Part) := do
        skip 1
        return .text [c] quoted :: (← later)
      if level == .bare && endsWord c then return []
      else if c == '\x7d' && (level == .bareBrace
          || level matches .doubleBrace _ false) then
        skip 1
        return []
      else if c == '"' then
        match level with
        | .bare | .bareBrace =>
          skip 1
          modify fun input => { input with wasQuoted := true }
          let inner ← readParts fuel (.double (level == .bareBrace))
          return .text [] true :: inner ++ (← later)
        | .double _ =>
          skip 1
          return []
        | .doubleBrace inDocument inner =>
          skip 1
          return .text [] true :: (← readParts fuel (.doubleBrace inDocument !inner))
        | .document => literal
        | .arithmetic _ =>
          skip 1
          later
      else if c == '\'' && !quoted then
        skip 1
        let body := (← get).rest.takeWhile (· != '\'')
        if body.length = (← get).rest.length then
          skip body.length
          stop "Unterminated quoted string"
        skip (body.length + 1)
        modify fun input => { input with wasQuoted := true }
        return .text body true :: (← later)
      else if c == '\\' then
        skip 1
        match (← get).rest with
        | [] => return .text ['\\'] true :: (← later)
        | d :: _ =>
          skip 1
          modify fun input => { input with wasQuoted := true }
          let content := if level.keepsBackslash d then ['\\', d] else [d]
          return .text content true :: (← later)
      else if c == '\x60' then
        if (← get).wanted.isMark then literal
        else
          skip 1
          let part ← readBackQuotes fuel quoted
          return part :: (← later)
      else if c == '$' then
        skip 1
        let part ← readDollar fuel level
        return part :: (← later)
      else
        match level with
        | .arithmetic depth =>
          skip 1
          if c == '(' then
            return .text [c] true :: (← readParts fuel (.arithmetic (depth + 1)))
          else if c == ')' then
            if 0 < depth then
              return .text [c] true :: (← readParts fuel (.arithmetic (depth - 1)))
            else if ← accept ')' then return []
            else return .text [c] true :: (← later)
          else return .text [c] true :: (← later)
        | _ =>
          let run := (← get).rest.takeWhile fun d =>
            !(d ∈ ['"', '\'', '\\', '$', '\x60', '\x7d']) && (quoted || !endsWord d)
          if (← get).layers.isEmpty && 1 < run.length then
            skip run.length
            return .text run quoted :: (← later)
          else
            let _ ← next?
            return .text [c] quoted :: (← later)

/-- The command between back quotes, the first of which is read. -/
def readBackQuotes : Nat → Bool → Reading Part
  | 0, _ => overlong
  | fuel + 1, quoted => do
    match backQuoted quoted (← get).rest with
    | none =>
      skip (← get).rest.length
      stop "EOF in backquote substitution"
    | some (body, length) =>
      skip length
      let outer ← get
      set { rest := body, size := body.length, documents := outer.documents, aliases := outer.aliases :
        Input }
      let command ← readList fuel .within
      readDocuments fuel
      let documents := (← get).documents
      set { outer with documents }
      return .output command quoted

/-- What stands behind a dollar sign. -/
def readDollar : Nat → Level → Reading Part
  | 0, _ => overlong
  | fuel + 1, level => do
    let quoted := level.isQuoted
    let dollar : Part := .text ['$'] true
    if (← get).wanted.isMark then return .text ['$'] false
    match ← peek? with
    | some '(' =>
      skip 1
      if ← accept '(' then
        return .sum (joinTexts (← readParts fuel (.arithmetic 0))) quoted
      else
        let outer ← get
        set { outer with awaited := [], isPutBack := false, wanted := {} }
        let command ← readList fuel .within
        if (← readToken fuel) != .closing then expecting .closing
        modify fun input =>
          { input with
            awaited := outer.awaited ++ input.awaited
            isPutBack := outer.isPutBack
            last := outer.last
            word := outer.word
            wasQuoted := outer.wasQuoted
            wanted := outer.wanted
            redirection := outer.redirection }
        return .output command quoted
    | some '\x7b' =>
      skip 1
      readBraces fuel level
    | some c =>
      if startsName c then
        return .parameter (← takeWhile continuesName fuel) .value quoted
      else if isSpecialParameter c then
        skip 1
        return .parameter [c] .value quoted
      else return dollar
    | none => return dollar

/-- A parameter behind its opening brace. -/
def readBraces : Nat → Level → Reading Part
  | 0, _ => overlong
  | fuel + 1, level => do
    let quoted := level.isQuoted
    let word (level : Level) : Reading (List Part) := do
      return joinTexts (← readParts fuel level)
    let bad : Reading Part := do
      let _ ← word level.inBraces
      return .parameter [] .unknown quoted
    let lengthOf (name : Octets) : Reading Part := do
      if ← accept '\x7d' then return .parameter name .length quoted else bad
    let withSign (name : Octets) : Reading Part := do
      match ← readSign with
      | .close => return .parameter name .value quoted
      | .bad => bad
      | .trim atStart longest =>
        let pattern ← word .bareBrace
        return .parameter name
          (if atStart then .trimStart longest pattern else .trimEnd longest pattern) quoted
      | .test sign orEmpty =>
        let word ← word level.inBraces
        return .parameter name (match sign with
          | '-' => .fallback orEmpty word
          | '+' => .replace orEmpty word
          | '?' => .demand orEmpty word
          | '=' => .assign orEmpty word
          | _ => .value) quoted
    match ← peek? with
    | none => bad
    | some c =>
      if startsName c then withSign (← takeWhile continuesName fuel)
      else if c.isDigit then withSign (← takeWhile Char.isDigit fuel)
      else if c == '\x7d' then bad
      else
        skip 1
        if c == '#' then
          match ← peek? with
          | some d =>
            if startsName d then lengthOf (← takeWhile continuesName fuel)
            else if d.isDigit then
              skip 1
              lengthOf [d]
            else if d != '\x7d' && (← get).rest[1]? == some '\x7d' then
              if isSpecialParameter d then
                skip 1
                lengthOf [d]
              else bad
            else withSign ['#']
          | none => bad
        else if isSpecialParameter c then withSign [c]
        else bad

/-- Reads the here-documents whose text begins at the present line. -/
def readDocuments : Nat → Reading Unit
  | 0 => overlong
  | fuel + 1 => do
    match (← get).awaited with
    | [] => return
    | awaited :: others =>
      let input ← get
      let (body, behind) :=
        splitDocument awaited.mark awaited.trimsTabs (input.rest.length + 1) input.rest
      let taken := input.rest.length - behind.length
      if awaited.isLiteral then
        skip taken
        modify fun input =>
          { input with
            awaited := others
            documents := input.documents.setIfInBounds awaited.number [.text body true] }
      else
        set { input with rest := body, awaited := [], wanted := {}, layers := [] }
        let parts ← readParts fuel .document
        modify fun inner =>
          { input with
            rest := behind
            line := input.line + (input.rest.take taken).count '\n'
            awaited := others
            documents := inner.documents.setIfInBounds awaited.number (joinTexts parts) }
      readDocuments fuel

/-- Reads the next token as it stands. -/
def nextToken : Nat → Reading Token
  | 0 => overlong
  | fuel + 1 => do
    let input ← get
    if input.isPutBack then
      set { input with isPutBack := false }
      return input.last
    closeLayers
    match ← peek? with
    | none => keep .finish
    | some c =>
      match c with
      | ' ' | '\t' =>
        let _ ← next?
        nextToken fuel
      | '#' =>
        skip ((← get).rest.takeWhile (· != '\n')).length
        nextToken fuel
      | '\n' =>
        skip 1
        keep .line
      | '&' =>
        skip 1
        keep (if ← accept '&' then .both else .background)
      | '|' =>
        skip 1
        keep (if ← accept '|' then .either else .pipe)
      | ';' =>
        skip 1
        keep (if ← accept ';' then .caseEnd else .semicolon)
      | '(' =>
        skip 1
        keep .opening
      | ')' =>
        skip 1
        keep .closing
      | _ =>
        modify fun input => { input with wasQuoted := false }
        let parts := joinTexts (← readParts fuel .bare)
        let behind ← peek?
        match behind with
        | some sign =>
          if sign == '<' || sign == '>' then
            let descriptor? : Option (Option Nat) := match parts with
              | [] => some none
              | [.text [digit] false] =>
                if digit.isDigit then some (some (digit.toNat - 48)) else none
              | _ => none
            match descriptor? with
            | some descriptor? =>
              skip 1
              let (descriptor, kind) ← readRedirectionSign sign
              modify fun input =>
                { input with redirection := (descriptor?.getD descriptor, kind) }
              return ← keep .redirection
            | none => pure ()
        | none => pure ()
        modify fun input => { input with word := parts }
        keep .word

/-- Reads the next token as it is wanted. -/
def readToken : Nat → Reading Token
  | 0 => overlong
  | fuel + 1 => do
    classify fuel (← get).wanted

/-- Reads tokens until one is as wanted. -/
def classify : Nat → Wanted → Reading Token
  | 0, _ => overlong
  | fuel + 1, wanted => do
    let token ← nextToken fuel
    if wanted.skipsLines && token == .line then
      readDocuments fuel
      want {}
      classify fuel wanted
    else
      let input ← get
      let wanted := wanted.join input.wanted
      want {}
      match plainText? input.word with
      | none => return token
      | some text =>
        if token != .word || input.wasQuoted then return token
        else if wanted.reserved && Token.reservedWords.contains (String.ofList text) then
          keep (.reserved (String.ofList text))
        else if wanted.aliases then
          match input.aliases.lookup text with
          | none => return token
          | some value =>
            if input.layers.any fun layer => layer.name == text then return token
            else
              modify fun input =>
                if value.isEmpty then input
                else
                  { input with
                    rest := value ++ input.rest
                    layers := ⟨text, input.rest.length,
                      value.getLast?.any fun c => c == ' ' || c == '\t'⟩ :: input.layers }
              classify fuel wanted
        else return token

/-- Reads commands one after the other. -/
def readList : Nat → ListPlace → Reading Command
  | 0, _ => overlong
  | fuel + 1, place => readFurther fuel place none

/-- Reads the commands that follow those read so far. -/
def readFurther : Nat → ListPlace → Option Command → Reading Command
  | 0, _, _ => overlong
  | fuel + 1, place, before? => do
    let before := before?.getD .nothing
    want { Wanted.command with skipsLines := place != .line }
    match ← readToken fuel with
    | .line =>
      readDocuments fuel
      return before
    | .finish =>
      readDocuments fuel
      putBack
      return before
    | token =>
      putBack
      if place != .line && (place == .within || before?.isSome) && token.endsList then return before
      let command ← readChain fuel (← readPipeline fuel)
      let token ← readToken fuel
      let command := if token == .background then inBackground command else command
      let joined := match before? with
        | some before => .sequence before command
        | none => command
      match token with
      | .finish =>
        readDocuments fuel
        putBack
        return joined
      | .line =>
        putBack
        readFurther fuel place (some joined)
      | .background | .semicolon => readFurther fuel place (some joined)
      | _ =>
        if place == .line then unexpected
        putBack
        return joined

/-- Reads the pipelines that are joined to one by its outcome. -/
def readChain : Nat → Command → Reading Command
  | 0, _ => overlong
  | fuel + 1, left => do
    match ← readToken fuel with
    | .both =>
      want .commandBelow
      readChain fuel (.both left (← readPipeline fuel))
    | .either =>
      want .commandBelow
      readChain fuel (.either left (← readPipeline fuel))
    | _ =>
      putBack
      return left

/-- Reads commands joined by pipes. -/
def readPipeline : Nat → Reading Command
  | 0 => overlong
  | fuel + 1 => do
    let negated := (← readToken fuel) == .reserved "!"
    if negated then want .command else putBack
    let first ← readCommand fuel
    let others ← readPiped fuel
    let whole := if others.isEmpty then first else .pipe (first :: others) false
    return if negated then .not whole else whole

/-- Reads the commands behind pipes. -/
def readPiped : Nat → Reading (List Command)
  | 0 => overlong
  | fuel + 1 => do
    if (← readToken fuel) == .pipe then
      want .commandBelow
      let command ← readCommand fuel
      return command :: (← readPiped fuel)
    putBack
    return []

/-- Reads the target of the last redirection. -/
def readTarget : Nat → Reading Redirection
  | 0 => overlong
  | fuel + 1 => do
    let (descriptor, kind) := (← get).redirection
    let trimsTabs := (← get).trimsTabs
    let isDocument := kind matches .document _
    if isDocument then modify fun input =>
      { input with wanted := { input.wanted with isMark := true } }
    if (← readToken fuel) != .word then unexpected
    let input ← get
    if isDocument then
      let number := input.documents.size
      let awaited : AwaitedDocument :=
        { number, mark := markText input.word, trimsTabs, isLiteral := input.wasQuoted }
      set { input with
        documents := input.documents.push []
        awaited := input.awaited ++ [awaited] }
      return .mk descriptor (.document number) []
    return .mk descriptor kind input.word

/-- Reads the redirections that follow. -/
def readRedirections : Nat → Reading (List Redirection)
  | 0 => overlong
  | fuel + 1 => do
    if (← readToken fuel) == .redirection then
      let redirection ← readTarget fuel
      return redirection :: (← readRedirections fuel)
    putBack
    return []

/-- Reads a command. -/
def readCommand : Nat → Reading Command
  | 0 => overlong
  | fuel + 1 => do
    let line := (← get).line
    let closed (token : Token) (command : Command) : Reading Command := do
      if (← readToken fuel) != token then expecting token
      finishCommand fuel line command
    match ← readToken fuel with
    | .reserved "if" => closed (.reserved "fi") (← readBranches fuel)
    | .reserved "while" => closed (.reserved "done") (← readLoop fuel false)
    | .reserved "until" => closed (.reserved "done") (← readLoop fuel true)
    | .reserved "for" => closed (.reserved "done") (← readEach fuel line)
    | .reserved "case" =>
      if (← readToken fuel) != .word then expecting .word
      let subject := (← get).word
      want .commandBelow
      if (← readToken fuel) != .reserved "in" then expecting (.reserved "in")
      finishCommand fuel line (.select line subject (← readCases fuel))
    | .opening => closed .closing (.subshell line (← readList fuel .block) [])
    | .reserved "\x7b" => closed (.reserved "\x7d") (← readList fuel .block)
    | .word | .redirection =>
      putBack
      readSimple fuel line {}
    | _ => unexpected

/-- Reads the redirections behind a compound command. -/
def finishCommand : Nat → Nat → Command → Reading Command
  | 0, _, _ => overlong
  | fuel + 1, line, command => do
    want .command
    let redirections ← readRedirections fuel
    if redirections.isEmpty then return command
    match command with
    | .subshell line body _ => return .subshell line body redirections
    | _ => return .redirected line command redirections

/-- Reads a condition with its branches, up to the closing word. -/
def readBranches : Nat → Reading Command
  | 0 => overlong
  | fuel + 1 => do
    let test ← readList fuel .block
    if (← readToken fuel) != .reserved "then" then expecting (.reserved "then")
    let yes ← readList fuel .block
    match ← readToken fuel with
    | .reserved "elif" => return .conditional test yes (some (← readBranches fuel))
    | .reserved "else" => return .conditional test yes (some (← readList fuel .block))
    | _ =>
      putBack
      return .conditional test yes none

/-- Reads a loop up to its closing word. -/
def readLoop : Nat → Bool → Reading Command
  | 0, _ => overlong
  | fuel + 1, untilSuccess => do
    let condition ← readList fuel .block
    if (← readToken fuel) != .reserved "do" then expecting (.reserved "do")
    return .loop untilSuccess condition (← readList fuel .block)

/-- Reads a loop over words up to its closing word. -/
def readEach : Nat → Nat → Reading Command
  | 0, _ => overlong
  | fuel + 1, line => do
    let token ← readToken fuel
    let input ← get
    let name := (plainText? input.word).getD []
    if token != .word || input.wasQuoted || !isName name then stop "Bad for loop variable"
    want .commandBelow
    let mut words : List (List Part) := [[.parameter ['@'] .value true]]
    if (← readToken fuel) == .reserved "in" then
      words ← readWords fuel
      let last := (← get).last
      if last != .line && last != .semicolon then unexpected
    else if (← get).last != .semicolon then putBack
    want .commandBelow
    if (← readToken fuel) != .reserved "do" then expecting (.reserved "do")
    return .each line name words (← readList fuel .block)

/-- Reads words up to another token. -/
def readWords : Nat → Reading (List (List Part))
  | 0 => overlong
  | fuel + 1 => do
    if (← readToken fuel) == .word then
      let word := (← get).word
      return word :: (← readWords fuel)
    return []

/-- Reads the cases of a choice and its closing word. -/
def readCases : Nat → Reading (List (List (List Part) × Command))
  | 0 => overlong
  | fuel + 1 => do
    want { skipsLines := true, reserved := true }
    let token ← readToken fuel
    if token == .reserved "esac" then return []
    if token == .opening then
      let _ ← readToken fuel
    let patterns ← readPatterns fuel
    if (← get).last != .closing then expecting .closing
    let body ← readList fuel .within
    want { skipsLines := true, reserved := true }
    match ← readToken fuel with
    | .reserved "esac" => return [(patterns, body)]
    | .caseEnd => return (patterns, body) :: (← readCases fuel)
    | _ => expecting .caseEnd

/-- Reads the patterns of a case; the last token is the first of them, and the token behind them
becomes the last one. -/
def readPatterns : Nat → Reading (List (List Part))
  | 0 => overlong
  | fuel + 1 => do
    let pattern := (← get).word
    if (← readToken fuel) == .pipe then
      let _ ← readToken fuel
      return pattern :: (← readPatterns fuel)
    return [pattern]

/-- Reads a simple command or the definition of a function. -/
def readSimple : Nat → Nat → SimplePieces → Reading Command
  | 0, _, _ => overlong
  | fuel + 1, line, pieces => do
    want { aliases := pieces.words.isEmpty }
    match ← readToken fuel with
    | .word =>
      let word := (← get).word
      if pieces.words.isEmpty && isAssignment word then
        readSimple fuel line { pieces with assignments := word :: pieces.assignments }
      else readSimple fuel line { pieces with words := word :: pieces.words }
    | .redirection =>
      let redirection ← readTarget fuel
      readSimple fuel line { pieces with redirections := redirection :: pieces.redirections }
    | token =>
      match token, pieces with
      | .opening, SimplePieces.mk [] [name] [] =>
        if (← readToken fuel) != .closing then expecting .closing
        let name := (plainText? name).getD []
        if !isName name || specialNames.contains (String.ofList name) then
          stop "Bad function name"
        want .commandBelow
        let line := (← get).line
        return .define line name (← readCommand fuel)
      | _, _ =>
        putBack
        return .simple line pieces.assignments.reverse pieces.words.reverse
          pieces.redirections.reverse

end

/-- What comes of reading the next complete command. -/
inductive Next where
  | fault (fault : ScriptFault)
  /-- The script is over. -/
  | finish
  /-- A command, with what is left; `isLast` where the script ends with the command itself. -/
  | command (command : Command) (input : Input) (isLast : Bool)

/-- Reads the next complete command of a script. -/
def readNext (input : Input) : Next :=
  let size := input.size + (input.aliases.flatMap (·.2)).length
  match (readList (16 * size + 64) .line).run { input with isPutBack := false, awaited := [] } with
  | .error fault => .fault fault
  | .ok (.nothing, after) =>
    if after.isPutBack && after.last == .finish then .finish
    else .command .nothing after false
  | .ok (command, after) => .command command after (after.isPutBack && after.last == .finish)

end PromptScript.Shell
