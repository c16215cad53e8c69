import PromptScript.Pattern.Regular.Reader
import PromptScript.Shell.Record.Program
import PromptScript.Shell.Record.Token

/-!
# Reading record programs

A mistake within a statement ends that statement; the statements behind it are read on, so that
several mistakes can be told.  A mistake that follows another one closely is not told.
-/

namespace PromptScript.Shell.Record

open Pattern (Regular)

/-- What a name is used for. -/
inductive NameKind where
  | unknown
  | scalar
  | list
  | function
  deriving DecidableEq, Repr

/-- A name among the arguments of a call, which may turn out to be a list. -/
structure PassedName where
  function : Nat
  position : Nat
  place : Place
  /-- The function in which the call stands. -/
  caller? : Option Nat

/-- How far a program was read. -/
structure Source where
  tokens : List Token
  names : Array Octets := (Place.reserved.map octets).toArray
  kinds : Array NameKind :=
    (Place.reserved.map fun name =>
      if name == "ENVIRON" || name == "ARGV" then NameKind.list else .scalar).toArray
  functions : Array Function := #[]
  /-- The functions that were defined. -/
  defined : List Nat := []
  /-- The function that is read, with its parameters. -/
  current? : Option Nat := none
  own : Array (Octets × NameKind) := #[]
  /-- The kinds of the parameters of the functions that were read. -/
  parameters : List (Nat × Array NameKind) := []
  passed : List PassedName := []
  /-- The calls with their numbers of arguments, and their lines. -/
  calls : List (Nat × Nat × Nat) := []
  loops : Nat := 0
  /-- Whether the statement belongs to a rule for records. -/
  isRule : Bool := false
  /-- The number of tokens up to which another mistake is not told. -/
  quiet : Nat := 0
  messages : List Octets := []

/-- Why reading stops. -/
inductive Stop where
  /-- The statement is wrong. -/
  | wrong
  /-- The program cannot be read on. -/
  | fatal

/-- A step of reading. -/
abbrev Reading (α : Type) := ExceptT Stop (StateM Source) α

namespace Reading

/-- Notes a message. -/
def tell (message : Octets) : Reading Unit :=
  modify fun source => { source with messages := source.messages ++ [message] }

/-- The token that comes next. -/
def token : Reading Token := do
  return (← get).tokens.headD { kind := .finish, line := 1 }

/-- What comes next. -/
def peek : Reading TokenKind := do
  return (← token).kind

/-- Notes a message about the line of the next token. -/
def tellHere (message : Octets) : Reading Unit := do
  tell (octets s!"line {(← token).line}: " ++ message)

/-- Notes what is told before the next token. -/
def notice : Reading Unit := do
  for message in (← token).complaints do
    tell message

/-- Goes on behind the next token. -/
def advance : Reading Unit := do
  modify fun source =>
    match source.tokens with
    | [last] => { source with tokens := [last] }
    | tokens => { source with tokens := tokens.drop 1, quiet := source.quiet - 1 }
  notice

/-- Refuses the next token. -/
def refuse {α : Type} : Reading α := do
  let found ← token
  let told (message : Octets) : Reading Unit := do
    if (← get).quiet = 0 then tellHere message
  let shown := found.kind.shown
  match found.kind with
  | .finish =>
    if found.braces ≠ 0 then tellHere (octets "missing \x7d near " ++ shown)
    else told (octets "syntax error at or near " ++ shown)
    throw .fatal
  | .runaway _ _ =>
    tellHere shown
    throw .fatal
  | .stray _ =>
    tell (decimal found.line ++ octets ": " ++ shown)
    throw .fatal
  | .newline | .implied | .sign ";" | .sign "\x7d" =>
    told ((if found.parentheses ≠ 0 then octets "missing ) near "
      else octets "syntax error at or near ") ++ shown)
  | .keyword "BEGIN" | .keyword "END" | .keyword "function" =>
    told ((if found.braces ≠ 0 then octets "missing \x7d near "
      else octets "syntax error at or near ") ++ shown)
  | .sign ">>" => told (octets "syntax error at or near >")
  | _ => told (octets "syntax error at or near " ++ shown)
  modify fun source => { source with quiet := 3 }
  throw .wrong

/-- Whether a sign comes next. -/
def isSign (text : String) : Reading Bool := do
  match ← peek with
  | .sign other => return other == text
  | _ => return false

/-- Takes a sign, which has to come next. -/
def takeSign (text : String) : Reading Unit := do
  if ← isSign text then advance else refuse

/-- Takes a sign where it comes next; whether it did. -/
def takeSign? (text : String) : Reading Bool := do
  if ← isSign text then
    advance
    return true
  else return false

/-- Takes the end of a line where it comes next. -/
def passLine : Reading Unit := do
  if (← peek) matches .newline then advance

/-! ## Names -/

/-- The kind of a place. -/
def kindOf (place : Place) : Reading NameKind := do
  let source ← get
  return match place with
    | .shared slot => (source.kinds[slot]?).getD .unknown
    | .own slot => ((source.own[slot]?).map (·.2)).getD .unknown

/-- The place of a name. -/
def placeOf (name : Octets) : Reading Place := do
  let source ← get
  match source.own.findIdx? fun entry => entry.1 == name with
  | some slot => return .own slot
  | none =>
    match source.names.findIdx? (· == name) with
    | some slot => return .shared slot
    | none =>
      set { source with
        names := source.names.push name, kinds := source.kinds.push .unknown }
      return .shared source.names.size

/-- Uses a name in a way, which has to be the way of its other uses. -/
def useAs (place : Place) (kind : NameKind) (name : Octets) : Reading Unit := do
  let before ← kindOf place
  if before = .unknown then
    modify fun source =>
      match place with
      | .shared slot => { source with kinds := source.kinds.set! slot kind }
      | .own slot => { source with own := source.own.modify slot fun entry => (entry.1, kind) }
  else if before ≠ kind then
    let lead := match place with
      | .shared _ => ""
      | .own _ => "local "
    let word := match before with
      | .list => "array "
      | .function => "function "
      | _ => "variable "
    tellHere (octets ("illegal reference to " ++ lead ++ word) ++ name)

/-- The name of a place. -/
def nameOf (place : Place) : Reading Octets := do
  let source ← get
  return match place with
    | .shared slot => (source.names[slot]?).getD []
    | .own slot => ((source.own[slot]?).map (·.1)).getD []

/-- Uses a place as a variable. -/
def useScalar (place : Place) : Reading Unit := do
  useAs place .scalar (← nameOf place)

/-- Uses a place as a list. -/
def useList (place : Place) : Reading Unit := do
  useAs place .list (← nameOf place)

/-- Whether a name is that of a function. -/
def isFunction (name : Octets) : Reading Bool := do
  let source ← get
  return source.functions.any fun function => function.name == name

/-- The number of a function. -/
def functionOf (name : Octets) : Reading Nat := do
  let source ← get
  match source.functions.findIdx? fun function => function.name == name with
  | some index => return index
  | none =>
    set { source with functions := source.functions.push { name } }
    return source.functions.size

/-- The functions of the language with the least and the greatest number of their arguments. -/
def builtins : List (String × Builtin × Nat × Nat) :=
  [("length", .length, 0, 1), ("index", .index, 2, 2), ("substr", .part, 2, 3),
    ("split", .split, 2, 3), ("sub", .substitute false, 2, 3), ("gsub", .substitute true, 2, 3),
    ("match", .matchPlace, 2, 2), ("sprintf", .format, 1, 1000), ("sin", .sine, 1, 1),
    ("cos", .cosine, 1, 1), ("atan2", .arctangent, 2, 2), ("exp", .exponential, 1, 1),
    ("log", .logarithm, 1, 1), ("sqrt", .root, 1, 1), ("int", .integer, 1, 1),
    ("rand", .random, 0, 0), ("srand", .seed, 0, 1), ("tolower", .lower, 1, 1),
    ("toupper", .upper, 1, 1), ("system", .run, 1, 1), ("close", .close, 1, 1),
    ("fflush", .flush, 0, 1), ("systime", .time, 0, 0)]

/-- Why a pattern cannot be read. -/
def patternFault : Regular.Fault → String
  | .unclosedGroup => "missing ')'"
  | .unclosedBracket | .emptyBracket | .badRange | .badClass | .badCollation | .misplacedClass =>
    "bad class -- [], [^] or ["
  | .nothingToRepeat => "missing operand"
  | .repeatedStart => "syntax error ^* or ^+"
  | _ => "resource exhaustion -- regular expression too long"

/-- The message about a pattern that cannot be read. -/
def patternMessage (fault : Regular.Fault) (source : Octets) : Octets :=
  octets s!"regular expression compile failed ({patternFault fault})\n" ++ source

/-- The expression of a pattern that stands in the program. -/
def readPattern (source : Octets) : Reading Regular := do
  match Regular.read .record source with
  | .ok expression => return expression
  | .error fault =>
    tellHere (patternMessage fault source)
    throw .fatal

/-- An expression where a pattern is wanted: a text stands for the pattern that it writes. -/
def asPattern (expression : Expr) : Reading Expr := do
  match expression with
  | .text source => return .pattern (← readPattern source)
  | _ => return expression

/-! ## Expressions -/

/-- An operand: something that can be assigned to, or another expression. -/
abbrev Operand := Target ⊕ Expr

/-- The value of an operand. -/
def settle (operand : Operand) : Reading Expr := do
  match operand with
  | .inl (.scalar place) =>
    useScalar place
    return .target (.scalar place)
  | .inl target => return .target target
  | .inr expr => return expr

/-- The calculation before the sign of an assignment. -/
def assignment? : TokenKind → Option (Option Calculation)
  | .sign "=" => some none
  | .sign "+=" => some (some .add)
  | .sign "-=" => some (some .subtract)
  | .sign "*=" => some (some .multiply)
  | .sign "/=" => some (some .divide)
  | .sign "%=" => some (some .remainder)
  | .sign "^=" => some (some .power)
  | _ => none

/-- The relation of a sign. -/
def relation? : TokenKind → Option Relation
  | .sign "<" => some .less
  | .sign "<=" => some .atMost
  | .sign "==" => some .equal
  | .sign "!=" => some .unequal
  | .sign ">" => some .greater
  | .sign ">=" => some .atLeast
  | _ => none

/-- The calculation of a sign, with how tightly it binds. -/
def calculation? : TokenKind → Option (Calculation × Nat)
  | .sign "+" => some (.add, 9)
  | .sign "-" => some (.subtract, 9)
  | .sign "*" => some (.multiply, 10)
  | .sign "/" => some (.divide, 10)
  | .sign "%" => some (.remainder, 10)
  | .sign "^" => some (.power, 13)
  | _ => none

/-- Whether a token begins an expression that can be joined to the one before it. -/
def beginsJoined : TokenKind → Bool
  | .number _ _ | .text _ | .pattern _ | .name _ | .caller _ | .builtin _ => true
  | .sign text => text ∈ ["(", "$", "!", "++", "--"]
  | .keyword text => text == "getline"
  | _ => false

/-- Whether a token ends a list of things to print. -/
def endsPrinting : TokenKind → Bool
  | .newline | .implied | .finish => true
  | .sign text => text ∈ [";", "\x7d", ">", ">>", "|"]
  | _ => false

/-- What follows the parenthesis that closes the one before the tokens. -/
def behindClosing : Nat → List Token → TokenKind
  | _, [] => .finish
  | depth, token :: rest =>
    match token.kind with
    | .sign "(" => behindClosing (depth + 1) rest
    | .sign ")" =>
      if depth = 0 then (rest.headD { kind := .finish, line := 0 }).kind
      else behindClosing (depth - 1) rest
    | _ => behindClosing depth rest

mutual

/-- Reads an expression whose signs bind at least as tightly as `least`.  Within a list of things
to print a greater sign names an output. -/
def expr : Nat → (isPrinted : Bool) → (least : Nat) → Reading Expr
  | 0, _, _ => refuse
  | fuel + 1, isPrinted, least => do
    let first ← operand fuel true
    match first, assignment? (← peek) with
    | .inl target, some change? =>
      if least ≤ 7 then
        if let .scalar place := target then useScalar place
        advance
        return .assign target change? (← expr fuel isPrinted 1)
      else climb fuel isPrinted least (← settle first)
    | _, _ => climb fuel isPrinted least (← settle first)

/-- Reads what is joined to an expression by signs. -/
def climb : Nat → (isPrinted : Bool) → (least : Nat) → Expr → Reading Expr
  | 0, _, _, _ => refuse
  | fuel + 1, isPrinted, least, left => do
    let kind ← peek
    let operator (level next : Nat) (make : Expr → Expr) : Reading Expr := do
      if level < least then return left
      advance
      climb fuel isPrinted least (make (← expr fuel isPrinted next))
    let matching (isNegated : Bool) : Reading Expr := do
      if 5 < least then return left
      advance
      let pattern ← asPattern (← expr fuel isPrinted 6)
      climb fuel isPrinted least (.matching isNegated left pattern)
    match kind with
    | .sign "?" =>
      if 1 < least then return left
      advance
      let yes ← expr fuel isPrinted 1
      takeSign ":"
      return .choose left yes (← expr fuel isPrinted 1)
    | .sign "||" => operator 2 3 (.either left)
    | .sign "&&" => operator 3 4 (.both left)
    | .keyword "in" =>
      if 4 < least then return left
      advance
      climb fuel isPrinted least (.contains [left] (← list))
    | .sign "~" => matching false
    | .sign "!~" => matching true
    | .sign "|" =>
      if isPrinted || 12 < least then return left
      advance
      if !((← peek) matches .keyword "getline") then refuse
      advance
      let target? ← fetched? fuel
      climb fuel isPrinted least (.fetch (.command left) target?)
    | _ =>
      match relation? kind, calculation? kind with
      | some relation, _ =>
        if isPrinted && relation = .greater then return left
        operator 6 7 (.relate relation left)
      | none, some (calculation, level) =>
        operator level (if calculation = .power then level else level + 1)
          (.calculate calculation left)
      | none, none =>
        if beginsJoined kind && least ≤ 7 then
          climb fuel isPrinted least (.join left (← expr fuel isPrinted 8))
        else return left

/-- Reads an operand. -/
def operand : Nat → (countsBehind : Bool) → Reading Operand
  | 0, _ => refuse
  | fuel + 1, countsBehind => do
    let behind (target : Target) : Reading Operand := do
      if !countsBehind then return .inl target
      let step (isUp : Bool) : Reading Operand := do
        advance
        if let .scalar place := target then useScalar place
        return .inr (.step target isUp false)
      match ← peek with
      | .sign "++" => step true
      | .sign "--" => step false
      | _ => return .inl target
    let before (isUp : Bool) : Reading Operand := do
      advance
      match ← operand fuel false with
      | .inl target =>
        if let .scalar place := target then useScalar place
        return .inr (.step target isUp true)
      | .inr _ => refuse
    match ← peek with
    | .number value _ =>
      advance
      return .inr (.number value)
    | .text content =>
      advance
      return .inr (.text content)
    | .pattern source =>
      let expression ← readPattern source
      advance
      return .inr (.pattern expression)
    | .sign "-" =>
      advance
      return .inr (.negative (← expr fuel false 11))
    | .sign "+" =>
      advance
      return .inr (.positive (← expr fuel false 11))
    | .sign "!" =>
      advance
      return .inr (.not (← expr fuel false 11))
    | .sign "++" => before true
    | .sign "--" => before false
    | .sign "$" =>
      advance
      let index ← operand fuel false
      behind (.field (← settle index))
    | .sign "(" =>
      advance
      let keys ← expressions fuel false
      takeSign ")"
      match keys with
      | [body] => return .inr body
      | _ =>
        if !((← peek) matches .keyword "in") then refuse
        advance
        return .inr (.contains keys (← list))
    | .keyword "getline" =>
      advance
      let target? ← fetched? fuel
      if ← takeSign? "<" then
        return .inr (.fetch (.file (← expr fuel false 13)) target?)
      else return .inr (.fetch .main target?)
    | .builtin name =>
      advance
      return .inr (← builtin fuel name)
    | .caller name =>
      let place? := (← get).own.findIdx? fun entry => entry.1 == name
      let isKnown := (← get).names.contains name
      advance
      if place?.isSome || isKnown then behind (.scalar (← placeOf name))
      else return .inr (← call fuel name)
    | .name name =>
      advance
      let isOwn := (← get).own.any fun entry => entry.1 == name
      if !isOwn && (← isFunction name) then
        return .inr (← call fuel name)
      let place ← placeOf name
      if ← takeSign? "[" then
        let keys ← expressions fuel false
        takeSign "]"
        useList place
        behind (.element place keys)
      else behind (.scalar place)
    | _ => refuse

/-- Reads what a record is read into, where something is named. -/
def fetched? : Nat → Reading (Option Target)
  | 0 => return none
  | fuel + 1 => do
    let takes ← match ← peek with
      | .sign "$" => pure true
      | .name name =>
        let isOwn := (← get).own.any fun entry => entry.1 == name
        pure (isOwn || !(← isFunction name))
      | _ => pure false
    if !takes then return none
    match ← operand fuel false with
    | .inl target =>
      if let .scalar place := target then useScalar place
      return some target
    | .inr _ => refuse

/-- Reads expressions between commas. -/
def expressions : Nat → (isPrinted : Bool) → Reading (List Expr)
  | 0, _ => refuse
  | fuel + 1, isPrinted => do
    let first ← expr fuel isPrinted 1
    if ← takeSign? "," then return first :: (← expressions fuel isPrinted)
    else return [first]

/-- Reads the name of a list. -/
def list : Reading Place := do
  match ← peek with
  | .name name | .caller name =>
    advance
    let place ← placeOf name
    useList place
    return place
  | _ => refuse

/-- Reads arguments up to the closing parenthesis, no more than `most`.  A name that stands alone
may be a list. -/
def arguments : Nat → (most : Nat) → Reading (List Expr)
  | 0, _ => refuse
  | fuel + 1, most => do
    if ← takeSign? ")" then return []
    let source ← get
    let isAlone := match source.tokens with
      | { kind := .name _, .. } :: { kind := .sign text, .. } :: _ => text == "," || text == ")"
      | _ => false
    let first ← match isAlone, ← peek with
      | true, .name name =>
        let isOwn := source.own.any fun entry => entry.1 == name
        if !isOwn && (← isFunction name) then expr fuel false 1
        else
          advance
          pure (.target (.scalar (← placeOf name)))
      | _, _ => expr fuel false 1
    let isMore ← if 1 < most then takeSign? "," else pure false
    if isMore then
      if ← isSign ")" then refuse
      return first :: (← arguments fuel (most - 1))
    else
      takeSign ")"
      return [first]

/-- Reads the call of a function of the language, behind its name. -/
def builtin : Nat → String → Reading Expr
  | 0, _ => refuse
  | fuel + 1, name => do
    match builtins.lookup name with
    | none => refuse
    | some (builtin, least, most) =>
      if builtin = .length && !(← isSign "(") then return .builtin .length []
      takeSign "("
      let given ← arguments fuel (if builtin = .length then 1 else 1000000)
      if given.length < least || most < given.length then
        tellHere (octets ("wrong number of arguments in call to " ++ name))
      let mut place := 0
      for argument in given do
        if let .target (.scalar slot) := argument then
          if builtin = .split && place = 1 then useList slot
          else if builtin ≠ .length then useScalar slot
        place := place + 1
      let given ← match builtin, given with
        | .matchPlace, [content, pattern] => do pure [content, ← asPattern pattern]
        | .substitute _, pattern :: rest => do pure ((← asPattern pattern) :: rest)
        | .split, [content, list, .text source] => do
          if 1 < source.length then pure [content, list, .pattern (← readPattern source)]
          else pure given
        | _, _ => pure given
      return .builtin builtin given

/-- Reads the call of a function of the program, behind its name. -/
def call : Nat → Octets → Reading Expr
  | 0, _ => refuse
  | fuel + 1, name => do
    let line := (← token).line
    takeSign "("
    let function ← functionOf name
    let given ← arguments fuel 1000000
    let source ← get
    let passed := (given.zipIdx.filterMap fun (argument, position) =>
      match argument with
      | .target (.scalar place) => some ⟨function, position, place, source.current?⟩
      | _ => none)
    set { source with
      passed := source.passed ++ passed
      calls := source.calls ++ [(function, given.length, line)] }
    return .call function given

end

/-! ## Statements -/

/-- Takes the end of a statement. -/
def finishStatement : Reading Unit := do
  match ← peek with
  | .newline | .implied | .sign ";" => advance
  | _ => refuse

/-- Passes what is left of a wrong statement. -/
def recover : Nat → Reading Unit
  | 0 => return
  | fuel + 1 => do
    match ← peek with
    | .newline | .implied | .sign ";" => advance
    | .finish | .sign "\x7d" => return
    | .runaway _ _ | .stray _ => refuse
    | _ =>
      advance
      recover fuel

/-- Tells that a statement stands where it has no meaning. -/
def misplaced (isRight : Source → Bool) (message : String) : Reading Unit := do
  if !isRight (← get) then tellHere (octets message)

/-- Reads where a statement prints to. -/
def output? (fuel : Nat) : Reading (Option (Way × Expr)) := do
  let way? : Option Way := match ← peek with
    | .sign ">" => some .replace
    | .sign ">>" => some .append
    | .sign "|" => some .command
    | _ => none
  match way? with
  | none => return none
  | some way =>
    advance
    return some (way, ← expr fuel false 1)

/-- Reads the things to print. -/
def printed (fuel : Nat) : Reading (List Expr) := do
  let source ← get
  if endsPrinting (← peek) then return []
  else if (← isSign "(") && endsPrinting (behindClosing 0 (source.tokens.drop 1)) then
    advance
    if ← takeSign? ")" then return []
    let things ← expressions fuel false
    takeSign ")"
    return things
  else expressions fuel true

mutual

/-- Reads a block behind its opening brace. -/
def statements : Nat → Reading (List Statement)
  | 0 => refuse
  | fuel + 1 => do
    if ← takeSign? "\x7d" then return []
    if (← peek) matches .finish then refuse
    let first ← tryCatch (statement fuel) fun
      | .fatal => throw .fatal
      | .wrong => do
        recover ((← get).tokens.length + 1)
        return .block []
    return first :: (← statements fuel)

/-- Reads a statement. -/
def statement : Nat → Reading Statement
  | 0 => refuse
  | fuel + 1 => do
    let ended (made : Statement) : Reading Statement := do
      finishStatement
      return made
    let isEnd : Reading Bool := do
      return (← peek) matches .newline | .implied | .sign ";"
    match ← peek with
    | .sign "\x7b" =>
      advance
      return .block (← statements fuel)
    | .newline | .implied | .sign ";" =>
      advance
      return .block []
    | .keyword "if" =>
      advance
      takeSign "("
      let condition ← expr fuel false 1
      takeSign ")"
      passLine
      let yes ← statement fuel
      if (← peek) matches .keyword "else" then
        advance
        return .conditional condition yes (some (← statement fuel))
      else return .conditional condition yes none
    | .keyword "while" =>
      advance
      takeSign "("
      let condition ← expr fuel false 1
      takeSign ")"
      passLine
      return .loop true (some condition) none (← looped fuel)
    | .keyword "do" =>
      advance
      let body ← looped fuel
      if !((← peek) matches .keyword "while") then refuse
      advance
      takeSign "("
      let condition ← expr fuel false 1
      takeSign ")"
      ended (.loop false (some condition) none body)
    | .keyword "for" =>
      advance
      takeSign "("
      let visited? := match (← get).tokens with
        | { kind := .name name, .. } :: { kind := .keyword "in", .. }
          :: { kind := .name list, .. } :: { kind := .sign ")", .. } :: _ => some (name, list)
        | _ => none
      match visited? with
      | some (name, _) =>
        advance
        advance
        let place ← placeOf name
        useScalar place
        let list ← list
        takeSign ")"
        passLine
        return .visit place list (← looped fuel)
      | none =>
        let part (isLast : Bool) : Reading (Option Expr) := do
          let isNone ← isSign (if isLast then ")" else ";")
          let body? ← if isNone then pure none else some <$> expr fuel false 1
          takeSign (if isLast then ")" else ";")
          return body?
        let start? ← part false
        let condition? ← part false
        let step? ← part true
        passLine
        let loop : Statement := .loop true condition? step? (← looped fuel)
        return match start? with
          | some start => .block [.expression start, loop]
          | none => loop
    | .keyword "break" =>
      misplaced (fun source => source.loops ≠ 0) "break statement outside of loop"
      advance
      ended .break
    | .keyword "continue" =>
      misplaced (fun source => source.loops ≠ 0) "continue statement outside of loop"
      advance
      ended .continue
    | .keyword "next" =>
      misplaced (·.isRule) "improper use of next"
      advance
      ended .next
    | .keyword "nextfile" =>
      misplaced (·.isRule) "improper use of nextfile"
      advance
      ended .nextFile
    | .keyword "exit" =>
      advance
      ended (.exit (← if ← isEnd then pure none else some <$> expr fuel false 1))
    | .keyword "return" =>
      misplaced (·.current?.isSome) "return outside function body"
      advance
      ended (.return (← if ← isEnd then pure none else some <$> expr fuel false 1))
    | .keyword "delete" =>
      advance
      let place ← list
      if ← takeSign? "[" then
        let keys ← expressions fuel false
        takeSign "]"
        ended (.delete place keys)
      else ended (.clear place)
    | .keyword "print" =>
      advance
      let things ← printed fuel
      ended (.print things (← output? fuel))
    | .keyword "printf" =>
      advance
      let things ← printed fuel
      let output? ← output? fuel
      if things.isEmpty then tellHere (octets "no arguments in call to printf")
      ended (.format things output?)
    | _ =>
      let body ← expr fuel false 1
      ended (.expression body)

/-- Reads the body of a loop. -/
def looped : Nat → Reading Statement
  | 0 => refuse
  | fuel + 1 => do
    modify fun source => { source with loops := source.loops + 1 }
    let body ← statement fuel
    modify fun source => { source with loops := source.loops - 1 }
    return body

end

/-- Reads the block of a rule or a function. -/
def body (fuel : Nat) (isRule : Bool) : Reading Statement := do
  takeSign "\x7b"
  modify fun source => { source with isRule, loops := 0 }
  return .block (← statements fuel)

/-- Reads the names of parameters up to the closing parenthesis. -/
def parameters : Nat → List Octets → Reading (List Octets)
  | 0, _ => refuse
  | fuel + 1, before => do
    match ← peek with
    | .name name =>
      advance
      if before.contains name then tellHere (name ++ octets " is duplicated in argument list")
      let names := before ++ [name]
      if ← takeSign? "," then parameters fuel names
      else
        takeSign ")"
        return names
    | _ => refuse

/-- Reads a function behind its keyword. -/
def function (fuel : Nat) : Reading Unit := do
  let name ← match ← peek with
    | .name name | .caller name => pure name
    | _ => refuse
  let source ← get
  match source.names.findIdx? (· == name) with
  | some slot =>
    let kind := match source.kinds[slot]? with
      | some .list => "array "
      | _ => "variable "
    tellHere (octets ("illegal reference to " ++ kind) ++ name)
  | none => pure ()
  let index ← functionOf name
  if (← get).defined.contains index then tellHere (octets "redefinition of " ++ name)
  advance
  takeSign "("
  let names ← if ← takeSign? ")" then pure [] else parameters fuel []
  if names.contains name then tellHere (octets "function parameter cannot be the function")
  passLine
  modify fun source =>
    { source with
      current? := some index
      defined := index :: source.defined
      own := (names.map fun name => (name, NameKind.unknown)).toArray }
  let made ← body fuel false
  modify fun source =>
    { source with
      functions := source.functions.modify index fun function =>
        { function with parameters := names.map fun _ => false, body? := some made }
      parameters := (index, source.own.map (·.2)) :: source.parameters
      current? := none
      own := #[] }

/-- Passes what is left of a wrong rule, up to its block. -/
def recoverRule : Nat → Reading Unit
  | 0 => return
  | fuel + 1 => do
    match ← peek with
    | .finish => throw .fatal
    | .runaway _ _ | .stray _ => refuse
    | .sign "\x7b" =>
      let _ ← body ((← get).tokens.length * 8 + 100) true
    | _ =>
      advance
      recoverRule fuel

/-- Reads a rule and adds it to the program. -/
def rule (fuel : Nat) (program : Program) : Reading Program := do
  match ← peek with
  | .keyword "BEGIN" =>
    advance
    return { program with starts := program.starts ++ [← body fuel false] }
  | .keyword "END" =>
    advance
    return { program with ends := program.ends ++ [← body fuel false] }
  | .keyword "function" =>
    advance
    function fuel
    return program
  | kind =>
    let condition ← match kind with
      | .sign "\x7b" => pure .always
      | _ => do
        let first ← expr fuel false 1
        if ← takeSign? "," then pure (.range first (← expr fuel false 1))
        else pure (.holds first)
    let action? ← if ← isSign "\x7b" then some <$> body fuel true
      else do
        finishStatement
        pure none
    return { program with rules := program.rules ++ [{ condition, action? }] }

/-- Reads the rules of a program. -/
def rules : Nat → Program → Reading Program
  | 0, program => return program
  | fuel + 1, program => do
    if (← peek) matches .finish then return program
    let size := (← get).tokens.length * 8 + 100
    let next ← tryCatch (rule size program) fun
      | .fatal => throw .fatal
      | .wrong => do
        recoverRule size
        return program
    rules fuel next

end Reading

/-- The kinds of parameters and names after one more look at the names that are passed. -/
def spreadLists (passed : List PassedName) (parameters : List (Nat × Array NameKind))
    (kinds : Array NameKind) : List (Nat × Array NameKind) × Array NameKind :=
  passed.foldl (fun (parameters, kinds) name =>
    let wanted := ((parameters.lookup name.function).bind (·[name.position]?)).getD .unknown
    if wanted ≠ .list then (parameters, kinds)
    else
      match name.place, name.caller? with
      | .shared slot, _ => (parameters, kinds.set! slot .list)
      | .own slot, some caller =>
        (parameters.map fun entry =>
          if entry.1 = caller then (entry.1, entry.2.set! slot .list) else entry, kinds)
      | .own _, none => (parameters, kinds)) (parameters, kinds)

/-- Looks at the names that are passed as often as that can tell something new. -/
def spreadAll (passed : List PassedName) : Nat → List (Nat × Array NameKind) →
    Array NameKind → List (Nat × Array NameKind) × Array NameKind
  | 0, parameters, kinds => (parameters, kinds)
  | rounds + 1, parameters, kinds =>
    let (parameters, kinds) := spreadLists passed parameters kinds
    spreadAll passed rounds parameters kinds

/-- A program that was read, and for every shared place whether it is a list. -/
structure ReadProgram where
  program : Program
  lists : Array Bool

/-- Reads a program; the mistakes are messages. -/
def readProgram (text : Octets) : Except (List Octets) ReadProgram :=
  let tokens := Token.ofText text
  let final := (tokens.getLast?.map (·.line)).getD 1
  let step : Reading Program := do
    Reading.notice
    Reading.rules (tokens.length + 1) {}
  let (result, source) := step.run.run { tokens }
  let unknown := source.functions.toList.zipIdx.filterMap fun (function, index) =>
    if source.defined.contains index then none
    else some (octets s!"line {final}: function " ++ function.name ++ octets " never defined")
  let crowded := source.calls.filterMap fun (function, count, line) =>
    match source.functions[function]? with
    | some entry =>
      if source.defined.contains function && entry.parameters.length < count then
        some (octets s!"line {line}: too many arguments in call to " ++ entry.name)
      else none
    | none => none
  let messages := source.messages ++
    if source.messages.isEmpty then crowded ++ unknown else []
  match result, messages with
  | .ok program, [] =>
    let (parameters, kinds) :=
      spreadAll source.passed (source.passed.length + 1) source.parameters source.kinds
    let functions := source.functions.mapIdx fun index function =>
      match parameters.lookup index with
      | some found => { function with parameters := found.toList.map (· == .list) }
      | none => function
    .ok {
      program := { program with functions, names := source.names }
      lists := kinds.map (· == .list) }
  | _, messages => .error (messages.take 5)

end PromptScript.Shell.Record
