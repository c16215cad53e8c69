import PromptScript.Shell.Record.Value

/-!
# Tokens of record programs

A slash begins a pattern or divides, as the token before it says.  Where a line may go on after a
token the ends of lines behind it do not count.
-/

namespace PromptScript.Shell.Record

/-- What a token is. -/
inductive TokenKind where
  | number (value : Float) (text : Octets)
  | text (content : Octets)
  | pattern (source : Octets)
  | name (text : Octets)
  /-- A name with a parenthesis directly behind it. -/
  | caller (text : Octets)
  | keyword (text : String)
  /-- The name of a function of the language. -/
  | builtin (text : String)
  | sign (text : String)
  /-- The end of a statement before a closing brace. -/
  | implied
  | newline
  | finish
  /-- A text or a pattern that does not end, by its kind and its beginning. -/
  | runaway (kind : String) (lead : Octets)
  /-- A character that begins no token. -/
  | stray (c : Char)
  deriving Inhabited

/-- A token where it stands. -/
structure Token where
  kind : TokenKind
  line : Nat
  /-- The numbers of parentheses and braces that are open. -/
  parentheses : Nat := 0
  braces : Nat := 0
  /-- Messages about what stands before the token. -/
  complaints : List Octets := []
  deriving Inhabited

/-- How a token is told. -/
def TokenKind.shown : TokenKind → Octets
  | number _ content | text content | name content | caller content => content
  | pattern source => '/' :: source ++ ['/']
  | keyword word | builtin word | sign word => octets word
  | implied => ['\x7d']
  | newline => octets "end of line"
  | finish => octets "end of file"
  | runaway kind lead => octets ("runaway " ++ kind ++ " ") ++ lead ++ octets " ..."
  | stray c => octets "unexpected character '" ++ [c, '\'']

namespace Token

/-- The words of the language. -/
def keywords : List String :=
  ["BEGIN", "END", "function", "if", "else", "while", "for", "do", "break", "continue", "next",
    "nextfile", "exit", "return", "delete", "print", "printf", "getline", "in"]

/-- The names of the functions of the language. -/
def builtins : List String :=
  ["length", "index", "substr", "split", "sub", "gsub", "match", "sprintf", "sin", "cos", "atan2",
    "exp", "log", "sqrt", "int", "rand", "srand", "tolower", "toupper", "system", "close",
    "fflush", "systime"]

/-- The signs, the longer ones first. -/
def signs : List String :=
  ["&&", "||", "++", "--", "+=", "-=", "*=", "/=", "%=", "^=", "==", "<=", ">=", "!=", "!~", ">>",
    "\x7b", "\x7d", "(", ")", "[", "]", ";", ",", "+", "-", "*", "/", "%", "^", "!", ">", "<",
    "|", "?", ":", "~", "$", "="]

/-- Whether the ends of lines behind a token do not count. -/
def goesOn : TokenKind → Bool
  | .sign text => text ∈ ["&&", "||", ",", "\x7b", "\x7d", ";"]
  | .keyword text => text == "do" || text == "else"
  | .newline => true
  | _ => false

/-- Whether a slash behind a token divides. -/
def isOperand : TokenKind → Bool
  | .number _ _ | .text _ | .pattern _ | .name _ => true
  | .sign text => text ∈ [")", "]", "++", "--"]
  | .keyword text => text == "getline"
  | _ => false

/-- The text behind blanks, comments and, where that is asked for, ends of lines, and the number of
lines that were passed. -/
def skipBlank (passesLines : Bool) : Nat → Octets → Octets × Nat
  | 0, text => (text, 0)
  | fuel + 1, text =>
    match text with
    | '\\' :: '\n' :: rest =>
      let (after, lines) := skipBlank passesLines fuel rest
      (after, lines + 1)
    | '#' :: rest => skipBlank passesLines fuel (rest.dropWhile (· != '\n'))
    | '\n' :: rest =>
      if passesLines then
        let (after, lines) := skipBlank passesLines fuel rest
        (after, lines + 1)
      else (text, 0)
    | c :: rest =>
      if c == ' ' || c == '\t' || c == '\r' || c == '\x0b' || c == '\x0c' then
        skipBlank passesLines fuel rest
      else (text, 0)
    | [] => ([], 0)

/-- The inner text of a string up to its closing quote: none where it does not end. -/
def stringBody? : Octets → Option (Octets × Octets)
  | [] => none
  | '"' :: rest => some ([], rest)
  | '\n' :: _ => none
  | '\\' :: '\n' :: rest => stringBody? rest
  | '\\' :: c :: rest =>
    (stringBody? rest).map fun (body, after) => ('\\' :: c :: body, after)
  | c :: rest => (stringBody? rest).map fun (body, after) => (c :: body, after)

/-- The inner text of a pattern up to its closing slash: none where it does not end.  A slash within
brackets does not end it. -/
def patternBody? : Nat → (inBrackets : Bool) → Octets → Option (Octets × Octets)
  | 0, _, _ => none
  | fuel + 1, inBrackets, text =>
    let put (lead : Octets) (inBrackets : Bool) (rest : Octets) : Option (Octets × Octets) :=
      (patternBody? fuel inBrackets rest).map fun (body, after) => (lead ++ body, after)
    match text with
    | [] => none
    | '\n' :: _ => none
    | '\\' :: '/' :: rest => put ['/'] inBrackets rest
    | '\\' :: '\n' :: _ => none
    | '\\' :: c :: rest => put ['\\', c] inBrackets rest
    | '/' :: rest => if inBrackets then put ['/'] true rest else some ([], rest)
    | '[' :: rest =>
      if inBrackets then put ['['] true rest
      else
        let negation := rest.takeWhile (· == '^') |>.take 1
        let rest := rest.drop negation.length
        if rest.head? == some ']' then put ('[' :: negation ++ [']']) true (rest.drop 1)
        else put ('[' :: negation) true rest
    | ']' :: rest => put [']'] false rest
    | c :: rest => put [c] inBrackets rest

/-- A text with its escapes replaced; those without a meaning stay as they are. -/
def unescaped : Nat → Octets → Octets
  | 0, text => text
  | fuel + 1, text =>
    match text with
    | '\\' :: c :: rest =>
      let single? : Option Char := match c with
        | '"' => some '"'
        | '\\' => some '\\'
        | 'a' => some '\x07'
        | 'b' => some '\x08'
        | 'f' => some '\x0c'
        | 'n' => some '\n'
        | 'r' => some '\r'
        | 't' => some '\t'
        | 'v' => some '\x0b'
        | _ => none
      match single? with
      | some char => char :: unescaped fuel rest
      | none =>
        let octal := ((c :: rest).take 3).takeWhile (Integer.isDigitIn 8)
        let hexadecimal := (rest.take 2).takeWhile (Integer.isDigitIn 16)
        if !octal.isEmpty then
          Char.ofNat (Integer.ofDigits 8 octal % 256)
            :: unescaped fuel ((c :: rest).drop octal.length)
        else if c == 'x' && !hexadecimal.isEmpty then
          Char.ofNat (Integer.ofDigits 16 hexadecimal)
            :: unescaped fuel (rest.drop hexadecimal.length)
        else '\\' :: c :: unescaped fuel rest
    | c :: rest => c :: unescaped fuel rest
    | [] => []

/-- The text that stands for a text with escapes. -/
def withoutEscapes (text : Octets) : Octets :=
  unescaped (text.length + 1) text

/-- The number at the beginning of a text, and what follows it. -/
def number? (text : Octets) : Option (TokenKind × Octets) :=
  let begins := match text with
    | '.' :: c :: _ => c.isDigit
    | c :: _ => c.isDigit
    | [] => false
  if !begins then none
  else
    let (whole, fraction, rest) := Real.digits 10 text
    let (power, rest) := Real.exponent? ['e', 'E'] rest
    some (.number
      (Real.ofDecimal (Integer.ofDigits 10 (whole ++ fraction)) (power - fraction.length))
      (text.take (text.length - rest.length)), rest)

/-- The token at the beginning of a text that is not empty, and what follows it. -/
def read (isAfterOperand : Bool) (text : Octets) : TokenKind × Octets :=
  match text with
  | [] => (.finish, [])
  | '\n' :: rest => (.newline, rest)
  | '"' :: rest =>
    match stringBody? rest with
    | some (body, after) => (.text (withoutEscapes body), after)
    | none =>
      let shown := (rest.takeWhile (· != '\n')).take 10
      (.runaway "string constant" ('"' :: shown), [])
  | first :: rest =>
    if first == '/' && !isAfterOperand then
      match patternBody? (rest.length + 1) false rest with
      | some (body, after) => (.pattern body, after)
      | none =>
        let shown := (rest.takeWhile (· != '\n')).take 10
        (.runaway "regular expression" ('/' :: shown), [])
    else if startsName first then
      let name := leadingName text
      let after := text.drop name.length
      let word := String.ofList name
      if keywords.contains word then (.keyword word, after)
      else if builtins.contains word then (.builtin word, after)
      else if after.head? == some '(' then (.caller name, after)
      else (.name name, after)
    else
      match number? text with
      | some found => found
      | none =>
        match signs.find? fun sign => sign.toList.isPrefixOf text with
        | some sign => (.sign sign, text.drop sign.length)
        | none => (.stray first, rest)

/-- How far a text was read. -/
structure Lexing where
  rest : Octets
  line : Nat := 1
  last : TokenKind := .newline
  parentheses : Nat := 0
  braces : Nat := 0
  complaints : List Octets := []

/-- The tokens of a text. -/
def tokensFrom : Nat → Lexing → List Token
  | 0, lexing => [{ kind := .finish, line := lexing.line }]
  | fuel + 1, lexing =>
    let (text, passed) := skipBlank (goesOn lexing.last) (lexing.rest.length + 1) lexing.rest
    let line := lexing.line + passed
    let (kind, rest) := read (isOperand lexing.last) text
    let lines := line + (text.take (text.length - rest.length)).count '\n'
    let token (kind : TokenKind) : Token :=
      { kind, line, parentheses := lexing.parentheses, braces := lexing.braces
        complaints := lexing.complaints }
    let next := { lexing with rest, line := lines, last := kind, complaints := [] }
    let complain (message : String) (last : TokenKind) (rest : Octets) : List Token :=
      let told := octets s!"line {line}: {message}"
      tokensFrom fuel
        { lexing with
          rest, last, line := lines, complaints := lexing.complaints ++ [told] }
    match kind with
    | .finish => [token kind]
    | .runaway _ _ | .stray _ => [token kind]
    | .sign "(" => token kind :: tokensFrom fuel { next with parentheses := lexing.parentheses + 1 }
    | .sign ")" =>
      if lexing.parentheses = 0 then complain "extra ')'" lexing.last rest
      else token kind :: tokensFrom fuel { next with parentheses := lexing.parentheses - 1 }
    | .sign "\x7b" => token kind :: tokensFrom fuel { next with braces := lexing.braces + 1 }
    | .sign "\x7d" =>
      if lexing.braces = 0 then complain "extra '\x7d'" .implied (pastSemicolon rest)
      else
        let isEnded := match lexing.last with
          | .newline | .implied => true
          | .sign text => text == ";" || text == "\x7d"
          | _ => false
        if !isEnded then
          token .implied :: tokensFrom fuel
            { lexing with rest := text, line, last := .implied, complaints := [] }
        else
          let rest := if lexing.braces = 1 then pastSemicolon rest else rest
          token kind :: tokensFrom fuel { next with rest, braces := lexing.braces - 1 }
    | .keyword word =>
      let opens := word == "BEGIN" || word == "END" || word == "function"
      token kind :: tokensFrom fuel
        { next with braces := if opens then 0 else lexing.braces }
    | _ => token kind :: tokensFrom fuel next
where
  /-- The text behind one semicolon on the same line. -/
  pastSemicolon (text : Octets) : Octets :=
    let (after, _) := skipBlank false (text.length + 1) text
    match after with
    | ';' :: rest => rest
    | _ => text

/-- The tokens of a program. -/
def ofText (text : Octets) : List Token :=
  let whole := text ++ ['\n']
  tokensFrom (3 * whole.length + 3) { rest := whole }

end Token

end PromptScript.Shell.Record
