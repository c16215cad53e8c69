import PromptScript.Shell.Command

/-!
# Tokens of shell scripts

A script is read token by token.  A token that was read can be put back once; what is wanted next
decides whether line feeds count, and whether words are looked up as reserved words or aliases.
-/

namespace PromptScript.Shell

/-- Why a script cannot be read further. -/
structure ScriptFault where
  line : Nat
  message : String
  deriving DecidableEq, Repr

/-- A token.  The parts of a word are kept apart. -/
inductive Token where
  | finish
  | line
  | semicolon
  | background
  | both
  | either
  | pipe
  | opening
  | closing
  | caseEnd
  | redirection
  | word
  | reserved (name : String)
  deriving DecidableEq, Repr

namespace Token

/-- The reserved words. -/
def reservedWords : List String :=
  ["!", "case", "do", "done", "elif", "else", "esac", "fi", "for", "if", "in", "then", "until",
    "while", "\x7b", "\x7d"]

/-- How a token is named in complaints. -/
def shown : Token → String
  | finish => "end of file"
  | line => "newline"
  | semicolon => "\";\""
  | background => "\"&\""
  | both => "\"&&\""
  | either => "\"||\""
  | pipe => "\"|\""
  | opening => "\"(\""
  | closing => "\")\""
  | caseEnd => "\";;\""
  | redirection => "redirection"
  | word => "word"
  | reserved name => "\"" ++ name ++ "\""

/-- Whether a list of commands ends before a token. -/
def endsList : Token → Bool
  | finish | closing | caseEnd => true
  | reserved name =>
    ["do", "done", "elif", "else", "esac", "fi", "then", "\x7d"].contains name
  | _ => false

/-- Whether a token has the text of a word. -/
def isWordy : Token → Bool
  | word | reserved _ => true
  | _ => false

end Token

/-- How the next token is to be looked at. -/
structure Wanted where
  /-- Line feeds are skipped. -/
  skipsLines : Bool := false
  reserved : Bool := false
  aliases : Bool := false
  /-- The token is the mark of a here-document, in which nothing is put in. -/
  isMark : Bool := false

namespace Wanted

/-- All that either side wants. -/
def join (a b : Wanted) : Wanted :=
  ⟨a.skipsLines || b.skipsLines, a.reserved || b.reserved, a.aliases || b.aliases,
    a.isMark || b.isMark⟩

/-- Reserved words and aliases are looked up. -/
def command : Wanted := { reserved := true, aliases := true }

/-- Line feeds are skipped; reserved words and aliases are looked up. -/
def commandBelow : Wanted := { command with skipsLines := true }

end Wanted

/-- A here-document whose text follows at the end of the line. -/
structure AwaitedDocument where
  number : Nat
  mark : Octets
  trimsTabs : Bool
  /-- Whether its text is taken as it stands. -/
  isLiteral : Bool

/-- An alias whose text is being read: it ends where `left` characters are left. -/
structure AliasLayer where
  name : Octets
  left : Nat
  endsBlank : Bool

/-- What is left of a script, and what was read of it last. -/
structure Input where
  rest : Octets
  /-- The length of the whole text. -/
  size : Nat
  line : Nat := 1
  isPutBack : Bool := false
  last : Token := .line
  /-- The parts of the last word. -/
  word : List Part := []
  /-- Whether something in the last word was quoted. -/
  wasQuoted : Bool := false
  /-- The last redirection, without its target. -/
  redirection : Nat × RedirectionKind := (0, .input)
  trimsTabs : Bool := false
  wanted : Wanted := {}
  layers : List AliasLayer := []
  awaited : List AwaitedDocument := []
  documents : Array (List Part) := #[]
  aliases : List (Octets × Octets) := []

/-- A step of reading. -/
abbrev Reading (α : Type) := StateT Input (Except ScriptFault) α

namespace Reading

/-- Stops reading. -/
def stop {α : Type} (message : String) : Reading α := do
  throw ⟨(← get).line, "Syntax error: " ++ message⟩

/-- Stops where nothing more is followed. -/
def overlong {α : Type} : Reading α :=
  stop "command too long"

/-- Closes the aliases whose text is read. -/
def closeLayers : Reading Unit :=
  modify fun input =>
    match input.layers with
    | [] => input
    | layers =>
      let left := input.rest.length
      let (closed, opened) := layers.span fun layer => left ≤ layer.left
      if closed.isEmpty then input
      else
        { input with
          layers := opened
          wanted := { input.wanted with
            aliases := input.wanted.aliases || closed.any (·.endsBlank) } }

/-- Takes the next character as it stands. -/
def next? : Reading (Option Char) := do
  closeLayers
  let input ← get
  match input.rest with
  | [] => return none
  | c :: rest =>
    set { input with rest, line := if c == '\n' then input.line + 1 else input.line }
    return some c

/-- Takes the given number of characters. -/
def skip (count : Nat) : Reading Unit :=
  modify fun input =>
    { input with
      rest := input.rest.drop count
      line := input.line + (input.rest.take count).count '\n' }

/-- Joins the line to the next one where a backslash ends it. -/
def joinLines : Nat → Reading Unit
  | 0 => return
  | fuel + 1 => do
    match (← get).rest with
    | '\\' :: '\n' :: _ =>
      skip 2
      joinLines fuel
    | _ => return

/-- The next character, which is not taken. -/
def peek? : Reading (Option Char) := do
  match (← get).rest with
  | '\\' :: '\n' :: _ => joinLines (← get).rest.length
  | _ => pure ()
  return (← get).rest.head?

/-- Takes a character that may stand next. -/
def accept (c : Char) : Reading Bool := do
  if (← peek?) == some c then
    skip 1
    return true
  else return false

/-- Puts the last token back. -/
def putBack : Reading Unit :=
  modify fun input => { input with isPutBack := true }

/-- Says how the next token is to be looked at. -/
def want (wanted : Wanted) : Reading Unit :=
  modify fun input => { input with wanted }

/-- Stops at the last token. -/
def unexpected {α : Type} : Reading α := do
  stop ((← get).last.shown ++ " unexpected")

/-- Stops at the last token, where another one must stand. -/
def expecting {α : Type} (token : Token) : Reading α := do
  stop ((← get).last.shown ++ " unexpected (expecting " ++ token.shown ++ ")")

/-- Keeps a token as the last one. -/
def keep (token : Token) : Reading Token := do
  modify fun input => { input with last := token }
  return token

end Reading

/-! ## Words as they are written -/

/-- The text of a word in which nothing is quoted or put in. -/
def plainText? : List Part → Option Octets
  | [.text content false] => some content
  | _ => none

/-- The text of the mark of a here-document. -/
def markText (parts : List Part) : Octets :=
  parts.flatMap fun part =>
    match part with
    | .text content _ => content
    | _ => []

/-- Whether a word begins like an assignment. -/
def isAssignment (parts : List Part) : Bool :=
  match parts with
  | .text content false :: _ => (splitAssignment? content).isSome
  | _ => false

/-- Joins neighbouring texts of one kind. -/
def joinTexts : List Part → List Part
  | .text first quoted :: rest =>
    match joinTexts rest with
    | .text second false :: others =>
      if quoted then .text first quoted :: .text second false :: others
      else .text (first ++ second) false :: others
    | others => .text first quoted :: others
  | part :: rest => part :: joinTexts rest
  | [] => []

end PromptScript.Shell
