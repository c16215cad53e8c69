import PromptScript.Text.Utf8

/-!
# Commands of shell scripts

The commands of the portable shell language, as they are read.  Shell texts are texts of bytes:
every character of such a text stands for the byte with its code.
-/

namespace PromptScript.Shell

/-- A text of bytes, whose characters all lie below 256. -/
abbrev Octets := List Char

/-- The text of some bytes. -/
def ofBytes (bytes : Text.Bytes) : Octets :=
  bytes.map fun byte => Char.ofNat byte.toNat

/-- The bytes of a text. -/
def toBytes (text : Octets) : Text.Bytes :=
  text.map fun c => UInt8.ofNat c.toNat

/-- The bytes of a string, in UTF-8. -/
def octets (text : String) : Octets :=
  ofBytes (Text.toBytes text)

/-- The string that a text of bytes writes, with the replacement character for broken runs. -/
def display (text : Octets) : String :=
  Text.ofBytesLenient (toBytes text)

/-- The digits of a number. -/
def decimal (number : Nat) : Octets :=
  (toString number).toList

/-- How a redirection opens its target. -/
inductive RedirectionKind where
  | input
  | output
  /-- The target is emptied even where files are protected. -/
  | overwrite
  | append
  | update
  /-- The descriptor becomes another name of the target, which is a descriptor. -/
  | duplicate
  /-- The text to read is a here-document, which is known by its number. -/
  | document (number : Nat)
  deriving DecidableEq, Repr

mutual

/-- A part of a word. -/
inductive Part where
  | text (content : Octets) (quoted : Bool)
  | parameter (name : Octets) (treatment : Treatment) (quoted : Bool)
  /-- The output of a command. -/
  | output (body : Command) (quoted : Bool)
  /-- The value of an arithmetic expression. -/
  | sum (expression : List Part) (quoted : Bool)

/-- What is done with the value of a parameter.  A parameter counts as missing where it is not
set and, for some treatments, also where it is empty. -/
inductive Treatment where
  | value
  | length
  | fallback (orEmpty : Bool) (word : List Part)
  | assign (orEmpty : Bool) (word : List Part)
  | demand (orEmpty : Bool) (word : List Part)
  | replace (orEmpty : Bool) (word : List Part)
  | trimStart (longest : Bool) (pattern : List Part)
  | trimEnd (longest : Bool) (pattern : List Part)
  /-- What stands in the braces has no meaning. -/
  | unknown

/-- The change of one descriptor of a command. -/
inductive Redirection where
  | mk (descriptor : Nat) (kind : RedirectionKind) (target : List Part)

/-- A command. -/
inductive Command where
  /-- No command, as between a pattern and the end of its case. -/
  | nothing
  | simple (line : Nat) (assignments : List (List Part)) (words : List (List Part))
      (redirections : List Redirection)
  /-- Commands joined by pipes. -/
  | pipe (commands : List Command) (background : Bool)
  /-- A compound command with redirections. -/
  | redirected (line : Nat) (body : Command) (redirections : List Redirection)
  | background (line : Nat) (body : Command) (redirections : List Redirection)
  | subshell (line : Nat) (body : Command) (redirections : List Redirection)
  /-- The second command runs only after a success of the first one. -/
  | both (first second : Command)
  /-- The second command runs only after a failure of the first one. -/
  | either (first second : Command)
  | sequence (first second : Command)
  | conditional (test yes : Command) (no : Option Command)
  /-- A loop that goes on while its condition succeeds, or until it does. -/
  | loop (untilSuccess : Bool) (condition body : Command)
  | each (line : Nat) (name : Octets) (words : List (List Part)) (body : Command)
  | select (line : Nat) (subject : List Part) (cases : List (List (List Part) × Command))
  | define (line : Nat) (name : Octets) (body : Command)
  /-- A command whose status is turned around. -/
  | not (body : Command)

end

instance : Inhabited Command := ⟨.nothing⟩

/-- Whether a character can begin the name of a variable. -/
def startsName (c : Char) : Bool :=
  c.isAlpha || c == '_'

/-- Whether a character can stand in the name of a variable. -/
def continuesName (c : Char) : Bool :=
  c.isAlphanum || c == '_'

/-- The name of a variable at the beginning of a text. -/
def leadingName (text : Octets) : Octets :=
  match text with
  | first :: _ => if startsName first then text.takeWhile continuesName else []
  | [] => []

/-- Whether a text can name a variable. -/
def isName (text : Octets) : Bool :=
  !text.isEmpty && leadingName text == text

/-- Splits an assignment at its equals sign: none where the text is no assignment. -/
def splitAssignment? (text : Octets) : Option (Octets × Octets) :=
  let name := leadingName text
  match text.drop name.length with
  | '=' :: value => if name.isEmpty then none else some (name, value)
  | _ => none

end PromptScript.Shell
