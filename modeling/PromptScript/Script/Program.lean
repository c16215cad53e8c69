import PromptScript.Text.Basic
import PromptScript.Script.Statement

/-!
# Programs

A program is the list of statements of a script.  Lines without a keyword join the payload of the
statement before them, and a program that does not end by halting is completed so that it runs
the conversation, prints the reply and halts.
-/

/-!
## Source lines

The lines of a script, classified: a line whose text up to the first space is a keyword begins a
statement, and every other line continues one.  Lines of blanks only are left out.
-/

namespace PromptScript

/-- A source line that is not blank. -/
structure Line where
  /-- The number of the line, counted from one. -/
  number : Nat
  /-- The number of bytes before the line. -/
  offset : Nat
  /-- The kind that the line's keyword introduces; none on a line that continues a statement. -/
  kind : Option StatementKind
  /-- The text behind the keyword, or the whole text of a continuing line, without trailing
  blanks. -/
  payload : String
  /-- The number of bytes of the line without its terminator. -/
  length : Nat
  deriving DecidableEq, Repr

namespace Line

/-- The line without the carriage return that stands at its end. -/
def dropReturn (line : List Char) : List Char :=
  if line.getLast? = some '\r' then line.dropLast else line

/-- The kind and payload of a line's text. -/
def classify (text : List Char) : Option StatementKind × List Char :=
  let (head, rest) := (Text.cutAt? ' ' text).getD (text, [])
  match StatementKind.ofKeyword? (String.ofList head) with
  | some kind => (some kind, Text.dropLeading rest)
  | none => (none, text)

/-- The line of the given number and offset, unless it is blank. -/
def ofPhysical? (number offset : Nat) (physical : List Char) : Option Line :=
  let raw := dropReturn physical
  let text := Text.dropTrailing raw
  if text.isEmpty then none
  else
    let (kind, payload) := classify text
    some ⟨number, offset, kind, String.ofList payload, Text.byteLength raw⟩

/-- The lines that are not blank among physical lines, the first of which has the given number
and offset. -/
def ofPhysicalLines (number offset : Nat) : List (List Char) → List Line
  | [] => []
  | physical :: rest =>
    let later := ofPhysicalLines (number + 1) (offset + Text.byteLength physical + 1) rest
    match ofPhysical? number offset physical with
    | some line => line :: later
    | none => later

/-- The lines of a script that are not blank, in order.  A line feed ends a line, with or without
a carriage return before it. -/
def ofSource (source : String) : List Line :=
  ofPhysicalLines 1 0 (Text.splitAt '\n' source.toList)

end Line

/-! ## Programs -/

/-- A line that continues no statement. -/
inductive DanglingCause where
  /-- The script begins with the line. -/
  | noStatement
  /-- The statement before the line takes no further text. -/
  | after (kind : StatementKind) (line : Nat)
  deriving DecidableEq, Repr

/-- The first line that cannot be read, with its place in the source. -/
structure ParseError where
  line : Nat
  offset : Nat
  length : Nat
  cause : DanglingCause
  deriving DecidableEq, Repr

/-- What is wrong with the line. -/
def ParseError.reason (error : ParseError) : String :=
  match error.cause with
  | .noStatement => "dangling continuation: text before the first statement"
  | .after kind line =>
    "dangling continuation: text cannot follow a '" ++ kind.keyword ++ "' statement (line "
      ++ toString line ++ ")"

/-- The full text of the error. -/
def ParseError.message (error : ParseError) : String :=
  "parse error at line " ++ toString error.line ++ ": " ++ error.reason

namespace Program

/-- The payload that prints the reply to the last request. -/
def lastResponsePayload : String := "<<last_response>>"

/-- Appends a continuation line to a statement's payload. -/
def extend (statement : Statement) (text : String) : Statement :=
  if statement.payload.isEmpty then { statement with payload := text }
  else { statement with payload := statement.payload ++ "\n" ++ text }

/-- Reads the lines that follow an open statement: the statements that they complete or
introduce, in order. -/
def ofLinesAfter (current : Statement) : List Line → Except ParseError (List Statement)
  | [] => .ok [current]
  | line :: rest =>
    match line.kind with
    | some kind => (ofLinesAfter ⟨line.number, kind, line.payload⟩ rest).map (current :: ·)
    | none =>
      if current.kind.acceptsContinuation then ofLinesAfter (extend current line.payload) rest
      else .error ⟨line.number, line.offset, line.length, .after current.kind current.line⟩

/-- The statements that the lines of a script introduce. -/
def ofLines : List Line → Except ParseError (List Statement)
  | [] => .ok []
  | line :: rest =>
    match line.kind with
    | some kind => ofLinesAfter ⟨line.number, kind, line.payload⟩ rest
    | none => .error ⟨line.number, line.offset, line.length, .noStatement⟩

/-- What is to be added behind a last statement of the given kind so that the program runs the
conversation, prints the reply and halts. -/
def completion (last : Option StatementKind) : List Statement :=
  let ending := [.synthesized .emitOutput lastResponsePayload, .synthesized .halt ""]
  match last with
  | some .halt => []
  | some .exec => ending
  | _ => .synthesized .exec "" :: ending

/-- Adds the completion to a list of statements. -/
def complete (statements : List Statement) : List Statement :=
  statements ++ completion (statements.getLast?.map (·.kind))

/-- The program of a script's text. -/
def parse (source : String) : Except ParseError (List Statement) :=
  (ofLines (Line.ofSource source)).map complete

/-- The program of one further user turn.  The message is taken verbatim apart from trailing
blanks; no line of it is read as a keyword. -/
def ofFollowUp (message : String) : List Statement :=
  complete [.synthesized .userMessage (Text.trimEnd message)]

end Program

end PromptScript
