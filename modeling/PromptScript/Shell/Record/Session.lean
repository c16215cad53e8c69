import PromptScript.Pattern.Regular.Reader
import PromptScript.Shell.Record.Collection
import PromptScript.Shell.Record.Reader
import PromptScript.Shell.Record.Value
import PromptScript.Shell.Tool.Basic

/-!
# The state of a record program

Variables, lists, the present record with its fields, and the texts that are read and written.  The
record and its fields always agree, and so does the number of fields.  Texts are split into
records, and records into fields.
-/

namespace PromptScript.Shell.Record

open Pattern (Regular)

/-! ## Splitting texts -/

/-- What separates the parts of a text. -/
inductive Separator where
  /-- Any blanks; those at the ends do not count. -/
  | blanks
  /-- Nothing, so that every character is a part. -/
  | nothing
  | char (c : Char)
  | pattern (expression : Regular)

namespace Separator

/-- The separator that a text stands for: a single character stands for itself. -/
def ofText (text : Octets) : Except Regular.Fault Separator :=
  match text with
  | [' '] => .ok blanks
  | [] => .ok nothing
  | [c] => .ok (char c)
  | _ => (Regular.read .record text).map pattern

/-- The parts of a text between blanks. -/
def words (text : Octets) : List Octets :=
  (text.splitBy fun a b => isBlank a == isBlank b).filter fun run => !run.any isBlank

/-- The first match that is not empty, from a place on: where it begins and ends. -/
def firstMatch? (expression : Regular) (text : Array Char) : Nat → Nat → Option (Nat × Nat)
  | 0, _ => none
  | fuel + 1, place =>
    match Regular.search? expression { text } place with
    | none => none
    | some (start, reached) =>
      if start < reached.place then some (start, reached.place)
      else if text.size ≤ start then none
      else firstMatch? expression text fuel (start + 1)

/-- The parts of a text between matches that are not empty. -/
def partsBetween (expression : Regular) (text : Array Char) : Nat → Nat → List Octets
  | 0, place => [(text.extract place text.size).toList]
  | fuel + 1, place =>
    match firstMatch? expression text (text.size + 1) place with
    | none => [(text.extract place text.size).toList]
    | some (start, finish) =>
      (text.extract place start).toList :: partsBetween expression text fuel finish

/-- The parts of a text. -/
def split (separator : Separator) (text : Octets) : List Octets :=
  if text.isEmpty then []
  else
    match separator with
    | blanks => words text
    | nothing => text.map fun c => [c]
    | char c => Lines.pieces c text
    | pattern expression => partsBetween expression text.toArray (text.length + 1) 0

end Separator

/-- What separates records. -/
inductive RecordEnd where
  | char (c : Char)
  /-- Empty lines. -/
  | paragraph
  | pattern (expression : Regular)

namespace RecordEnd

/-- What a text stands for as a separator of records. -/
def ofText (text : Octets) : Except Regular.Fault RecordEnd :=
  match text with
  | [] => .ok paragraph
  | [c] => .ok (char c)
  | _ => (Regular.read .record text).map pattern

/-- The lines of a paragraph, and what follows it. -/
def paragraphLines : Octets → Octets × Octets
  | [] => ([], [])
  | '\n' :: rest =>
    match rest with
    | [] => ([], [])
    | '\n' :: _ => ([], rest.dropWhile (· == '\n'))
    | _ =>
      let (lines, after) := paragraphLines rest
      ('\n' :: lines, after)
  | c :: rest =>
    let (lines, after) := paragraphLines rest
    (c :: lines, after)

/-- The first record of a text, and what follows it: none where the text is over. -/
def next? (separator : RecordEnd) (text : Octets) : Option (Octets × Octets) :=
  match separator with
  | char c =>
    if text.isEmpty then none
    else
      let record := text.takeWhile (· != c)
      some (record, text.drop (record.length + 1))
  | paragraph =>
    let body := text.dropWhile (· == '\n')
    if body.isEmpty then none else some (paragraphLines body)
  | pattern expression =>
    if text.isEmpty then none
    else
      let whole := text.toArray
      match Separator.firstMatch? expression whole (whole.size + 1) 0 with
      | none => some (text, [])
      | some (start, finish) => some (text.take start, text.drop finish)

end RecordEnd

/-! ## States -/

/-- A variable of a running function: a value, or one of the lists. -/
inductive Own where
  | value (value : Value)
  | list (index : Nat)
  deriving Inhabited

/-- A text that is read record by record. -/
structure Incoming where
  name : Octets
  isCommand : Bool
  rest : Octets
  /-- How the command ended. -/
  status : Nat := 0

/-- A file or a command that is written to. -/
structure Outgoing where
  name : Octets
  way : Way
  /-- What was not passed on yet, the last part first. -/
  pending : List Octets := []

/-- What does not change while a program runs. -/
structure Setting where
  program : Program
  /-- For every shared place whether it is a list. -/
  lists : Array Bool
  start : Starter

/-- The greatest number of variables of functions that are running. -/
def heldLimit : Nat := 1006

/-- The number of steps that the work on one record can take. -/
def stepLimit : Nat := 4000000

/-- The state of a running program. -/
structure Session where
  globals : Array Value
  lists : Array Collection
  own : Array Own := #[]
  record : Value := .unset
  fields : Array Value := #[]
  /-- What is left of the present text, where one is open. -/
  main? : Option Octets := none
  /-- The number of the next argument. -/
  argument : Nat := 1
  /-- Whether a text was opened. -/
  hasRead : Bool := false
  /-- Whether there are no more texts. -/
  isOver : Bool := false
  incoming : List Incoming := []
  /-- The outputs, the last used one first. -/
  outgoing : List Outgoing := []
  /-- The output that was not written yet, the last part first. -/
  pending : List Octets := []
  /-- For every rule whether its range has begun. -/
  ranges : Array Bool := #[]
  status : Nat := 0
  seed : Nat := 0
  /-- The number of variables of the functions that are running. -/
  held : Nat := 0
  /-- The number of steps that are left for the present record. -/
  steps : Nat := stepLimit

/-- Why a statement does not end as usual. -/
inductive Jump where
  | next
  | nextFile
  | exit
  | return (value : Value)
  | break
  | continue
  /-- The program cannot go on. -/
  | stop

/-- A step of a running program. -/
abbrev Running (α : Type) := ExceptT Jump (StateT Session Action) α

namespace Running

/-- Lets the shell act. -/
def act {α : Type} (step : Action α) : Running α := do
  let result ← (liftM step : StateT Session Action α)
  return result

/-! ## Variables -/

/-- The value of a shared place. -/
def shared (slot : Nat) : Running Value := do
  return ((← get).globals[slot]?).getD .unset

/-- Sets a shared place, as far as that place alone is concerned. -/
def setShared (slot : Nat) (value : Value) : Running Unit :=
  modify fun session => { session with globals := session.globals.set! slot value }

/-- The format of numbers that become texts. -/
def numberFormat : Running Octets := do
  return (← shared Place.numberFormat).toText (octets "%.6g")

/-- The text of a value. -/
def textOf (value : Value) : Running Octets := do
  match value with
  | .number _ => return value.toText (← numberFormat)
  | _ => return value.toText []

/-- The text of a shared place. -/
def sharedText (slot : Nat) : Running Octets := do
  textOf (← shared slot)

/-! ## Output -/

/-- Writes the output that was not written yet. -/
def flushOutput : Running Unit := do
  let text := (← get).pending.reverse.flatten
  modify fun session => { session with pending := [] }
  act (Action.print text)

/-- Ends the program with a message. -/
def abort {α : Type} (message : Octets) : Running α := do
  act (Tool.complain message)
  modify fun session => { session with status := 2 }
  throw .stop

/-- Ends the program because of what it does. -/
def fail {α : Type} (message : Octets) : Running α := do
  let name ← sharedText Place.fileName
  let fileCount ← sharedText Place.fileRecordCount
  let count ← sharedText Place.recordCount
  abort (octets "run time error: " ++ message ++ octets "\n\tFILENAME=\"" ++ name
    ++ octets "\" FNR=" ++ fileCount ++ octets " NR=" ++ count)

/-- The expression of a pattern that is a text. -/
def expressionOf (source : Octets) : Running Pattern.Regular := do
  match Pattern.Regular.read .record source with
  | .ok expression => return expression
  | .error fault => fail (Reading.patternMessage fault source)

/-- The number by which a program's end is told. -/
def statusOf (result : Except FileError ExitStatus) : Nat :=
  match result with
  | .ok (.code status) => status
  | .ok (.signal signal) => 256 + signal
  | .error _ => 127

/-- The words that run a command. -/
def commandWords (command : Octets) : List Octets :=
  [octets "/bin/sh", octets "-c", command]

/-- Runs a command that reads a text. -/
def feed (setting : Setting) (command text : Octets) : Running Nat := do
  let before ← act get
  let index := before.world.channels.size
  act (set ((before.openChannel { unread := text }).connect 0 (.channel index)))
  let result ← act (setting.start (commandWords command))
  act (modify fun shell => { shell with handles := before.handles })
  return statusOf result

/-- Passes on what was written to a file. -/
def flushFile (outgoing : Outgoing) : Running Outgoing := do
  if outgoing.way = .command then return outgoing
  let text := outgoing.pending.reverse.flatten
  if !text.isEmpty then
    let _ ← act (Tool.writeFile outgoing.name true text)
  return { outgoing with pending := [] }

/-- Passes on everything that was written. -/
def flushAll : Running Unit := do
  flushOutput
  let flushed ← (← get).outgoing.mapM flushFile
  modify fun session => { session with outgoing := flushed }

/-- The name of the standard output. -/
def standardOutput : Octets := octets "/dev/stdout"

/-- Ends an output. -/
def finishOutgoing (setting : Setting) (outgoing : Outgoing) : Running Nat := do
  if outgoing.way = .command then feed setting outgoing.name outgoing.pending.reverse.flatten
  else
    if outgoing.name == standardOutput then flushOutput
    let _ ← flushFile outgoing
    return 0

/-- Ends all outputs. -/
def finishAll (setting : Setting) : Running Unit := do
  let outgoing := (← get).outgoing
  modify fun session => { session with outgoing := [] }
  for output in outgoing do
    let _ ← finishOutgoing setting output
  flushOutput

/-- Writes a text to the output, or to where a statement says. -/
def emit (text : Octets) (output? : Option (Way × Octets)) : Running Unit := do
  let write : Running Unit := modify fun session =>
    { session with pending := text :: session.pending }
  match output? with
  | none => write
  | some (way, name) =>
    if way ≠ .command && (name == standardOutput || name == ['-']) then
      write
      modify fun session =>
        { session with
          outgoing := ⟨standardOutput, .replace, []⟩
            :: session.outgoing.filter fun entry => entry.name != standardOutput }
    else if way ≠ .command && name == octets "/dev/stderr" then act (Action.complain text)
    else
      let session ← get
      match session.outgoing.find? fun entry => entry.name == name && entry.way = way with
      | some found =>
        let others := session.outgoing.filter fun entry => entry.name != name || entry.way ≠ way
        set { session with
          outgoing := { found with pending := text :: found.pending } :: others }
      | none =>
        if way = .command then flushOutput
        else
          if let .error cause ← act (Tool.writeFile name (way = .append) []) then
            abort (octets "cannot open \"" ++ name ++ octets "\" for output ("
              ++ octets (reasonOf cause ++ ")"))
        modify fun session =>
          { session with outgoing := ⟨name, way, [text]⟩ :: session.outgoing }

/-! ## Records and fields -/

/-- Splits a text into fields. -/
def fieldsOf (separator text : Octets) : Running (Array Value) := do
  match Separator.ofText separator with
  | .ok found => return ((found.split text).map Value.input).toArray
  | .error fault => fail (Reading.patternMessage fault separator)

/-- Makes a value the present record. -/
def setRecord (value : Value) : Running Unit := do
  let fields ← fieldsOf (← sharedText Place.fieldSeparator) (← textOf value)
  modify fun session => { session with record := value, fields }
  setShared Place.fieldCount (.ofNat fields.size)

/-- Writes the record anew from its fields. -/
def joinFields : Running Unit := do
  let separator ← sharedText Place.outputSeparator
  let texts ← (← get).fields.toList.mapM textOf
  modify fun session => { session with record := .input (separator.intercalate texts) }

/-- Gives the record a number of fields. -/
def setFieldCount (count : Nat) : Running Unit := do
  modify fun session =>
    { session with
      fields := session.fields.take count
        ++ Array.replicate (count - session.fields.size) (.input []) }
  setShared Place.fieldCount (.ofNat count)

/-- The greatest number of a field. -/
def maxField : Nat := 1048576

/-- The number of a field. -/
def fieldIndex (value : Value) : Running Nat := do
  let index := truncated value.toNumber
  if index < 0 then fail (octets "negative field index $" ++ Integer.text index)
  return min maxField index.toNat

/-- Assigns to a shared place. -/
def assignShared (slot : Nat) (value : Value) : Running Unit := do
  if slot = Place.fieldCount then
    let count := truncated value.toNumber
    if count < 0 then fail (octets "negative value assigned to NF")
    setFieldCount (min maxField count.toNat)
    joinFields
    setShared slot value
  else setShared slot value

/-- Assigns to a field. -/
def assignField (index : Nat) (value : Value) : Running Unit := do
  if index = 0 then setRecord value
  else
    if (← get).fields.size < index then setFieldCount index
    modify fun session => { session with fields := session.fields.set! (index - 1) value }
    joinFields

/-! ## Input -/

/-- Splits the first record off a text. -/
def nextOf (text : Octets) : Running (Option (Octets × Octets)) := do
  let separator ← sharedText Place.recordSeparator
  match RecordEnd.ofText separator with
  | .ok found => return found.next? text
  | .error fault => fail (Reading.patternMessage fault separator)

/-- Assigns a text with escapes to a variable by its name. -/
def assignNamed (setting : Setting) (name value : Octets) : Running Unit := do
  match setting.program.names.findIdx? (· == name) with
  | some slot => assignShared slot (.input (Token.withoutEscapes value))
  | none => return

/-- Begins a text with a name. -/
def openMain (name : Octets) : Running Unit := do
  match ← act (Tool.readFile name) with
  | .ok text =>
    modify fun session => { session with main? := some text, hasRead := true }
    setShared Place.fileName (.text name)
    setShared Place.fileRecordCount (.number 0.0)
  | .error .isDirectory => abort (octets "read error (Is a directory)")
  | .error cause =>
    abort (octets "cannot open \"" ++ name ++ octets ("\" (" ++ reasonOf cause ++ ")"))

/-- Goes on to the next argument; whether there is a text. -/
def nextArgument (setting : Setting) : Nat → Running Bool
  | 0 => return false
  | fuel + 1 => do
    let session ← get
    let count := (truncated (← shared Place.argumentCount).toNumber).toNat
    if session.argument < count then
      set { session with argument := session.argument + 1 }
      let arguments := (session.lists[Place.arguments]?).getD {}
      match arguments.get? (decimal session.argument) with
      | none => nextArgument setting fuel
      | some value =>
        let operand ← textOf value
        if operand.isEmpty then nextArgument setting fuel
        else
          match splitAssignment? operand with
          | some (name, text) =>
            assignNamed setting name text
            nextArgument setting fuel
          | none =>
            openMain operand
            return true
    else if session.hasRead then
      set { session with isOver := true }
      return false
    else
      openMain ['-']
      return true

/-- The next record of the texts that are named by the arguments. -/
def nextMain (setting : Setting) : Nat → Running (Option Octets)
  | 0 => return none
  | fuel + 1 => do
    let session ← get
    if session.isOver then return none
    match session.main? with
    | some text =>
      match ← nextOf text with
      | some (record, rest) =>
        modify fun session => { session with main? := some rest }
        for slot in [Place.recordCount, Place.fileRecordCount] do
          setShared slot (.number ((← shared slot).toNumber + 1.0))
        return some record
      | none =>
        modify fun session => { session with main? := none }
        nextMain setting fuel
    | none =>
      if ← nextArgument setting (session.argument + 100000) then nextMain setting fuel
      else return none

/-- The text that is read from a file or a command, which is opened if it is not open yet. -/
def incomingOf (setting : Setting) (isCommand : Bool) (name : Octets) :
    Running (Option Incoming) := do
  let found? := (← get).incoming.find? fun entry =>
    entry.name == name && entry.isCommand == isCommand
  match found? with
  | some found => return some found
  | none =>
    if isCommand then
      flushOutput
      let (rest, result) ← act (Tool.outputOf setting.start (commandWords name) none)
      return some { name, isCommand, rest, status := statusOf result }
    else
      match ← act (Tool.readFile name) with
      | .ok rest => return some { name, isCommand, rest }
      | .error _ => return none

/-- The next record of a file or a command; the result is negative for one that cannot be read. -/
def nextIncoming (setting : Setting) (isCommand : Bool) (name : Octets) :
    Running (Option (Option Octets)) := do
  match ← incomingOf setting isCommand name with
  | none => return none
  | some incoming =>
    let record? ← nextOf incoming.rest
    let rest := (record?.map (·.2)).getD []
    modify fun session =>
      { session with
        incoming := { incoming with rest } :: session.incoming.filter fun entry =>
          entry.name != name || entry.isCommand != isCommand }
    return some (record?.map (·.1))

/-- Closes what has a name; the result tells how its command ended. -/
def close (setting : Setting) (name : Octets) : Running Int := do
  let session ← get
  let outgoing := session.outgoing.filter fun entry => entry.name == name
  let incoming := session.incoming.filter fun entry => entry.name == name
  set { session with
    outgoing := session.outgoing.filter fun entry => entry.name != name
    incoming := session.incoming.filter fun entry => entry.name != name }
  let mut status : Int := -1
  for entry in outgoing do
    status := (← finishOutgoing setting entry : Nat)
  for entry in incoming do
    status := entry.status
  return status

end Running

end PromptScript.Shell.Record
