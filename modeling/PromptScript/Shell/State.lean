import PromptScript.Files.Tree
import PromptScript.Process.Basic
import PromptScript.Shell.Integer

/-!
# The state of a shell

What belongs to all processes is kept apart from what belongs to one: the file tree, the time and
the channels through which texts flow are the world of the processes; variables, functions, traps
and open files belong to a shell.  The first three channels are the standard input, the standard
output and the standard error of the process that was started first.
-/

/-!
## Signals

The names and numbers of signals, and what they do to a process that does not catch them.
-/

namespace PromptScript.Shell.Signal

/-- The number by which scripts call the end of the shell as if it were a signal. -/
def ending : Nat := 0

/-- The name of a signal without its beginning. -/
def name? (number : Nat) : Option String :=
  if number = ending then some "EXIT"
  else (ExitStatus.signalNames.lookup number).map fun name => String.ofList (name.toList.drop 3)

/-- How a list of traps or signals shows a number. -/
def shown (number : Nat) : Octets :=
  match name? number with
  | some name => name.toList
  | none =>
    if number = 34 then "RTMIN".toList
    else if 34 < number ∧ number ≤ 49 then "RTMIN+".toList ++ decimal (number - 34)
    else if 49 < number ∧ number < 64 then "RTMAX-".toList ++ decimal (64 - number)
    else if number = 64 then "RTMAX".toList
    else decimal number

/-- The number that a text calls a signal by: its number or its name. -/
def ofText? (text : Octets) : Option Nat :=
  match Integer.count? text with
  | some number => if number ≤ 64 then some number else none
  | none =>
    (List.range 65).find? fun number => shown number == text.map Char.toUpper

/-- What a signal does to a process that does not catch it. -/
inductive Effect where
  | none
  | stop
  | kill
  deriving DecidableEq, Repr

/-- What a signal does to a process that does not catch it. -/
def effect (number : Nat) : Effect :=
  if number ∈ [0, 17, 18, 23, 28] then .none
  else if number ∈ [19, 20, 21, 22] then .stop
  else .kill

/-- Whether a signal can be caught. -/
def isCatchable (number : Nat) : Bool :=
  number != 9 && number != 19

/-- The wordings of deaths by signals. -/
def descriptions : List (Nat × String) :=
  [(1, "Hangup"), (2, "Interrupt"), (3, "Quit"), (4, "Illegal instruction"),
    (5, "Trace/breakpoint trap"), (6, "Aborted"), (7, "Bus error"),
    (8, "Floating point exception"), (9, "Killed"), (10, "User defined signal 1"),
    (11, "Segmentation fault"), (12, "User defined signal 2"), (13, "Broken pipe"),
    (14, "Alarm clock"), (15, "Terminated"), (16, "Stack fault"),
    (24, "CPU time limit exceeded"), (25, "File size limit exceeded"),
    (26, "Virtual timer expired"), (27, "Profiling timer expired"), (29, "I/O possible"),
    (30, "Power failure"), (31, "Bad system call")]

/-- The wording of the death by a signal. -/
def description (number : Nat) : String :=
  match descriptions.lookup number with
  | some text => text
  | none =>
    if number < 34 then "Unknown signal " ++ toString number
    else "Real-time signal " ++ toString (number - 34)

end PromptScript.Shell.Signal

namespace PromptScript.Shell

/-- A text that was written at one time. -/
structure Chunk where
  time : Nat
  /-- The process in the background that wrote it. -/
  writer : Option Nat
  text : Octets
  deriving Inhabited

/-- A text that is written at one end and read at the other. -/
structure Channel where
  unread : Octets
  /-- The time at which the whole text can be read. -/
  complete : Nat := 0
  /-- Whether more text would follow for ever. -/
  isEndless : Bool := false
  /-- Whether a reader can go back to the place where it stops. -/
  isSeekable : Bool := false
  /-- What was written, the last first. -/
  written : List Chunk := []
  deriving Inhabited

namespace Channel

/-- What was written, in the order of time. -/
def text (channel : Channel) : Octets :=
  (channel.written.reverse.mergeSort fun a b => a.time ≤ b.time).flatMap (·.text)

end Channel

/-- Where a descriptor leads. -/
inductive Handle where
  | channel (index : Nat)
  | file (location : Location)
  /-- A device that is always empty and takes everything. -/
  | nothing
  /-- A device that gives bytes for ever, for which zeros stand, and takes everything. -/
  | zeros
  /-- A device that gives zeros for ever and takes nothing. -/
  | full
  deriving DecidableEq

/-- A variable.  It can be marked without having a value. -/
structure Variable where
  value? : Option Octets
  /-- Whether commands see it. -/
  isExported : Bool := false
  /-- Whether it cannot be changed. -/
  isFixed : Bool := false

/-- A function of a script. -/
structure ShellFunction where
  line : Nat
  body : Command

/-- A process in the background. -/
structure Job where
  process : Nat
  ending : Nat
  result : ExitStatus
  /-- Whether its end was noticed. -/
  isSeen : Bool := false

/-- A signal on its way to a process. -/
structure SentSignal where
  time : Nat
  target : Nat
  number : Nat
  deriving DecidableEq

/-- What all processes share. -/
structure World where
  tree : FileTree
  channels : Array Channel
  /-- The time that passed, in milliseconds. -/
  elapsed : Nat := 0
  /-- The time after which the first process is stopped, in milliseconds. -/
  limit : Nat
  /-- The effort that the processes made, about the number of characters that were moved. -/
  effort : Nat := 0
  /-- The number of the next process. -/
  nextProcess : Nat := 4243
  /-- Signals that were sent and did not arrive yet. -/
  sent : List SentSignal := []
  /-- Whether the process that ran out of time holds the output of the first process. -/
  isHeld : Bool := false
  /-- The processes in the background that hold the output of the first process, with the times
  when they end. -/
  holders : List (Nat × Nat) := []

/-- The state of a shell. -/
structure Machine where
  world : World
  handles : List (Nat × Handle)
  /-- The name of the shell in its messages. -/
  name : Octets
  /-- The name of the command in whose name messages are written. -/
  speaker : Option Octets := none
  arguments : List Octets := []
  bindings : List (Octets × Variable) := []
  functions : List (Octets × ShellFunction) := []
  aliases : List (Octets × Octets) := []
  /-- The texts of here-documents, by their numbers. -/
  documents : Array (List Part) := #[]
  status : Nat := 0
  /-- The status of the last command whose output was put into a word. -/
  captured : Nat := 0
  /-- The variables that running functions made their own, with what they were before; the
  innermost function comes first. -/
  hidden : List (List (Octets × Option Variable)) := []
  /-- The line of the running command. -/
  line : Nat := 0
  /-- The letters of the options that are on. -/
  options : List Char := []
  /-- The actions for signals. -/
  traps : List (Nat × Octets) := []
  /-- The signals that arrived and were not acted on yet. -/
  arrived : List Nat := []
  /-- The status that an exit without a number gives while a trap runs. -/
  trapStatus : Option Nat := none
  /-- The number by which scripts call the shell. -/
  number : Nat := 4242
  /-- The number of the process, which differs from that of the shell in its copies. -/
  process : Nat := 4242
  parent : Nat := 4241
  jobs : List Job := []
  /-- The last process that was put into the background. -/
  background : Option Nat := none
  /-- The names of programs that were found. -/
  tracked : List Octets := []
  /-- The number of functions that are running. -/
  nesting : Nat := 0
  /-- The number of loops that are running. -/
  loops : Nat := 0
  /-- Whether a process in the background runs, and which. -/
  writer : Option Nat := none
  /-- Whether the end of an endless text was wanted. -/
  isStuck : Bool := false
  /-- Whether something could not be written. -/
  hasFailedWrite : Bool := false
  /-- The rights that new files do not get. -/
  mask : Nat := 0o022
  /-- The place within a group of options that is read next. -/
  optionPlace : Nat := 0

/-- Why commands stop before their end. -/
inductive Leave where
  | exit (status : Nat)
  /-- A mistake that ends the shell unless a command of its own made it. -/
  | mistake (status : Nat)
  | return (status : Nat)
  | break (levels : Nat)
  | continue (levels : Nat)
  | killed (signal : Nat)
  /-- The time is over. -/
  | expired
  /-- The commands would run for ever. -/
  | endless
  deriving DecidableEq

/-- A step of a shell. -/
abbrev Action (α : Type) := ExceptT Leave (StateM Machine) α

/-- The places from which the standard programs are started. -/
def searchPath : Octets :=
  "/usr/local/sbin:/usr/local/bin:/usr/sbin:/usr/bin:/sbin:/bin".toList

/-- The characters that separate fields unless a script says otherwise. -/
def blankSeparators : Octets := [' ', '\t', '\n']

namespace Machine

/-- The file tree. -/
def tree (shell : Machine) : FileTree :=
  shell.world.tree

/-- Puts another file tree in place. -/
def withTree (shell : Machine) (tree : FileTree) : Machine :=
  { shell with world := { shell.world with tree } }

/-- Forgets efforts that others need not wait for. -/
def withEffort (shell : Machine) (effort : Nat) : Machine :=
  { shell with world := { shell.world with effort } }

/-- The value of a variable. -/
def get? (shell : Machine) (name : Octets) : Option Octets :=
  (shell.bindings.lookup name).bind (·.value?)

/-- Sets a variable, whatever it was. -/
def bind (shell : Machine) (name : Octets) (entry : Variable) : Machine :=
  { shell with
    bindings := (name, entry) :: shell.bindings.filter fun entry => entry.1 != name }

/-- Takes a variable away. -/
def forget (shell : Machine) (name : Octets) : Machine :=
  { shell with bindings := shell.bindings.filter fun entry => entry.1 != name }

/-- Whether an option is on. -/
def isOn (shell : Machine) (letter : Char) : Bool :=
  shell.options.contains letter

/-- Adds a channel with a text to read; its number is the old number of channels. -/
def openChannel (shell : Machine) (channel : Channel) : Machine :=
  { shell with world := { shell.world with channels := shell.world.channels.push channel } }

/-- Takes the last channel away where it has the given number. -/
def forgetChannel (shell : Machine) (index : Nat) : Machine :=
  if shell.world.channels.size = index + 1 then
    { shell with world := { shell.world with channels := shell.world.channels.pop } }
  else shell

/-- Sets where a descriptor leads. -/
def connect (shell : Machine) (descriptor : Nat) (handle : Handle) : Machine :=
  { shell with
    handles := (descriptor, handle) :: shell.handles.filter fun entry => entry.1 != descriptor }

/-- Closes a descriptor. -/
def close (shell : Machine) (descriptor : Nat) : Machine :=
  { shell with handles := shell.handles.filter fun entry => entry.1 != descriptor }

/-- The channel of a number. -/
def channel (shell : Machine) (index : Nat) : Channel :=
  (shell.world.channels[index]?).getD { unread := [] }

/-- What was written to a channel. -/
def writtenTo (shell : Machine) (index : Nat) : Octets :=
  (shell.channel index).text

/-- Changes a channel. -/
def changeChannel (shell : Machine) (index : Nat) (change : Channel → Channel) : Machine :=
  { shell with
    world := { shell.world with channels := shell.world.channels.modify index change } }

/-- Adds text to a file. -/
def extendFile (tree : FileTree) (location : Location) (text : Octets) : FileTree :=
  match tree.get? location with
  | some (.file file) =>
    tree.put location (.file ⟨file.content ++ toBytes text, file.executable, tree.clock⟩)
  | _ => tree

/-- Writes to a descriptor. -/
def write (shell : Machine) (descriptor : Nat) (text : Octets) : Machine :=
  if text.isEmpty then shell
  else
    match shell.handles.lookup descriptor with
    | some (.channel index) =>
      shell.changeChannel index fun channel =>
        { channel with
          written := ⟨shell.world.elapsed, shell.writer, text⟩ :: channel.written }
    | some (.file location) => shell.withTree (extendFile shell.tree location text)
    | some .nothing | some .zeros => shell
    | some .full | none => { shell with hasFailedWrite := true }

/-- The variables that commands see, in the order of their names. -/
def environment (shell : Machine) : List (Octets × Octets) :=
  let visible := shell.bindings.filterMap fun (name, entry) =>
    if entry.isExported then entry.value?.map fun value => (name, value) else none
  visible.mergeSort fun a b => !(String.ofList b.1 < String.ofList a.1)

/-- The beginning of the messages of a shell. -/
def messageLead (shell : Machine) : Octets :=
  shell.name ++ octets ": " ++ decimal shell.line ++ octets ": "
    ++ match shell.speaker with
      | some name => name ++ octets ": "
      | none => []

/-- Whether the output of the first process is open. -/
def holdsOutput (shell : Machine) : Bool :=
  shell.handles.any fun (_, handle) => handle == .channel 1 || handle == .channel 2

/-- Writes to where a handle leads. -/
def writeTo (shell : Machine) (handle? : Option Handle) (text : Octets) : Machine :=
  match handle? with
  | some handle => { (shell.connect 2 handle).write 2 text with handles := shell.handles }
  | none => shell

end Machine

namespace Action

/-- Stops where nothing more happens in time; what the shell holds open then stays open. -/
def hang {α : Type} (leave : Leave) : Action α := do
  modify fun shell => { shell with world := { shell.world with isHeld := shell.holdsOutput } }
  throw leave

/-- The length of a text that no process makes in its time. -/
def lengthLimit : Nat :=
  0x400000

/-- Stops where a text grows beyond all limits. -/
def bounded (length : Nat) : Action Unit := do
  if lengthLimit < length then hang .endless

/-- The effort that all processes can make in their time. -/
def effortLimit : Nat :=
  0x20000000

/-- The effort that it takes to start a process. -/
def processEffort : Nat := 10000

/-- The effort that it takes to run a command. -/
def commandEffort : Nat := 2000

/-- Counts an effort; who makes too much of it does not come to an end in time. -/
def exert (amount : Nat) : Action Unit := do
  let shell ← get
  let effort := shell.world.effort + amount
  if effortLimit < effort then hang .endless
  set { shell with world := { shell.world with effort } }

/-- Writes to a descriptor. -/
def writeTo (descriptor : Nat) (text : Octets) : Action Unit := do
  let shell ← get
  exert (match shell.handles.lookup descriptor with
    | some (.file location) =>
      match shell.tree.get? location with
      | some (.file file) => 4 * (file.content.length + text.length)
      | _ => 0
    | _ => text.length)
  modify (·.write descriptor text)

/-- Writes to the standard output. -/
def print (text : Octets) : Action Unit :=
  writeTo 1 text

/-- Writes to the standard error. -/
def complain (text : Octets) : Action Unit :=
  writeTo 2 text

/-- Writes a message of the shell. -/
def warn (message : Octets) : Action Unit := do
  complain ((← get).messageLead ++ message ++ ['\n'])

/-- Writes a message about a mistake of the script, which ends the running command. -/
def fail {α : Type} (message : Octets) : Action α := do
  warn message
  throw (.mistake 2)

/-- Sets the status of the last command. -/
def finish (status : Nat) : Action Unit :=
  modify fun shell => { shell with status }

/-- Goes on to a time that is not past yet. -/
def waitUntil (time : Nat) : Action Unit := do
  let shell ← get
  if shell.world.elapsed < time then
    if shell.world.limit ≤ time then hang .expired
    set { shell with world := { shell.world with elapsed := time } }

/-- Lets time pass. -/
def wait (milliseconds : Nat) : Action Unit := do
  waitUntil ((← get).world.elapsed + milliseconds)

/-- The length of the beginning that stands for a text without an end. -/
def endlessLength : Nat :=
  0x100000

/-- Zeros without an end. -/
def zeros : Octets :=
  List.replicate endlessLength '\x00'

/-- Zeros without an end, for a reader who takes only a beginning of them: there are more of them as
long as all are taken, unless there are far too many. -/
def zerosFor (takesAll : Octets → Bool) : Octets :=
  go 4 endlessLength
where
  go : Nat → Nat → Octets
    | 0, count => List.replicate count '\x00'
    | fuel + 1, count =>
      let text := List.replicate count '\x00'
      if takesAll text then go fuel (2 * count) else text

/-- What can be read from a descriptor, all of which is taken.  Where more would follow for ever,
the reader stays behind. -/
def takeAll? (descriptor : Nat) : Action (Option Octets) := do
  let shell ← get
  match shell.handles.lookup descriptor with
  | some (.channel index) =>
    let channel := shell.channel index
    waitUntil channel.complete
    modify fun shell =>
      { shell.changeChannel index fun channel => { channel with unread := [] } with
        isStuck := shell.isStuck || channel.isEndless }
    return some channel.unread
  | some .nothing => return some []
  | some .zeros | some .full =>
    modify fun shell => { shell with isStuck := true }
    return some zeros
  | some (.file _) => return none
  | none => return none

/-- Reads everything that is left at the standard input. -/
def readAll : Action Octets := do
  return (← takeAll? 0).getD []

/-- Takes a beginning of what can be read from a descriptor: the first result of `cut`. -/
def takeSome (descriptor : Nat) (cut : Octets → Octets × Octets) : Action Octets := do
  let shell ← get
  match shell.handles.lookup descriptor with
  | some (.channel index) =>
    let channel := shell.channel index
    waitUntil channel.complete
    let (taken, rest) := cut channel.unread
    modify fun shell =>
      { shell.changeChannel index fun channel => { channel with unread := rest } with
        isStuck := shell.isStuck || (channel.isEndless && rest.isEmpty) }
    return taken
  | some .zeros | some .full => return (cut (zerosFor fun text => (cut text).2.isEmpty)).1
  | _ => return []

/-- Sets a variable that can be changed. -/
def assign (name value : Octets) : Action Unit := do
  bounded value.length
  let shell ← get
  let entry := (shell.bindings.lookup name).getD { value? := none }
  if entry.isFixed then fail (name ++ octets ": is read only")
  let exported := entry.isExported || shell.isOn 'a'
  set { shell.bind name { entry with value? := some value, isExported := exported } with
    optionPlace := if name == "OPTIND".toList then 0 else shell.optionPlace }

/-- Runs a step as a process of its own, which keeps nothing but the world.  The result is how the
process ended. -/
def isolate (step : Action Unit) : Action ExitStatus := do
  exert processEffort
  let outer ← get
  let number := outer.world.nextProcess
  set { outer with
    world := { outer.world with nextProcess := number + 1 }
    process := number
    parent := outer.process
    jobs := [] }
  let restore (result : ExitStatus) : Action ExitStatus := do
    modify fun inner =>
      { outer with
        world := { inner.world with
          tree := { inner.world.tree with workingDirectory := outer.tree.workingDirectory } } }
    return result
  let hold (leave : Leave) : Action ExitStatus := do
    modify fun inner =>
      { inner with
        world := { inner.world with isHeld := inner.world.isHeld || outer.holdsOutput } }
    throw leave
  try
    step
    restore (.code (← get).status)
  catch
    | .exit status | .mistake status | .return status => restore (.code (status % 256))
    | .break _ | .continue _ => restore (.code (← get).status)
    | .killed signal => restore (.signal signal)
    | .expired => hold .expired
    | .endless => do
      let _ ← restore (.code 0)
      hold .endless

/-- Repeats a step until it says that it is done. -/
def repeatUntil (step : Action Bool) : Nat → Action Unit
  | 0 => hang .endless
  | rounds + 1 => do
    if ← step then return
    repeatUntil step rounds

end Action

end PromptScript.Shell
