import PromptScript.Shell.Builtin.Lines
import PromptScript.Shell.Builtin.Places
import PromptScript.Shell.Builtin.Settings
import PromptScript.Shell.Builtin.Signals
import PromptScript.Shell.Condition
import PromptScript.Shell.Launch
import PromptScript.Shell.Reader
import PromptScript.Shell.Redirect
import PromptScript.Shell.Tool.Registry

/-!
# Running commands

What commands do to a shell.  Commands run one after the other: those joined by pipes each run to
their end before the next one begins, and their time is set back.  The fuel bounds the depth of
commands within commands; it is not used up by loops, which have a bound of their own.
-/

namespace PromptScript.Shell

namespace Run

/-- The greatest number of rounds of a loop. -/
def maxRounds : Nat := 200000

/-- The greatest depth of commands within commands. -/
def maxDepth : Nat := 100000

/-- How deep functions can call one another. -/
def maxNesting : Nat := 1000

/-- How a command is run. -/
structure Manner where
  /-- Whether its status is tested, so that a failure does not end the script. -/
  tested : Bool := false
  /-- Whether its process ends with it. -/
  last : Bool := false

/-- The commands of the shell that run no others. -/
def builtin? (name : String) (words : List Octets) : Option (Action Nat) :=
  match name with
  | ":" | "true" => some (return 0)
  | "false" => some (return 1)
  | "echo" => some do
    Action.print (Printf.echo words)
    return 0
  | "printf" => some (Printf.run words)
  | "test" | "[" => some do
    let setting : Condition.Setting :=
      { tree := (← get).tree
        isProgram := fun name => Launch.shellNames.contains name || Tool.isName name }
    match Condition.test setting name.toList words with
    | .ok holds => return if holds then 0 else 1
    | .error fault => Action.fail fault.message
  | "cd" | "chdir" => some (Builtin.changeDirectory words)
  | "pwd" => some (Builtin.printDirectory words)
  | "umask" => some (Builtin.setMask words)
  | "set" => some (Builtin.setOptions words)
  | "shift" => some (Builtin.shift words)
  | "export" => some (Builtin.exportVariables words)
  | "readonly" => some (Builtin.fixVariables words)
  | "local" => some (Builtin.makeLocal words)
  | "unset" => some (Builtin.unset words)
  | "alias" => some (Builtin.setAliases words)
  | "unalias" => some (Builtin.unsetAliases words)
  | "read" => some (Builtin.readLine words)
  | "getopts" => some (Builtin.readOption words)
  | "trap" => some (Builtin.trap words)
  | "kill" => some (Builtin.kill words)
  | "wait" => some (Builtin.wait words)
  | "exit" => some do
    let shell ← get
    match words with
    | [] => throw (.exit (shell.trapStatus.getD shell.status))
    | word :: _ => throw (.exit ((← Builtin.number word) % 256))
  | "return" => some do
    match words with
    | [] => throw (.return (← get).status)
    | word :: _ => throw (.return (← Builtin.number word))
  | "break" => some (jump Leave.break)
  | "continue" => some (jump Leave.continue)
  | "times" => some do
    Action.print (octets "0m0.000000s 0m0.000000s\n0m0.000000s 0m0.000000s\n")
    return 0
  | "ulimit" => some do
    Action.print (octets "unlimited\n")
    return 0
  | "jobs" | "fg" | "bg" => some (return 0)
  | "hash" => some do
    if words.contains ['-', 'r'] then modify fun shell => { shell with tracked := [] }
    return 0
  | _ => none
where
  /-- Leaves some of the running loops. -/
  jump (leave : Nat → Leave) : Action Nat := do
    let levels ← match words with
      | [] => pure 1
      | word :: _ => Builtin.number word
    if levels = 0 then Action.fail (octets "Illegal number: 0")
    let loops := (← get).loops
    if loops = 0 then return 0
    throw (leave (min levels loops))

/-- The commands of the shell whose mistakes end the shell. -/
def isSpecial (name : Octets) : Bool :=
  specialNames.contains (String.ofList name)

/-- The commands of the shell that run others. -/
def runningNames : List String := ["eval", "exec", "command", ".", "type"]

/-- Whether a name is that of a command of the shell. -/
def isBuiltin (name : Octets) : Bool :=
  (builtin? (String.ofList name) []).isSome || runningNames.contains (String.ofList name)

/-- Whether the words behind a command name may be assignments. -/
def takesAssignments (name : Octets) : Bool :=
  ["alias", "export", "local", "readonly"].contains (String.ofList name)

/-- Whether a name is that of a program that is no script. -/
def isTool (name : String) : Bool :=
  Launch.shellNames.contains name || Tool.isName name

/-- The places where programs are looked for. -/
def placesOf (shell : Machine) : Octets :=
  (shell.get? "PATH".toList).getD []

/-- The text of captured output: without line feeds at its end. -/
def capturedText (text : Octets) : Octets :=
  ((text.filter (· != '\x00')).reverse.dropWhile (· == '\n')).reverse

/-- Runs the body of a loop: whether the loop is left. -/
def loopBody (body : Action Unit) : Action Bool :=
  tryCatch (do body; return false) fun
    | .break levels => do
      Action.finish 0
      if levels ≤ 1 then return true else throw (.break (levels - 1))
    | .continue levels => do
      Action.finish 0
      if levels ≤ 1 then return false else throw (.continue (levels - 1))
    | other => throw other

/-- Runs a step, and another one behind it however the first one ends. -/
def always (step after : Action Unit) : Action Unit := do
  tryCatch step fun leave => do
    after
    throw leave
  after

/-- Runs a step and undoes the redirections made in it. -/
def withHandles (step : Action Unit) : Action Unit := do
  let handles := (← get).handles
  always step (modify fun shell => { shell with handles })

/-- Runs a step and puts the variables that it hid back. -/
def withFrame (step : Action Unit) : Action Unit := do
  modify fun shell => { shell with hidden := [] :: shell.hidden }
  always step (modify fun shell =>
    let restored := (shell.hidden.headD []).foldl (fun shell (name, old) =>
      match old with
      | some entry => shell.bind name entry
      | none => shell.forget name) shell
    { restored with hidden := shell.hidden.drop 1 })

/-- Whether actions for signals are set. -/
def hasTraps (shell : Machine) : Bool :=
  shell.traps.any fun entry => !entry.2.isEmpty

/-- Describes what a command name stands for; the result is the status. -/
def describe (verbose : Bool) (name : Octets) : Action Nat := do
  let shell ← get
  let report (brief long : Octets) : Action Nat := do
    Action.print ((if verbose then long else brief) ++ ['\n'])
    return 0
  let tell (text : String) : Action Nat := report name (name ++ octets text)
  if Token.reservedWords.contains (String.ofList name) then tell " is a shell keyword"
  else
    match shell.aliases.lookup name with
    | some value =>
      report (octets "alias " ++ (Builtin.aliasText name value).dropLast)
        (name ++ octets " is an alias for " ++ value)
    | none =>
      if isBuiltin name && isSpecial name then tell " is a special shell builtin"
      else if (shell.functions.lookup name).isSome then tell " is a shell function"
      else if isBuiltin name then tell " is a shell builtin"
      else
        match Launch.find? isTool shell.tree (placesOf shell) name with
        | some path =>
          if name.contains '/' then report path (name ++ octets " is " ++ path)
          else
            let how := if shell.tracked.contains name then " is a tracked alias for " else " is "
            report path (name ++ octets how ++ path)
        | none =>
          if verbose then Action.print (name ++ octets ": not found\n")
          return 127

/-- Runs commands as they are read. -/
def runInput (run : Bool → Command → Action Unit) (echoes : Bool) : Nat → Input → Action Unit
  | 0, _ => return
  | rounds + 1, input => do
    let shell ← get
    match readNext { input with aliases := shell.aliases, documents := shell.documents } with
    | .fault fault =>
      modify fun shell => { shell with line := fault.line }
      Action.fail (octets fault.message)
    | .finish => return
    | .command command after isLast =>
      if echoes && shell.isOn 'v' then
        Action.complain (input.rest.take (input.rest.length - after.rest.length))
      modify fun shell => { shell with documents := after.documents }
      run isLast command
      runInput run echoes rounds after

/-- The state of a shell whose process runs another program now. -/
def afresh (shell : Machine) (name : Octets) : Machine :=
  { world := shell.world
    handles := shell.handles
    name
    bindings := shell.environment.map fun (name, value) =>
      (name, { value? := some value, isExported := true })
    traps := shell.traps.filter (·.2.isEmpty)
    number := shell.process
    process := shell.process
    parent := shell.parent
    writer := shell.writer
    mask := shell.mask }

/-- The variables that a shell sets when it starts. -/
def startingVariables (shell : Machine) : List (Octets × Octets) :=
  [("IFS", blankSeparators), ("OPTIND", ['1']), ("PS1", ['#', ' ']), ("PS2", ['>', ' ']),
    ("PS4", ['+', ' ']), ("PPID", decimal shell.parent)].map fun (name, value) =>
      (name.toList, value)

mutual

/-- Acts on the signals that arrived. -/
def actOnSignals : Nat → Action Unit
  | 0 => return
  | fuel + 1 => do
    Builtin.takeSent
    let shell ← get
    if !shell.arrived.isEmpty then
      set { shell with arrived := [], trapStatus := some (shell.trapStatus.getD shell.status) }
      for number in shell.arrived.mergeSort (· ≤ ·) do
        if let some action := (← get).traps.lookup number then
          runText fuel false {} action
          Action.finish shell.status
      modify fun inner => { inner with trapStatus := shell.trapStatus }

/-- Runs the commands of a text. -/
def runText : Nat → Bool → Manner → Octets → Action Unit
  | 0, _, _, _ => throw .expired
  | fuel + 1, echoes, manner, text =>
    let run (isLast : Bool) (command : Command) : Action Unit :=
      evaluate fuel { manner with last := manner.last && isLast } command
    let size := text.length
    runInput run echoes (size + 2) { rest := text, size }

/-- Runs a command. -/
def evaluate : Nat → Manner → Command → Action Unit
  | 0, _, _ => throw .expired
  | fuel + 1, manner, command => do
    if (← get).isOn 'n' then return
    if command matches .nothing then return
    actOnSignals fuel
    let inner : Manner := { tested := manner.tested }
    let checked : Action Unit := do
      actOnSignals fuel
      let shell ← get
      if shell.isOn 'e' && !manner.tested && shell.status ≠ 0 then throw (.exit shell.status)
    match command with
    | .nothing => return
    | .not body =>
      evaluate fuel { tested := true } body
      Action.finish (if (← get).status = 0 then 1 else 0)
    | .simple line assignments words redirections =>
      runSimple fuel manner line assignments words redirections
      checked
    | .pipe commands background =>
      if background then
        runBackground fuel inner (.pipe commands false)
        checked
      else
        runPipe fuel manner commands
        checked
    | .redirected line body redirections =>
      modify fun shell => { shell with line }
      let openings ← Redirect.resolve (capture fuel) redirections
      withHandles do
        if ← opened fuel openings then evaluate fuel inner body
    | .background line body redirections =>
      modify fun shell => { shell with line }
      runBackground fuel inner (if redirections.isEmpty then body
        else .redirected line body redirections)
      checked
    | .subshell line body redirections =>
      modify fun shell => { shell with line }
      let openings ← Redirect.resolve (capture fuel) redirections
      let step : Action Unit := do
        Redirect.apply (capture fuel) openings
        evaluate fuel { manner with last := true } body
      if manner.last && !hasTraps (← get) then
        step
        throw (.exit (← get).status)
      let result ← runCopy fuel step
      Builtin.reportDeath result
      Action.finish (Builtin.statusOf result)
      checked
    | .both first second =>
      evaluate fuel { tested := true } first
      if (← get).status = 0 then evaluate fuel manner second
    | .either first second =>
      evaluate fuel { tested := true } first
      if (← get).status ≠ 0 then evaluate fuel manner second
    | .sequence first second =>
      evaluate fuel inner first
      evaluate fuel manner second
    | .conditional test yes no =>
      evaluate fuel { tested := true } test
      if (← get).status = 0 then evaluate fuel manner yes
      else
        match no with
        | some no => evaluate fuel manner no
        | none => Action.finish 0
    | .loop untilSuccess condition body =>
      let outer := (← get).loops
      modify fun shell => { shell with loops := outer + 1 }
      let result ← runLoop fuel inner untilSuccess condition body
      modify fun shell => { shell with loops := outer }
      Action.finish result
    | .each line name words body =>
      modify fun shell => { shell with line }
      let mut values : List Octets := []
      for word in words do
        values := values ++ (← expandWord (capture fuel) word)
      let outer := (← get).loops
      modify fun shell => { shell with loops := outer + 1 }
      let mut isOver := false
      let mut result := 0
      for value in values do
        if !isOver then
          Action.assign name value
          isOver ← loopBody (evaluate fuel inner body)
          result := (← get).status
      modify fun shell => { shell with loops := outer }
      Action.finish result
    | .select line subject cases =>
      modify fun shell => { shell with line }
      let text ← expandText (capture fuel) subject
      let mut chosen : Option Command := none
      for (patterns, body) in cases do
        for pattern in patterns do
          if chosen.isNone then
            if Wildcard.matchesAll (← expandPattern (capture fuel) pattern) text then
              chosen := some body
      match chosen with
      | some body =>
        if body matches .nothing then Action.finish 0
        evaluate fuel manner body
      | none => Action.finish 0
    | .define line name body =>
      modify fun shell =>
        { shell with
          functions := (name, ⟨line, body⟩) :: shell.functions.filter fun entry => entry.1 != name
          status := 0 }
    actOnSignals fuel

/-- Opens redirections: whether that went well. -/
def opened : Nat → List Redirect.Opening → Action Bool
  | 0, _ => throw .expired
  | fuel + 1, openings =>
    tryCatch (do Redirect.apply (capture fuel) openings; return true) fun
      | .mistake _ => do
        Action.finish 2
        return false
      | other => throw other

/-- Runs a loop; the result is the status of the last body. -/
def runLoop : Nat → Manner → Bool → Command → Command → Action Nat
  | 0, _, _, _, _ => throw .expired
  | fuel + 1, manner, untilSuccess, condition, body => do
    modify fun shell => { shell with captured := 0 }
    let result ← (StateT.run (s := 0) do
      rounds fuel manner untilSuccess condition body maxRounds)
    return result.2

/-- Runs rounds of a loop, keeping the status of the last body. -/
def rounds : Nat → Manner → Bool → Command → Command → Nat → StateT Nat Action Unit
  | 0, _, _, _, _, _ => throw Leave.expired
  | fuel + 1, manner, untilSuccess, condition, body, count => do
    let step : StateT Nat Action Bool := do
      let left ← loopBody (evaluate fuel { tested := true } condition)
      if left then
        set 0
        return true
      if ((← getThe Machine).status = 0) == untilSuccess then return true
      let left ← loopBody (evaluate fuel manner body)
      set (← getThe Machine).status
      return left
    repeatRounds step count
where
  repeatRounds (step : StateT Nat Action Bool) : Nat → StateT Nat Action Unit
    | 0 => (Action.hang .endless : Action Unit)
    | count + 1 => do
      if ← step then return
      repeatRounds step count

/-- The output of a command, without line feeds at its end. -/
def capture : Nat → Command → Action Octets
  | 0, _ => throw .expired
  | fuel + 1, command => do
    if command matches .nothing then return []
    let process := (← get).world.nextProcess
    let index := (← get).world.channels.size
    modify (·.openChannel { unread := [] })
    let result ← runCopy fuel do
      modify (·.connect 1 (.channel index))
      evaluate fuel { last := true } command
    Builtin.reportDeath result
    modify fun shell => { shell with captured := Builtin.statusOf result }
    let text := capturedText ((← get).writtenTo index)
    if (← get).world.nextProcess = process + 1 then modify (·.forgetChannel index)
    return text

/-- Runs a step in a copy of the shell. -/
def runCopy : Nat → Action Unit → Action ExitStatus
  | 0, _ => throw .expired
  | fuel + 1, step =>
    Action.isolate do
      modify fun shell =>
        { shell with traps := shell.traps.filter (·.2.isEmpty), arrived := [], trapStatus := none }
      runToEnd fuel step

/-- Runs a step to the end of its process, where the action for the end runs. -/
def runToEnd : Nat → Action Unit → Action Unit
  | 0, _ => throw .expired
  | fuel + 1, step => do
    tryCatch (do step; actOnSignals fuel) fun
      | .exit status | .mistake status | .return status => Action.finish (status % 256)
      | .break _ | .continue _ => return
      | other => throw other
    let shell ← get
    match shell.traps.lookup Signal.ending with
    | none => return
    | some action =>
      set { shell with
        traps := shell.traps.filter fun entry => entry.1 != Signal.ending
        trapStatus := some shell.status }
      tryCatch (do runText fuel false {} action; Action.finish shell.status) fun
        | .exit status | .mistake status => Action.finish (status % 256)
        | .return _ | .break _ | .continue _ => Action.finish shell.status
        | other => throw other

/-- Runs a command in the background. -/
def runBackground : Nat → Manner → Command → Action Unit
  | 0, _, _ => throw .expired
  | fuel + 1, _, command => do
    let outer ← get
    let number := outer.world.nextProcess
    let result? ← tryCatch (do
      let result ← runCopy fuel do
        modify fun shell =>
          { shell.connect 0 .nothing with writer := some (shell.writer.getD number) }
        evaluate fuel { last := true } command
      return some result) fun
        | .expired | .endless => do
          modify (·.withEffort outer.world.effort)
          return none
        | other => throw other
    let inner ← get
    let ending := match result? with
      | some _ => inner.world.elapsed
      | none => outer.world.limit
    let holders := if result?.isNone && inner.world.isHeld
      then (number, ending) :: inner.world.holders else inner.world.holders
    set { outer with
      world := { inner.world with
        tree := { inner.tree with workingDirectory := outer.tree.workingDirectory }
        elapsed := outer.world.elapsed
        holders }
      jobs := { process := number, ending, result := result?.getD (.code 0) } :: outer.jobs
      background := some number
      status := 0 }

/-- Runs commands joined by pipes. -/
def runPipe : Nat → Manner → List Command → Action Unit
  | 0, _, _ => throw .expired
  | fuel + 1, manner, commands => do
    let begun := (← get).world.elapsed
    let mut latest := begun
    let mut source : Option Nat := none
    let mut left := commands.length
    for command in commands do
      left := left - 1
      let isLast := left == 0
      let input := source
      let sink := (← get).world.channels.size
      if !isLast then modify (·.openChannel { unread := [] })
      modify fun shell => { shell with world := { shell.world with elapsed := begun } }
      let step : Action Unit := do
        if let some index := input then modify (·.connect 0 (.channel index))
        if !isLast then modify (·.connect 1 (.channel sink))
        evaluate fuel { manner with last := true } command
      let effort := (← get).world.effort
      let result? ← tryCatch (do return some (← runCopy fuel step)) fun
        | .endless => do
          if isLast then throw .endless
          modify (·.withEffort effort)
          return none
        | other => throw other
      let ending := (← get).world.elapsed
      if !isLast then
        modify (·.changeChannel sink fun channel =>
          { unread := channel.text, complete := ending, isEndless := result?.isNone })
      if let some result := result? then
        Builtin.reportDeath result
        Action.finish (Builtin.statusOf result)
      latest := max latest ending
      source := some sink
    modify fun shell => { shell with world := { shell.world with elapsed := latest } }

/-- Runs a simple command. -/
def runSimple : Nat → Manner → Nat → List (List Part) → List (List Part) → List Redirection →
    Action Unit
  | 0, _, _, _, _, _ => throw .expired
  | fuel + 1, manner, line, assignments, words, redirections => do
    modify fun shell => { shell with line, captured := 0 }
    let (fields, rest) ← leadingFields fuel words
    let mayAssign := fields.head?.any takesAssignments
    let mut fields := fields
    for word in rest do
      if mayAssign && isAssignment word then
        fields := fields ++ [← expandAssignment (capture fuel) word]
      else fields := fields ++ (← expandWord (capture fuel) word)
    let (direct, plain) := skipCommand fields
    let shell ← get
    let name := direct.headD []
    let isFunction := plain && (shell.functions.lookup name).isSome && !isSpecial name
    Action.exert Action.commandEffort
    let ownSpecial := fields.head?.any isSpecial
    let isOwn := !isFunction && isBuiltin name
    let isExec := isOwn && name == "exec".toList
    let errors := shell.handles.lookup 2
    let openings ← Redirect.resolve (capture fuel) redirections
    let handles := shell.handles
    let run : Action Unit := do
      if !(← opened fuel openings) then
        if ownSpecial then throw (.mistake 2)
        return
      let perform : Action Unit := do
        let mut made : List Octets := []
        for assignment in assignments do
          let text ← expandAssignment (capture fuel) assignment
          made := made ++ [text]
          let (name, value) := (splitAssignment? text).getD ([], [])
          if !direct.isEmpty && !ownSpecial then Builtin.hide name
          Action.assign name value
          if !direct.isEmpty && (!ownSpecial || (isExec && 1 < direct.length)) then
            modify fun shell =>
              shell.bind name { (shell.bindings.lookup name).getD { value? := none } with
                isExported := true }
        trace errors (made ++ fields)
        if direct.isEmpty then Action.finish (← get).captured
        else if isFunction then runFunction fuel manner direct
        else if isOwn then runBuiltin fuel manner ownSpecial direct
        else runProgram fuel manner direct
      if direct.isEmpty || ownSpecial then perform else withFrame perform
    if isExec then
      tryCatch run fun leave => do
        modify fun shell => { shell with handles }
        throw leave
      if (← get).status ≠ 0 then modify fun shell => { shell with handles }
    else always run (modify fun shell => { shell with handles })
where
  /-- Shows a command before it runs, where that is asked for. -/
  trace (errors : Option Handle) (words : List Octets) : Action Unit := do
    let shell ← get
    if shell.isOn 'x' then
      let lead := (shell.get? "PS4".toList).getD []
      set (shell.writeTo errors (lead ++ [' '].intercalate words ++ ['\n']))
  /-- The words behind those that only ask for a command to be run, and whether functions
  count. -/
  skipCommand (fields : List Octets) : List Octets × Bool :=
    match fields with
    | name :: rest =>
      if name == "command".toList then
        match skipOptions rest with
        | some (word :: others) => (word :: others, false)
        | _ => (fields, true)
      else (fields, true)
    | [] => ([], true)
  /-- The words behind the options of a command name, unless they ask for a description. -/
  skipOptions (words : List Octets) : Option (List Octets) :=
    match words with
    | ['-', '-'] :: rest => some rest
    | ['-', 'p'] :: rest => skipOptions rest
    | ('-' :: _ :: _) :: _ => none
    | _ => some words

/-- The fields of the first words up to one that gives fields, and the words that follow. -/
def leadingFields : Nat → List (List Part) → Action (List Octets × List (List Part))
  | 0, _ => throw .expired
  | _, [] => return ([], [])
  | fuel + 1, word :: rest => do
    match ← expandWord (capture fuel) word with
    | [] => leadingFields fuel rest
    | fields => return (fields, rest)

/-- Runs a function. -/
def runFunction : Nat → Manner → List Octets → Action Unit
  | 0, _, _ => throw .expired
  | fuel + 1, manner, words => do
    let outer ← get
    match outer.functions.lookup (words.headD []) with
    | none => return
    | some function =>
      if maxNesting ≤ outer.nesting then
        Action.fail (octets "Maximum function recursion depth (" ++ decimal maxNesting
          ++ octets ") reached")
      set { outer with arguments := words.drop 1, loops := 0, nesting := outer.nesting + 1 }
      let leave : Action Unit := modify fun shell =>
        { shell with arguments := outer.arguments, loops := outer.loops, nesting := outer.nesting }
      let run : Action Unit := tryCatch (evaluate fuel { tested := manner.tested } function.body) fun
        | .return status => Action.finish status
        | other => throw other
      always (withFrame run) leave

/-- Runs a command of the shell itself. -/
def runBuiltin : Nat → Manner → Bool → List Octets → Action Unit
  | 0, _, _, _ => throw .expired
  | fuel + 1, manner, special, words => do
    let name := words.headD []
    let speaker := (← get).speaker
    modify fun shell => { shell with speaker := some name, hasFailedWrite := false }
    let run : Action Unit := do
      let status ← match String.ofList name, words.drop 1 with
        | "eval", rest => do
          if rest.isEmpty then pure 0
          else
            Action.finish 0
            runText fuel false { tested := manner.tested } ([' '].intercalate rest)
            pure (← get).status
        | "exec", rest => do
          match rest with
          | [] => pure 0
          | _ => becomeProgram fuel rest
        | "command", rest => describeFirst rest
        | "type", rest => do
          let mut status := 0
          for word in rest do
            let found ← describe true word
            status := status ||| found
          pure status
        | ".", rest => do
          match rest with
          | [] => pure 0
          | file :: _ => runFile fuel file
        | known, rest =>
          match builtin? known rest with
          | some step => step
          | none => pure 127
      let shell ← get
      if shell.hasFailedWrite then
        Action.warn (name ++ octets ": I/O error")
        Action.finish (status ||| 1)
      else Action.finish status
    let restore : Action Unit := modify fun shell => { shell with speaker, hasFailedWrite := false }
    tryCatch (always run restore) fun
      | .mistake status => do
        Action.finish status
        if special then throw (.mistake status)
      | other => throw other
where
  /-- Describes the first of some commands. -/
  describeFirst (words : List Octets) : Action Nat := do
    let (options, operands) ← Builtin.optionsOf [('p', false), ('v', false), ('V', false)] words
    match operands with
    | [] => return 0
    | word :: _ => describe (Builtin.has options 'V') word

/-- Runs the commands of a file in the shell itself. -/
def runFile : Nat → Octets → Action Nat
  | 0, _ => throw .expired
  | fuel + 1, file => do
    let shell ← get
    let found? := (Launch.candidates (placesOf shell) file).find? fun path =>
      shell.tree.isFile (display path)
    match found? with
    | none =>
      if file.contains '/' then
        Action.fail (octets "cannot open " ++ file ++ octets ": No such file")
      else Action.fail (file ++ octets ": not found")
    | some path =>
      match shell.tree.read (display path) with
      | .ok bytes =>
        modify fun shell => { shell with speaker := some path }
        Action.finish 0
        tryCatch (runText fuel true {} (ofBytes bytes)) fun
          | .return status => Action.finish status
          | other => throw other
        return (← get).status
      | .error cause =>
        Action.fail (octets "cannot open " ++ path
          ++ octets (": " ++ Redirect.reason false cause))

/-- Runs a program by its name. -/
def runProgram : Nat → Manner → List Octets → Action Unit
  | 0, _, _ => throw .expired
  | fuel + 1, manner, words => do
    let shell ← get
    let name := words.headD []
    match Launch.ofName isTool shell.tree (placesOf shell) name (words.drop 1) with
    | .error .notFound | .error .notDirectory | .error .nameTooLong =>
      Action.warn (name ++ octets ": not found")
      Action.finish 127
    | .error .badExecutable =>
      let path := (Launch.find? isTool shell.tree (placesOf shell) name).getD name
      launched fuel manner ⟨"sh", name, path :: words.drop 1⟩
    | .error cause =>
      Action.warn (name ++ octets (": " ++ reasonOf cause))
      Action.finish 126
    | .ok launch =>
      if !name.contains '/' then
        modify fun shell => { shell with tracked := name :: shell.tracked.filter (· != name) }
      launched fuel manner launch

/-- Runs a program that was found, in a process of its own unless this one ends with it. -/
def launched : Nat → Manner → Launch → Action Unit
  | 0, _, _ => throw .expired
  | fuel + 1, manner, launch => do
    if manner.last && !hasTraps (← get) then
      become fuel launch
      throw (.exit (← get).status)
    let result ← Action.isolate (become fuel launch)
    Builtin.reportDeath result
    Action.finish (Builtin.statusOf result)

/-- Puts a program in place of the shell; the result is the status of one that cannot start. -/
def becomeProgram : Nat → List Octets → Action Nat
  | 0, _ => throw .expired
  | fuel + 1, words => do
    let shell ← get
    let name := words.headD []
    match Launch.ofName isTool shell.tree (placesOf shell) name (words.drop 1) with
    | .error .notFound | .error .notDirectory | .error .nameTooLong =>
      Action.warn (name ++ octets ": not found")
      throw (.exit 127)
    | .error .badExecutable =>
      let path := (Launch.find? isTool shell.tree (placesOf shell) name).getD name
      become fuel ⟨"sh", name, path :: words.drop 1⟩
    | .error cause =>
      Action.warn (name ++ octets (": " ++ reasonOf cause))
      throw (.exit 126)
    | .ok launch => become fuel launch
    modify fun shell => { shell with traps := [] }
    throw (.exit (← get).status)

/-- Runs a program in the present process. -/
def become : Nat → Launch → Action Unit
  | 0, _ => throw .expired
  | fuel + 1, launch => do
    modify fun shell => afresh shell launch.invoked
    if Launch.shellNames.contains launch.tool then runToEnd fuel (runShell fuel launch)
    else
      match Tool.ofName? launch.tool with
      | none => Action.finish 127
      | some tool =>
        let status ← tryCatch (tool (start fuel) launch.arguments) fun
          | .exit status => return status
          | other => throw other
        let shell ← get
        Action.finish status
        if shell.hasFailedWrite then
          Tool.complain (octets (match shell.handles.lookup 1 with
            | some .full => "write error: No space left on device"
            | _ =>
              if launch.tool == "cat" then "standard output: Bad file descriptor"
              else "write error: Bad file descriptor"))
          Action.finish (max status 1)
        if shell.isStuck then Action.hang .endless

/-- Starts a program for a tool. -/
def start : Nat → Starter
  | 0, _ => throw .expired
  | fuel + 1, words => do
    let shell ← get
    let places := (shell.get? "PATH".toList).getD "/bin:/usr/bin".toList
    match Launch.ofName isTool shell.tree places (words.headD []) (words.drop 1) with
    | .error .badExecutable =>
      let name := words.headD []
      let path := (Launch.find? isTool shell.tree places name).getD name
      return .ok (← Action.isolate (become fuel ⟨"sh", name, path :: words.drop 1⟩))
    | .error cause => return .error cause
    | .ok launch => return .ok (← Action.isolate (become fuel launch))

/-- Runs a shell by its arguments. -/
def runShell : Nat → Launch → Action Unit
  | 0, _ => throw .expired
  | fuel + 1, launch => do
    for (name, value) in startingVariables (← get) do
      modify fun shell =>
        if name == "IFS".toList || (shell.get? name).isNone then
          shell.bind name { value? := some value }
        else shell
    Action.assign "PWD".toList (Builtin.pathOf (← get).tree.workingDirectory)
    let (operands, _, isCommand) ←
      Builtin.switchAll true (launch.arguments.length + 1) launch.arguments
    let readsInput := (← get).isOn 's'
    match isCommand, operands with
    | true, [] => Action.fail (octets "-c requires an argument")
    | true, text :: rest =>
      modify fun shell =>
        { shell with name := rest.headD launch.invoked, arguments := rest.drop 1 }
      runText fuel false { last := true } text
    | false, _ =>
      if readsInput || operands.isEmpty then
        Builtin.switch 's' true
        modify fun shell => { shell with arguments := operands }
        let text ← Action.readAll
        runText fuel true {} text
      else
        let file := operands.headD []
        match (← get).tree.read (display file) with
        | .ok bytes =>
          modify fun shell => { shell with name := file, arguments := operands.drop 1 }
          runText fuel true {} (ofBytes bytes)
        | .error cause =>
          Action.fail (octets "cannot open " ++ file
            ++ octets (": " ++ Redirect.reason false cause))

end

end Run

end PromptScript.Shell
