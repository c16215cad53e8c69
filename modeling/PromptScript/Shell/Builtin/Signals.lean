import PromptScript.Shell.Builtin.Arguments

/-!
# Signals and jobs

The commands that catch and send signals and wait for commands in the background.
-/

namespace PromptScript.Shell.Builtin

/-- Sets or lists the actions for signals. -/
def trap (words : List Octets) : Action Nat := do
  let operands ← operandsOf words
  match operands with
  | [] =>
    let traps := (← get).traps.mergeSort fun a b => a.1 ≤ b.1
    for (number, action) in traps do
      Action.print (octets "trap -- " ++ singleQuoted action ++ ' ' :: Signal.shown number ++ ['\n'])
    return 0
  | first :: rest =>
    let hasAction := !rest.isEmpty && (Integer.count? first).all (64 < ·)
    let action? := if hasAction && first != ['-'] then some first else none
    for word in if hasAction then rest else operands do
      match Signal.ofText? word with
      | none =>
        Action.complain (octets "trap: " ++ word ++ octets ": bad trap\n")
        return 1
      | some number =>
        modify fun shell =>
          let others := shell.traps.filter fun entry => entry.1 != number
          { shell with traps := match action? with
            | some action => (number, action) :: others
            | none => others }
    return 0

/-- Lets a signal arrive at the shell. -/
def receive (number : Nat) : Action Unit := do
  let shell ← get
  let action? := if Signal.isCatchable number then shell.traps.lookup number else none
  match action? with
  | some [] => return
  | some _ =>
    if !shell.arrived.contains number then
      set { shell with arrived := shell.arrived ++ [number] }
  | none =>
    match Signal.effect number with
    | .none => return
    | .stop => throw .expired
    | .kill => throw (.killed number)

/-- Ends a process in the background by a signal: what it would have written later is not
written. -/
def endJob (process number : Nat) : Action Unit := do
  if Signal.effect number == .kill then
    modify fun shell =>
      let now := shell.world.elapsed
      let cut (channel : Channel) : Channel :=
        { channel with
          written := channel.written.filter fun chunk =>
            chunk.writer != some process || chunk.time ≤ now }
      { shell with
        jobs := shell.jobs.map fun job =>
          if job.process == process && now < job.ending then
            { job with ending := now, result := .signal number }
          else job
        world := { shell.world with
          channels := shell.world.channels.map cut
          holders := shell.world.holders.map fun holder =>
            if holder.1 == process then (process, min now holder.2) else holder } }

/-- Sends a signal to a process: whether there is such a process. -/
def send (number target : Nat) : Action Bool := do
  let shell ← get
  if target = shell.process || target = 0 then
    receive number
    return true
  else if target = shell.number || target = shell.parent then
    let signal : SentSignal := { time := shell.world.elapsed, target, number }
    set { shell with world := { shell.world with sent := shell.world.sent ++ [signal] } }
    return true
  else
    match shell.jobs.find? fun job => job.process == target with
    | some job =>
      if job.isSeen then return false
      endJob target number
      return true
    | none => return false

/-- How sending signals is asked for. -/
def killUsage : Octets :=
  octets ("Usage: kill [-s sigspec | -signum | -sigspec] [pid | job]... or\n"
    ++ "kill -l [exitstatus]")

/-- Lists the names of signals. -/
def listSignals (words : List Octets) : Action Nat := do
  match words with
  | [] =>
    Action.print ['0', '\n']
    for number in (List.range 65).drop 1 do
      Action.print (Signal.shown number ++ ['\n'])
    return 0
  | word :: _ =>
    let status ← number word
    let signal := if 128 < status then status - 128 else status
    if 0 < signal && signal < 65 then
      Action.print (Signal.shown signal ++ ['\n'])
      return 0
    else Action.fail (octets "invalid signal number or exit status: " ++ word)

/-- Sends a signal. -/
def kill (words : List Octets) : Action Nat := do
  if words.isEmpty then Action.fail killUsage
  let first := words.headD []
  let own? := match first with
    | '-' :: name => Signal.ofText? name
    | _ => none
  let own? := if own? == some 0 && first != ['-', '0'] then none else own?
  let (options, operands) ← if own?.isSome then pure ([], words.drop 1)
    else if first.head? == some '-' then optionsOf [('l', false), ('s', true)] words
    else pure ([], words)
  let mut number? := own?
  for (letter, value) in options do
    if letter == 's' then
      match Signal.ofText? value with
      | some number => number? := some number
      | none => Action.fail (octets "invalid signal number or name: " ++ value)
  if has options 'l' then
    if number?.isSome then Action.fail killUsage
    listSignals operands
  else
    if operands.isEmpty then Action.fail killUsage
    let mut status := 0
    for target in operands do
      let found ← match target with
        | '%' :: _ =>
          match (← get).jobs.head? with
          | some job => send (number?.getD 15) job.process
          | none => Action.fail (octets "No such job: " ++ target)
        | '-' :: digits => do
          let process ← number digits
          send (number?.getD 15) process
        | _ => do
          let process ← number target
          send (number?.getD 15) process
      if !found then
        Action.warn (octets "No such process\n")
        status := 1
    return status

/-- The status that stands for the end of a process. -/
def statusOf : ExitStatus → Nat
  | .code number => number
  | .signal number => 128 + number

/-- Tells of the death of a process by a signal. -/
def reportDeath (result : ExitStatus) : Action Unit := do
  match result with
  | .signal number =>
    if number != 2 && number != 13 then
      Action.complain (octets (Signal.description number) ++ ['\n'])
  | .code _ => return

/-- Takes the signals that reached the shell up to the present time. -/
def takeSent : Action Unit := do
  let shell ← get
  let (own, others) := shell.world.sent.partition fun signal =>
    signal.target == shell.process && signal.time ≤ shell.world.elapsed
  if !own.isEmpty then
    set { shell with world := { shell.world with sent := others } }
    for signal in own do
      receive signal.number

/-- Waits up to a time, or until a signal arrives that is acted on: that signal. -/
def waitOrSignal (time : Nat) : Action (Option Nat) := do
  let shell ← get
  let early := shell.world.sent.filter fun signal =>
    signal.target == shell.process && signal.time < time
      && (shell.traps.lookup signal.number) != some []
  match early.mergeSort fun a b => a.time ≤ b.time with
  | signal :: _ =>
    Action.waitUntil signal.time
    takeSent
    return some signal.number
  | [] =>
    Action.waitUntil time
    return none

/-- Waits for one process: its status. -/
def waitFor (process : Nat) : Action Nat := do
  match (← get).jobs.find? fun job => job.process == process with
  | none => return 127
  | some job =>
    if let some number ← waitOrSignal job.ending then return 128 + number
    if !job.isSeen then reportDeath job.result
    modify fun shell =>
      { shell with
        jobs := shell.jobs.map fun job =>
          if job.process == process then { job with isSeen := true } else job }
    return statusOf job.result

/-- Waits for processes in the background. -/
def wait (words : List Octets) : Action Nat := do
  match ← operandsOf words with
  | [] =>
    for job in (← get).jobs do
      if let some number ← waitOrSignal job.ending then return 128 + number
    modify fun shell =>
      { shell with jobs := shell.jobs.map fun job => { job with isSeen := true } }
    return 0
  | operands =>
    let mut status := 0
    for word in operands do
      match word with
      | '%' :: _ =>
        match (← get).jobs.head? with
        | some job => status ← waitFor job.process
        | none => Action.fail (octets "No such job: " ++ word)
      | _ => status ← waitFor (← number word)
    return status

end PromptScript.Shell.Builtin
