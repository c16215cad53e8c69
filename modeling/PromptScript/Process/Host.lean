import PromptScript.Process.Basic
import PromptScript.Shell.Run

/-!
# Running programs in a file tree

Programs are shell scripts of the tree and the standard tools.  Time passes only where a program
waits, so a program reaches its limit exactly where its waiting does.
-/

namespace PromptScript.ProgramRunner

open Shell

/-- The directories that every process finds. -/
def commonDirectories : List Location :=
  [["bin"], ["dev"], ["etc"], ["home"], ["lib"], ["opt"], ["proc"], ["root"], ["sbin"], ["tmp"],
    ["usr"], ["usr", "bin"], ["usr", "lib"], ["usr", "local"], ["usr", "local", "bin"],
    ["usr", "sbin"], ["usr", "share"], ["var"], ["var", "tmp"]]

/-- A file tree with the directories that every process finds. -/
def withCommon (tree : FileTree) : FileTree :=
  let missing := commonDirectories.filter fun location => (tree.get? location).isNone
  { tree with entries := tree.entries ++ missing.map fun location => (location, .directory) }

/-- A file tree without the directories that were put in for a process and are empty still. -/
def withoutCommon (before after : FileTree) : FileTree :=
  let isAdded (location : Location) : Bool :=
    commonDirectories.contains location && (before.get? location).isNone
  let isUsed (location : Location) : Bool :=
    after.entries.any fun entry =>
      location.isPrefixOf entry.1 && !isAdded entry.1
  { after with
    entries := after.entries.filter fun entry => !isAdded entry.1 || isUsed entry.1
    workingDirectory := before.workingDirectory }

/-- The process that a program starts in. -/
def startingProcess (tree : FileTree) (call : ProgramCall) : Machine :=
  { world := {
      tree
      channels := #[{ unread := Shell.ofBytes call.input }, { unread := [] }, { unread := [] }]
      limit := call.limit }
    handles := [(0, .channel 0), (1, .channel 1), (2, .channel 2)]
    name := octets call.program
    bindings :=
      [("PATH".toList, { value? := some searchPath, isExported := true }),
        ("HOME".toList, { value? := some "/root".toList, isExported := true }),
        ("PWD".toList,
          { value? := some (Builtin.pathOf tree.workingDirectory), isExported := true })] }

/-- What the end of the first process means. -/
def outcomeOf (result : Except Leave Unit) (shell : Machine) : ProgramOutcome :=
  let world := shell.world
  let finished (status : ExitStatus) : ProgramOutcome :=
    if world.holders.any fun holder => world.limit ≤ holder.2 then .timedOut
    else .finished ⟨status, display (shell.writtenTo 1), display (shell.writtenTo 2)⟩
  match result with
  | .error .expired | .error .endless => .timedOut
  | .error (.killed number) => finished (.signal number)
  | .error (.exit status) | .error (.mistake status) | .error (.return status) =>
    finished (.code (status % 256))
  | .error (.break _) | .error (.continue _) | .ok () => finished (.code shell.status)

/-- Runs a program of the file tree. -/
def host : ProgramRunner := fun tree call =>
  if call.program.toList.contains '\x00' || call.arguments.any (·.toList.contains '\x00') then
    (.error .nulInArgument, tree)
  else
    let before := withCommon tree
    let words := call.arguments.map octets
    match Launch.ofName Run.isTool before searchPath (octets call.program) words with
    | .error cause => (.error cause, tree)
    | .ok launch =>
      if call.limit = 0 then (.ok .timedOut, tree)
      else
        let (result, shell) :=
          (Run.become Run.maxDepth launch).run.run (startingProcess before call)
        (.ok (outcomeOf result shell), withoutCommon tree shell.tree)

end PromptScript.ProgramRunner
