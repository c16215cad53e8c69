import PromptScript.Files.Tree

/-!
# Processes

How a program is called and what comes of it.  Whatever runs programs is a function from the file
tree and the call to the outcome and the file tree afterwards.
-/

namespace PromptScript

/-- The call of a program. -/
structure ProgramCall where
  program : String
  arguments : List String
  input : Text.Bytes
  /-- The time that the program may take, in milliseconds. -/
  limit : Nat
  deriving DecidableEq, Repr

/-- How a process ended. -/
inductive ExitStatus where
  | code (number : Nat)
  | signal (number : Nat)
  deriving DecidableEq, Repr

namespace ExitStatus

/-- The names of the signals. -/
def signalNames : List (Nat × String) :=
  [(1, "SIGHUP"), (2, "SIGINT"), (3, "SIGQUIT"), (4, "SIGILL"), (5, "SIGTRAP"), (6, "SIGABRT"),
    (7, "SIGBUS"), (8, "SIGFPE"), (9, "SIGKILL"), (10, "SIGUSR1"), (11, "SIGSEGV"),
    (12, "SIGUSR2"), (13, "SIGPIPE"), (14, "SIGALRM"), (15, "SIGTERM"), (16, "SIGSTKFLT"),
    (17, "SIGCHLD"), (18, "SIGCONT"), (19, "SIGSTOP"), (20, "SIGTSTP"), (21, "SIGTTIN"),
    (22, "SIGTTOU"), (23, "SIGURG"), (24, "SIGXCPU"), (25, "SIGXFSZ"), (26, "SIGVTALRM"),
    (27, "SIGPROF"), (28, "SIGWINCH"), (29, "SIGIO"), (30, "SIGPWR"), (31, "SIGSYS")]

/-- Whether a process ended well. -/
def isSuccess (status : ExitStatus) : Bool :=
  status == code 0

/-- The wording of a status. -/
def message : ExitStatus → String
  | code number => "exit status: " ++ toString number
  | signal number =>
    match signalNames.lookup number with
    | some name => "signal: " ++ toString number ++ " (" ++ name ++ ")"
    | none => "signal: " ++ toString number

end ExitStatus

/-- What a process that ended left. -/
structure ProcessOutput where
  status : ExitStatus
  output : String
  errors : String
  deriving DecidableEq, Repr

/-- What comes of a program that could be started. -/
inductive ProgramOutcome where
  | finished (output : ProcessOutput)
  | timedOut
  deriving DecidableEq, Repr

/-- Whatever runs programs. -/
abbrev ProgramRunner :=
  FileTree → ProgramCall → Except FileError ProgramOutcome × FileTree

end PromptScript
