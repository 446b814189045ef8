/-!
How a process ends: with an exit status, or by a signal.
-/

namespace ReviewChannel

/-- How a process ended. -/
inductive ExitStatus where
  | exited (code : Nat)
  | signalled (number : Nat)
deriving DecidableEq, Repr

namespace ExitStatus

/-- The names of the signals, from number one on. -/
def signalNames : List String :=
  ["SIGHUP", "SIGINT", "SIGQUIT", "SIGILL", "SIGTRAP", "SIGABRT", "SIGBUS", "SIGFPE", "SIGKILL",
   "SIGUSR1", "SIGSEGV", "SIGUSR2", "SIGPIPE", "SIGALRM", "SIGTERM", "SIGSTKFLT", "SIGCHLD",
   "SIGCONT", "SIGSTOP", "SIGTSTP", "SIGTTIN", "SIGTTOU", "SIGURG", "SIGXCPU", "SIGXFSZ",
   "SIGVTALRM", "SIGPROF", "SIGWINCH", "SIGIO", "SIGPWR", "SIGSYS"]

def signalName? (number : Nat) : Option String :=
  if number = 0 then none else signalNames[number - 1]?

def isSuccess (status : ExitStatus) : Bool :=
  status = exited 0

/-- The text of the end of a process. -/
def message : ExitStatus → String
  | exited code => s!"exit status: {code}"
  | signalled number =>
      match signalName? number with
      | some name => s!"signal: {number} ({name})"
      | none => s!"signal: {number}"

end ExitStatus

end ReviewChannel
