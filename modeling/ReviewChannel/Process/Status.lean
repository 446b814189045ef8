import ReviewChannel.ExitStatus

/-!
The signals that processes send each other: their texts, their numbers, and which end a process.
-/

namespace ReviewChannel.ExitStatus

/-- What the signals mean, from number one on. -/
def signalTexts : List String :=
  ["Hangup", "Interrupt", "Quit", "Illegal instruction", "Trace/breakpoint trap", "Aborted",
   "Bus error", "Floating point exception", "Killed", "User defined signal 1",
   "Segmentation fault", "User defined signal 2", "Broken pipe", "Alarm clock", "Terminated",
   "Stack fault", "Child exited", "Continued", "Stopped (signal)", "Stopped",
   "Stopped (tty input)", "Stopped (tty output)", "Urgent I/O condition",
   "CPU time limit exceeded", "File size limit exceeded", "Virtual timer expired",
   "Profiling timer expired", "Window changed", "I/O possible", "Power failure",
   "Bad system call"]

def signalText (number : Nat) : String :=
  match signalTexts[number - 1]? with
  | some text => text
  | none => if number < 34 then s!"Unknown signal {number}" else s!"Real-time signal {number - 34}"

/-- The number of a signal that is given by its name, with or without its beginning. -/
def signalNumber? (name : String) : Option Nat :=
  (signalNames.findIdx? fun n => n = name || n = "SIG" ++ name).map (· + 1)

/-- The last signal, the last of those without names. -/
def lastSignal : Nat := 64

/-- Whether a process goes on after the signal. -/
def isHarmless (number : Nat) : Bool :=
  number = 0 || number = 17 || number = 18 || number = 23 || number = 28

end ReviewChannel.ExitStatus
