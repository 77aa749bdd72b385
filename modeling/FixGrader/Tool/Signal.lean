namespace FixGrader.Signal

def names : List String :=
  ["SIGHUP", "SIGINT", "SIGQUIT", "SIGILL", "SIGTRAP", "SIGABRT", "SIGBUS", "SIGFPE", "SIGKILL",
   "SIGUSR1", "SIGSEGV", "SIGUSR2", "SIGPIPE", "SIGALRM", "SIGTERM", "SIGSTKFLT", "SIGCHLD",
   "SIGCONT", "SIGSTOP", "SIGTSTP", "SIGTTIN", "SIGTTOU", "SIGURG", "SIGXCPU", "SIGXFSZ",
   "SIGVTALRM", "SIGPROF", "SIGWINCH", "SIGIO", "SIGPWR", "SIGSYS"]

def name (signal : Int) : String :=
  match signal with
  | .ofNat (n + 1) => names.getD n s!"signal {n + 1}"
  | signal => s!"signal {signal}"

def shortName (signal : Nat) : String :=
  if signal = 16 then "16"
  else if 35 ≤ signal && signal ≤ 49 then s!"RTMIN+{signal - 34}"
  else if 50 ≤ signal && signal ≤ 63 then s!"RTMAX-{64 - signal}"
  else if signal = 34 then "RTMIN"
  else if signal = 64 then "RTMAX"
  else
    match signal with
    | 0 => "0"
    | n + 1 => ((names[n]?).map fun name => (name.drop 3).toString).getD (toString signal)

def descriptions : List String :=
  ["Hangup", "Interrupt", "Quit", "Illegal instruction", "Trace/breakpoint trap", "Aborted",
   "Bus error", "Floating point exception", "Killed", "User defined signal 1", "Segmentation fault",
   "User defined signal 2", "Broken pipe", "Alarm clock", "Terminated", "Stack fault",
   "Child exited", "Continued", "Stopped (signal)", "Stopped", "Stopped (tty input)",
   "Stopped (tty output)", "Urgent I/O condition", "CPU time limit exceeded",
   "File size limit exceeded", "Virtual timer expired", "Profiling timer expired",
   "Window changed", "I/O possible", "Power failure", "Bad system call"]

/-- The signal with a number or a name, the name without its first three letters and in any case. -/
def number? (s : String) : Option Nat :=
  match s.toNat? with
  | some n => if n ≤ 64 then some n else none
  | none =>
    if s.toUpper == "EXIT" then some 0
    else (names.findIdx? (· == "SIG" ++ s.toUpper)).map (· + 1)

def harmless : List Nat := [17, 18, 23, 28]

def stopping : List Nat := [19, 20, 21, 22]

end FixGrader.Signal
