/-!
# Signals

The thirty-one standard signals and their names. Real-time signals have numbers above these and
no name: a process may be ended by one, but its status cannot be told, which is why a `Signal`
carries the proof that its number is a standard one.
-/

namespace CommandShell

/-- A standard signal, known by its number. -/
structure Signal where
  number : Nat
  standard : 1 ≤ number ∧ number ≤ 31 := by decide
  deriving DecidableEq, Repr

namespace Signal

def SIGINT : Signal := ⟨2, by decide⟩
def SIGQUIT : Signal := ⟨3, by decide⟩
def SIGKILL : Signal := ⟨9, by decide⟩
def SIGPIPE : Signal := ⟨13, by decide⟩
def SIGTERM : Signal := ⟨15, by decide⟩
def SIGCHLD : Signal := ⟨17, by decide⟩
def SIGCONT : Signal := ⟨18, by decide⟩
def SIGSTOP : Signal := ⟨19, by decide⟩

/-- The standard signal of this number, if there is one. -/
def ofNumber? (n : Nat) : Option Signal :=
  if h : 1 ≤ n ∧ n ≤ 31 then some ⟨n, h⟩ else none

/-- Names in the order of the numbers, the first being that of signal 1. -/
def names : List String :=
  ["SIGHUP", "SIGINT", "SIGQUIT", "SIGILL", "SIGTRAP", "SIGABRT", "SIGBUS", "SIGFPE",
   "SIGKILL", "SIGUSR1", "SIGSEGV", "SIGUSR2", "SIGPIPE", "SIGALRM", "SIGTERM", "SIGSTKFLT",
   "SIGCHLD", "SIGCONT", "SIGSTOP", "SIGTSTP", "SIGTTIN", "SIGTTOU", "SIGURG", "SIGXCPU",
   "SIGXFSZ", "SIGVTALRM", "SIGPROF", "SIGWINCH", "SIGIO", "SIGPWR", "SIGSYS"]

/-- There is one name for each number from 1 to 31. -/
theorem length_names : names.length = 31 := rfl

/-- The name of a signal, such as `SIGTERM`. -/
def name (s : Signal) : String :=
  names.get ⟨s.number - 1, by have := s.standard; rw [length_names]; omega⟩

end Signal

end CommandShell
