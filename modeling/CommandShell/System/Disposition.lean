import CommandShell.System.Signal

/-!
# What a process does about signals

What a process does about each signal is its `Disposition` towards it. The three signals that matter
to a shell have a place of their own. `Dispositions.install` is what a shell does when it starts: an
interrupt from the keyboard is noted and the quit key is ignored, so that both only reach the job in
the foreground. `Dispositions.restore` is what a child of the shell does before it turns into a
program, which expects to find every signal at its default.
-/

namespace CommandShell

/-- What a process does about a signal. -/
inductive Disposition
  /-- Whatever the signal does by itself, which is the end of the process for most. -/
  | default
  | ignored
  /-- The process takes note of it. -/
  | handled
  deriving DecidableEq, Repr

/-- What a process does about each of the signals it may treat in its own way. -/
structure Dispositions where
  interrupt : Disposition := .default
  quit : Disposition := .default
  brokenPipe : Disposition := .default
  /-- What it does about other signals, by their numbers, if that is not the default. -/
  others : List (Nat × Disposition) := []
  deriving DecidableEq, Repr

namespace Dispositions

/-- What the shell does about signals while it runs. A write into a broken pipe shall fail and not
end it, which is arranged by whoever starts the shell. -/
def install (d : Dispositions) : Dispositions :=
  { d with interrupt := .handled, quit := .ignored }

/-- What a program expects to start with. The shell itself has made no arrangements for other
signals. -/
def restore (d : Dispositions) : Dispositions :=
  { d with interrupt := .default, quit := .default, brokenPipe := .default }

/-- What another program finds: it cannot have the notes taken that the old one wanted. -/
def afterExec (d : Dispositions) : Dispositions :=
  let forget : Disposition → Disposition
    | .handled => .default
    | kept => kept
  ⟨forget d.interrupt, forget d.quit, forget d.brokenPipe,
    d.others.map fun (number, kept) => (number, forget kept)⟩

/-- What is done about the signal of this number. -/
def of (d : Dispositions) (number : Nat) : Disposition :=
  if number = Signal.SIGINT.number then d.interrupt
  else if number = Signal.SIGQUIT.number then d.quit
  else if number = Signal.SIGPIPE.number then d.brokenPipe
  else (d.others.lookup number).getD .default

/-- Arranges what is done about the signal of this number. -/
def arrange (d : Dispositions) (number : Nat) (wanted : Disposition) : Dispositions :=
  if number = Signal.SIGINT.number then { d with interrupt := wanted }
  else if number = Signal.SIGQUIT.number then { d with quit := wanted }
  else if number = Signal.SIGPIPE.number then { d with brokenPipe := wanted }
  else { d with others := (number, wanted) :: d.others.filter (·.1 ≠ number) }

end Dispositions

namespace Signal

/-- What a signal does to a process that has made no arrangements. -/
inductive Effect
  | ends
  | stops
  | resumes
  | nothing
  deriving DecidableEq, Repr

/-- The default effect of the signal of this number. -/
def effect (number : Nat) : Effect :=
  if number = SIGCONT.number then .resumes
  else if number ∈ [19, 20, 21, 22] then .stops
  else if number ∈ [17, 23, 28] then .nothing
  else .ends

/-- The highest number that can be sent. Those above 31 are the real-time signals. -/
def highest : Nat := 64

end Signal

end CommandShell
