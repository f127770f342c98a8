import CommandShell.Input
import CommandShell.Shell.Execute

/-!
# The loop of the shell

`State.loop` reads lines and executes them until a line ends the shell or there are no more.
Before each line it tells of background jobs that have ended and writes a prompt. A line that
cannot be taken is reported and passed over; an interrupt at the prompt starts a fresh line; only
a failure of the input or of the shell's own output ends the loop early.

The input is shared with the children, which may read it, and may even write to it. What they have
made of it is looked at after each line. The loop ends because each line read makes the input
smaller, and because it takes notice of a number of changes only.
-/

namespace CommandShell

/-- How a shell ends. -/
inductive Ending
  /-- By `exit` or at the end of its input. -/
  | regular
  /-- Because it could not read or write. -/
  | failure
  deriving DecidableEq, Repr

/-- The exit code of a shell. -/
def Ending.code : Ending → Nat
  | .regular => 0
  | .failure => 1

/-- Reads and executes lines from `input`. So many changes that others make to the input are taken
notice of. -/
def State.loop (s : State) (changes : Nat) (input : Input) : Shell Ending := do
  match ← s.reportFinished with
  | (_, .error _) => return .failure
  | (s, .ok _) =>
    match ← s.render with
    | .error _ => return .failure
    | .ok _ =>
      match _read : input.readLine s.config.maxLineLen with
      | (.line text, rest) =>
        Shell.call (.leaveInput rest.unread)
        match ← s.execute text with
        | (_, .terminate) => return .regular
        | (s, .continue) =>
          match changes, ← Shell.call .renewedInput with
          | changes + 1, some bytes => s.loop changes (rest.renew bytes)
          | changes, _ => s.loop changes rest
      | (.interrupted, rest) =>
        let _ ← Shell.call .takeInterrupt
        match ← Shell.call (.write .output "\n") with
        | .error _ => return .failure
        | .ok _ => s.loop changes rest
      | (.ended, _) =>
        match ← Shell.call (.write .output "exit\n") with
        | .error _ => return .failure
        | .ok _ => return .regular
      | (.failed e, rest) =>
        if e.isRecoverable then
          Shell.call (.warn ("orbit: " ++ e.message ++ "\n"))
          s.loop changes rest
        else
          return .failure
termination_by (changes, input.size)
decreasing_by
  · exact Prod.Lex.left _ _ (by omega)
  · exact Prod.Lex.right _ (Input.size_readLine_lt _read (by simp))
  · exact Prod.Lex.right _ (Input.size_readLine_lt _read (by simp))
  · exact Prod.Lex.right _ (Input.size_readLine_lt _read (by simp))

/-- How many changes of its input a shell takes notice of. -/
def State.attention : Nat := 1000000

/-- All that a shell does with its input. -/
def State.serve (s : State) (input : Input) : Shell Ending :=
  s.loop State.attention input

end CommandShell
