/-!
# Built-in commands

The commands the shell carries out itself. This file holds their names and the listing that
`help` prints; what they do to a session is in `CommandShell.Shell.Execute`.
-/

namespace CommandShell

/-- A command that the shell carries out itself. -/
inductive Builtin
  /-- Changes the working directory. -/
  | cd
  /-- Ends the shell. -/
  | exit
  /-- Lists the built-in commands. -/
  | help
  deriving DecidableEq, Repr

namespace Builtin

/-- The built-in commands in the order in which they are looked up and listed. -/
def all : List Builtin := [.cd, .exit, .help]

/-- The name a built-in command is called by. -/
def name : Builtin → String
  | .cd => "cd"
  | .exit => "exit"
  | .help => "help"

/-- The built-in command of exactly this name. -/
def ofName? (name : String) : Option Builtin :=
  all.find? (·.name == name)

/-- The text that `help` prints. -/
def listing : String :=
  "Orbit Shell\n" ++
  "Type program names and arguments, and hit enter.\n" ++
  "The following are built in:\n" ++
  String.intercalate "\n" (all.map fun b => "  " ++ b.name) ++ "\n" ++
  "Use the man command for information on other programs.\n" ++
  "Supports piping ('|'), I/O redirection ('<', '>', '>>'), and background tasks ('&').\n"

end Builtin

end CommandShell
