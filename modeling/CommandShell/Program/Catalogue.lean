import CommandShell.Procedure.Interpreter
import CommandShell.Program.Characters
import CommandShell.Program.Compare
import CommandShell.Program.Condition
import CommandShell.Program.Copy
import CommandShell.Program.Count
import CommandShell.Program.Edit
import CommandShell.Program.Ends
import CommandShell.Program.Environment
import CommandShell.Program.Expression
import CommandShell.Program.Lines
import CommandShell.Program.Listing
import CommandShell.Program.Paths
import CommandShell.Program.Permissions
import CommandShell.Program.Places
import CommandShell.Program.Processes
import CommandShell.Program.Search
import CommandShell.Program.Sort
import CommandShell.Program.Writing
import CommandShell.Script.Program

/-!
# The programs of a machine

Which program stands behind the name of an executable. Every name in `Disk.standardPrograms` is
listed here.
-/

namespace CommandShell

namespace Catalogue

/-- The programs by name. -/
def programs : List (String × Program) :=
  [("dash", Script.program),
   ("perl", Procedure.program),
   ("true", fun _ _ => .done 0),
   ("false", fun _ _ => .done 1),
   ("echo", Program.echo),
   ("cat", Program.cat),
   ("wc", Program.wc),
   ("head", Program.head),
   ("tail", Program.tail),
   ("sort", Program.sort),
   ("uniq", Program.uniq),
   ("pwd", Program.pwd),
   ("ls", Program.ls),
   ("seq", Program.seq),
   ("printf", Program.printf),
   ("expr", Program.expr),
   ("test", Program.test),
   ("[", Program.test),
   ("cmp", Program.cmp),
   ("yes", Program.yes),
   ("sleep", Program.sleep),
   ("touch", Program.touch),
   ("mkdir", Program.mkdir),
   ("rmdir", Program.rmdir),
   ("rm", Program.rm),
   ("mv", Program.mv),
   ("cp", Program.cp),
   ("ln", Program.ln),
   ("printenv", Program.printenv),
   ("env", Program.env),
   ("tr", Program.tr),
   ("grep", Program.grep),
   ("tee", Program.tee),
   ("rev", Program.rev),
   ("basename", Program.basename),
   ("dirname", Program.dirname),
   ("cut", Program.cut),
   ("kill", Program.kill),
   ("tac", Program.tac),
   ("nl", Program.nl),
   ("sed", Program.sed),
   ("chmod", Program.chmod),
   ("readlink", Program.readlink),
   ("tty", Program.tty),
   ("xargs", Program.xargs)]

/-- The program of a name. A name without one ends at once. -/
def program (name : String) : Program :=
  (programs.lookup name).getD fun _ _ => .done 0

end Catalogue

end CommandShell
