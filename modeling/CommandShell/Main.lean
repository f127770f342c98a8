import CommandShell.Invocation

/-!
# The command line

The program reads its standard input to the end, runs a shell on these lines, and shows what the
shell and its children have written. The shell runs on a machine of its own, with nothing in the
directory it starts in.
-/

namespace CommandShell

/-- The directory the shell starts in. -/
def startDirectory : String := "/home/shell"

/-- Reads a stream to its end, behind what has been read already. -/
partial def readToEnd (stream : IO.FS.Stream) (text : ByteArray := .empty) : IO ByteArray := do
  let block ← stream.read 8192
  if block.isEmpty then return text else readToEnd stream (text ++ block)

end CommandShell

open CommandShell in
/-- Runs a shell on the lines of the standard input, and ends with its exit code. -/
def main : IO UInt32 := do
  let text ← readToEnd (← IO.getStdin)
  match ({ root := startDirectory, input := .file text } : Invocation).run with
  | none => return 1
  | some aftermath =>
    (← IO.getStdout).write aftermath.output
    (← IO.getStderr).write aftermath.errors
    return aftermath.code.toUInt32
