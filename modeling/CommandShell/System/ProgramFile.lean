/-!
# Files of programs

What stands in the file of a program that comes with the system: a mark by which such files are
known, and which program it is. A copy of the file is the same program, whatever its name, and
whatever has been written behind its end.
-/

namespace CommandShell

namespace ProgramFile

/-- The mark that the files of programs begin with. -/
def mark : List UInt8 := [0x7F, 0x45, 0x4C, 0x46]

/-- The content of the file of a program. -/
def content (program : String) : ByteArray :=
  ⟨(mark ++ program.toUTF8.toList ++ [0]).toArray⟩

/-- Which program the content of a file is, if it is one. -/
def program? (content : ByteArray) : Option String :=
  if (content.extract 0 mark.length).toList = mark then
    let bytes := (content.extract mark.length 256).toList
    if bytes.contains 0 then String.fromUTF8? ⟨(bytes.takeWhile (· ≠ 0)).toArray⟩ else none
  else none

end ProgramFile

end CommandShell
