import CommandShell.Text.Invisible

/-!
# Quoted text

A text inside a message, put between double quotes so that its ends and its blanks can be seen.
Quotes and backslashes take a backslash, the usual controls their letter, and every other
character that would leave no mark is written by its number in hexadecimal.
-/

namespace CommandShell.Text

/-- One character of a quoted text. -/
def quoteChar (c : Char) : List Char :=
  match c with
  | '"' => ['\\', '"']
  | '\\' => ['\\', '\\']
  | '\n' => ['\\', 'n']
  | '\r' => ['\\', 'r']
  | '\t' => ['\\', 't']
  | '\x00' => ['\\', '0']
  | _ =>
    if isInvisible c then
      ['\\', 'u', '\x7b'] ++ Nat.toDigits 16 c.toNat ++ ['\x7d']
    else [c]

/-- A text between double quotes. -/
def quote (s : String) : String :=
  String.ofList ('"' :: s.toList.flatMap quoteChar ++ ['"'])

end CommandShell.Text
