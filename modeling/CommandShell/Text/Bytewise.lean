import CommandShell.Text.Bytes

/-!
# Texts written byte by byte

Scripts and some programs look at the single bytes of a text. `Bytewise.encode` writes every byte
of a text as the character of its number, and `Bytewise.decode` reads such a text.
-/

namespace CommandShell

namespace Bytewise

/-- The character that stands for a byte. -/
def ofByte (b : UInt8) : Char :=
  Char.ofNat b.toNat

/-- The byte that a character stands for. -/
def toByte (c : Char) : UInt8 :=
  UInt8.ofNat c.toNat

/-- The text that stands for bytes. -/
def ofBytes (bytes : ByteArray) : String :=
  String.ofList (bytes.toList.map ofByte)

/-- The bytes that a text stands for. -/
def toBytes (s : String) : ByteArray :=
  ⟨(s.toList.map toByte).toArray⟩

/-- Writes a text byte by byte. -/
def encode (s : String) : String :=
  ofBytes (Text.bytes s)

/-- The text that has been written byte by byte. -/
def decode (s : String) : String :=
  Text.ofBytes (toBytes s)

end Bytewise

end CommandShell
