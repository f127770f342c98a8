/-!
# Blanks

The characters that leave a gap in a text, as the Unicode standard lists them: the space and the
other spaces of fixed and variable width, the tabs, and all that ends a line.
-/

namespace CommandShell.Text

/-- The character is a blank. -/
def isBlank (c : Char) : Bool :=
  let n := c.toNat
  (9 ≤ n && n ≤ 13) || n == 0x20 || n == 0x85 || n == 0xA0 || n == 0x1680 ||
    (0x2000 ≤ n && n ≤ 0x200A) || n == 0x2028 || n == 0x2029 || n == 0x202F || n == 0x205F ||
    n == 0x3000

end CommandShell.Text
