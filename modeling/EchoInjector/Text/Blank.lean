/-!
# Blanks of all scripts

The blank, the controls that move to another column or line, and the further blanks and separators
of the character database that count as white space.
-/

namespace EchoInjector.Text

/-- Whether a character is blank, in any script. -/
def isBlank (c : Char) : Bool :=
  let n := c.toNat
  (9 ≤ n && n ≤ 13) || n = 0x20 || n = 0x85 || n = 0xa0 || n = 0x1680
    || (0x2000 ≤ n && n ≤ 0x200a) || n = 0x2028 || n = 0x2029 || n = 0x202f || n = 0x205f
    || n = 0x3000

/-- A text without the blanks at its two ends. -/
def trim (s : List Char) : List Char :=
  ((s.dropWhile isBlank).reverse.dropWhile isBlank).reverse

end EchoInjector.Text
