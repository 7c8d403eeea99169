import CellGraph.Text.Basic

/-!
# White space

The characters that count as white space everywhere in the library: those of the bidirectional
classes B, S and WS together with the space separators of Unicode.
-/

namespace CellGraph.Text

/-- White space of Unicode, the four information separators U+001C to U+001F included. -/
def isBlank (c : Char) : Bool :=
  let n := c.toNat
  (9 ≤ n && n ≤ 13) || (28 ≤ n && n ≤ 32) || n == 0x85 || n == 0xA0 || n == 0x1680 ||
    (0x2000 ≤ n && n ≤ 0x200A) || n == 0x2028 || n == 0x2029 || n == 0x202F || n == 0x205F ||
    n == 0x3000

/-- The text without the white space at its two ends. -/
def trim (t : Text) : Text := trimEnd isBlank (t.dropWhile isBlank)

end CellGraph.Text
