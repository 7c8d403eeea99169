import CellGraph.Numeral.Literal
import CellGraph.Text.Blank

/-!
# Written integers

Integers in digits of any script, with a sign in front and white space around them. Underscores may
group the digits.
-/

namespace CellGraph.Integer

/-- A number with more digits than this is not read. -/
def digitLimit : Nat := 4300

/-- A text without its underscores, each of which must stand between two digits; `previous` is the
character before the text. -/
def ungroup? (previous : Option Char) : Text → Option Text
  | [] => some []
  | c :: t =>
    if c = '_' then
      if previous.any Text.isDecimal && t.head?.any Text.isDecimal then ungroup? (some c) t
      else none
    else (ungroup? (some c) t).map (c :: ·)

def read? (t : Text) : Option Int := do
  let (negative, digits) := Binary64.scanSign (← ungroup? none (Text.trim t))
  if digits ≠ [] ∧ digits.all Text.isDecimal ∧ digits.length ≤ digitLimit then
    let n := Text.natOfDigits digits
    return if negative then -(n : Int) else n
  else none

example : read? " -1_000\n" = some (-1000) := by decide +kernel
example : read? "1__0" = none ∧ read? "_1" = none ∧ read? "" = none := by decide +kernel

end CellGraph.Integer
