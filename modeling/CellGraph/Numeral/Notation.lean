import CellGraph.Numeral.Shortest
import CellGraph.Numeral.Literal

/-!
# Number texts

Numbers are written with the fewest digits that read back. The point stands among the digits for
numbers from `0.0001` up to, and not including, `10 ^ 16`; larger and smaller ones take an
exponent of at least two digits.
-/

namespace CellGraph

/-- Digits with a decimal point after the first `before` of them; a number always has a digit on
each side of its point. -/
def positional (digits : Text) (before : Int) : Text :=
  if before ≤ 0 then "0." ++ List.replicate (-before).toNat '0' ++ digits
  else if digits.length ≤ before then
    digits ++ List.replicate (before.toNat - digits.length) '0' ++ ".0"
  else digits.take before.toNat ++ '.' :: digits.drop before.toNat

/-- Digits with the point after the first, and the power of ten. -/
def scientific (digits : Text) (power : Int) : Text :=
  let mantissa := match digits with
    | first :: second :: more => first :: '.' :: second :: more
    | digits => digits
  mantissa ++ 'e' :: (if power < 0 then '-' else '+') :: Text.ofNatPadded 2 power.natAbs

def Shortest.Decimal.text (d : Shortest.Decimal) : Text :=
  let digits := Text.ofNat d.digits
  let before := digits.length + d.exponent
  if -4 < before && before ≤ 16 then positional digits before else scientific digits (before - 1)

namespace Binary64

/-- The shortest text that reads back as the number; a whole number keeps the point and
one zero. -/
def text : Binary64 → Text
  | .nan => "nan"
  | .infinite negative => (if negative then ['-'] else []) ++ "inf"
  | .finite negative m q =>
    (if negative then ['-'] else []) ++
      if m = 0 then ("0.0" : Text) else (Shortest.ofBinary m q).text

/-- The text of a number in a cell or a formula: a whole number of magnitude below `10 ^ 16` is
written as an integer, without a sign for zero. -/
def plainText (x : Binary64) : Text :=
  match x.toInt? with
  | some n => if n.natAbs < Nat.pow 10 16 then Text.ofInt n else x.text
  | none => x.text

example : (Literal.value false ⟨"1", none, some ⟨'e', some '-', "5"⟩⟩).text = "1e-05".toList := by
  decide +kernel
example : (ofDecimal false 1234567890123456789 0).plainText = "1.2345678901234568e+18".toList := by
  decide +kernel
example : (zero true).plainText = "0".toList := by decide +kernel

end Binary64
end CellGraph
