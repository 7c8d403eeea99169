import CellGraph.Numeral.Binary64

/-!
# Shortest decimals

The fewest decimal digits that read back as a given binary number, and of those the digits
nearest to it. A decimal reads back when it lies in the interval of reals that round to the
number; for each count of digits only the number's two neighbours on that decimal grid can.
-/

namespace CellGraph.Shortest

/-- A positive decimal `digits * 10 ^ exponent`. -/
structure Decimal where
  digits : Nat
  exponent : Int
  deriving DecidableEq, Repr

/-- The factors that bring quarters of the last binary place and units of a decimal place to one
integer scale. -/
def scales (exponent place : Int) : Nat × Nat :=
  let quarter := exponent - 2
  (Nat.pow 2 quarter.toNat * Nat.pow 10 (-place).toNat,
    Nat.pow 10 place.toNat * Nat.pow 2 (-quarter).toNat)

/-- The distance, in quarters of the last place, from a number down to the end of the interval of
reals that round to it. It is halved where the binary places below are finer. -/
def quartersBelow (significand : Nat) (exponent : Int) : Nat :=
  if significand = Binary64.significandBound / 2 && Binary64.leastExponent < exponent then 1
  else 2

/-- Whether the decimal `digits * 10 ^ place` reads back as the number. The ends of the interval
belong to it when the significand is even. -/
def readsBack (significand : Nat) (exponent place : Int) (digits : Nat) : Bool :=
  let (binary, decimal) := scales exponent place
  let low := (4 * significand - quartersBelow significand exponent) * binary
  let high := (4 * significand + 2) * binary
  let point := digits * decimal
  if significand % 2 = 0 then low ≤ point && point ≤ high else low < point && point < high

/-- The nearest decimal of a grid that reads back, if any does; a tie goes to the even digit. -/
def onGrid (significand : Nat) (exponent place : Int) : Option Decimal :=
  let (binary, decimal) := scales exponent place
  let below := 4 * significand * binary / decimal
  let rest := 4 * significand * binary % decimal
  let above := below + 1
  match readsBack significand exponent place below, readsBack significand exponent place above with
  | true, true =>
    if 2 * rest < decimal || (2 * rest == decimal && below % 2 == 0) then some ⟨below, place⟩
    else some ⟨above, place⟩
  | true, false => some ⟨below, place⟩
  | false, true => some ⟨above, place⟩
  | false, false => none

/-- The number of digits in front of the decimal point: the least `d` with the number below
`10 ^ d`; zero or negative for numbers below one. -/
def digitsBeforePoint (significand : Nat) (exponent : Int) : Int :=
  let guess := ((Nat.log2 significand : Int) + exponent) * 30103 / 100000 + 1
  let (binary, decimal) := scales exponent guess
  if 4 * significand * binary < decimal then guess else guess + 1

/-- The decimal without zeros at its end. -/
def Decimal.trimZeros (d : Decimal) : Decimal :=
  let digits := Text.trimEnd (· == '0') (Text.ofNat d.digits)
  let dropped := (Text.ofNat d.digits).length - digits.length
  ⟨d.digits / Nat.pow 10 dropped, d.exponent + dropped⟩

/-- The shortest decimal of a positive number. Seventeen digits always suffice. -/
def ofBinary (significand : Nat) (exponent : Int) : Decimal :=
  let before := digitsBeforePoint significand exponent
  let found := (List.range 17).findSome? fun k =>
    onGrid significand exponent (before - (k + 1 : Nat))
  (found.getD ⟨significand, exponent⟩).trimZeros

example : ofBinary 7205759403792794 (-56) = ⟨1, -1⟩ := by decide +kernel
example : ofBinary 1 (-1074) = ⟨5, -324⟩ := by decide +kernel
example : ofBinary 9007199254740991 971 = ⟨17976931348623157, 292⟩ := by decide +kernel

end CellGraph.Shortest
