import CellGraph.Text.Basic

/-!
# Binary floating point

Numbers with 53 significant bits, the arithmetic of spreadsheets. Every operation is exact
arithmetic on natural numbers followed by one rounding to the nearest number, a tie going to the
even significand; nothing depends on the processor.
-/

namespace CellGraph

/-- A number of the binary64 format: `significand * 2 ^ exponent` with a sign, an infinity, or
the result of no operation. -/
inductive Binary64 where
  | finite (negative : Bool) (significand : Nat) (exponent : Int)
  | infinite (negative : Bool)
  | nan
  deriving DecidableEq, Repr, Inhabited

namespace Binary64

def leastExponent : Int := -1074

def greatestExponent : Int := 971

def significandBound : Nat := Nat.pow 2 53

def zero (negative : Bool) : Binary64 := .finite negative 0 leastExponent

/-- The integer nearest to `num / den`; a half goes to the even neighbour. -/
def roundHalfEven (num den : Nat) : Nat :=
  let whole := num / den
  let left := num % den
  if 2 * left < den then whole
  else if den < 2 * left then whole + 1
  else whole + whole % 2

/-- A fraction divided by a power of two, as numerator and denominator. -/
def scaleDown (num den : Nat) : Int → Nat × Nat
  | .ofNat k => (num, den * Nat.pow 2 k)
  | .negSucc k => (num * Nat.pow 2 (k + 1), den)

/-- The exponent of the leading bit of a positive fraction: the greatest `e` with
`2 ^ e ≤ num / den`. -/
def leadingExponent (num den : Nat) : Int :=
  let guess : Int := (Nat.log2 num : Int) - (Nat.log2 den : Int)
  let (n, d) := scaleDown num den guess
  if d ≤ n then guess else guess - 1

def ofRatio (negative : Bool) (num den : Nat) : Binary64 :=
  if num = 0 then zero negative
  else
    let exponent := max (leadingExponent num den - 52) leastExponent
    let (n, d) := scaleDown num den exponent
    let rounded := roundHalfEven n d
    let (significand, exponent) :=
      if rounded = significandBound then (rounded / 2, exponent + 1) else (rounded, exponent)
    if greatestExponent < exponent then .infinite negative
    else .finite negative significand exponent

/-- The number nearest to an integer; `none` if that would be an infinity. -/
def ofInt? (n : Int) : Option Binary64 :=
  match ofRatio (n < 0) n.natAbs 1 with
  | .infinite _ => none
  | x => some x

/-- The number nearest to `digits * 10 ^ exponent`. -/
def ofDecimal (negative : Bool) (digits : Nat) (exponent : Int) : Binary64 :=
  if digits = 0 then zero negative
  else
    let size := (Text.ofNat digits).length + exponent
    if 310 < size then .infinite negative
    else if size < -330 then zero negative
    else match exponent with
      | .ofNat k => ofRatio negative (digits * Nat.pow 10 k) 1
      | .negSucc k => ofRatio negative digits (Nat.pow 10 (k + 1))

/-- The magnitude of a finite number as a fraction. -/
def magnitude (significand : Nat) : Int → Nat × Nat
  | .ofNat k => (significand * Nat.pow 2 k, 1)
  | .negSucc k => (significand, Nat.pow 2 (k + 1))

def div : Binary64 → Binary64 → Binary64
  | .nan, _ | _, .nan | .infinite _, .infinite _ => .nan
  | .infinite s, .finite s' _ _ => .infinite (s != s')
  | .finite s _ _, .infinite s' => zero (s != s')
  | .finite s m q, .finite s' m' q' =>
    if m' = 0 then if m = 0 then .nan else .infinite (s != s')
    else
      let (n, d) := magnitude m q
      let (n', d') := magnitude m' q'
      ofRatio (s != s') (n * d') (d * n')

/-- The integer that a number is, if it is one. -/
def toInt? : Binary64 → Option Int
  | .finite s m q =>
    let (n, d) := magnitude m q
    if n % d = 0 then some (if s then -(n / d : Nat) else (n / d : Nat)) else none
  | _ => none

example : ofRatio false 1 10 = .finite false 7205759403792794 (-56) := by decide +kernel
example : ofDecimal false 9007199254740993 0 = .finite false (2 ^ 52) 1 := by decide +kernel
example : ofInt? (10 ^ 310) = none := by decide +kernel
example : ofDecimal false 5 (-324) = .finite false 1 leastExponent := by decide +kernel

end Binary64
end CellGraph
