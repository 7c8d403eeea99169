import CellGraph.Numeral.Binary64
import Mathlib.Algebra.Order.Ring.Nat
import Mathlib.Tactic.Linarith
import Mathlib.Tactic.NormNum

/-!
# Integers without a binary form

An integer has no binary form exactly if its magnitude reaches the middle between the largest
number and the power of two behind it (`ofInt?_eq_none_iff`), since a half is rounded to the even
neighbour. The first power of a hundred that is too large is the 155th.
-/

namespace CellGraph.Binary64

/-- The least magnitude that is rounded to infinity. -/
def overflow : Nat := 2 ^ 1024 - 2 ^ 970

/-- A quotient below an even bound is rounded up to it in the upper half of the last step; a tie
goes up. -/
theorem roundHalfEven_eq_bound_iff {num half : Nat} (below : num < 2 * half * significandBound) :
    roundHalfEven num (2 * half) = significandBound ↔ half * (2 * significandBound - 1) ≤ num := by
  have bound : significandBound = 2 ^ 53 := rfl
  have whole := Nat.div_add_mod num (2 * half)
  have small : num / (2 * half) < 2 ^ 53 := Nat.div_lt_of_lt_mul (by rwa [bound] at below)
  have positive : 0 < 2 * half := Nat.pos_of_ne_zero fun zero => by simp [zero] at below
  have left := Nat.mod_lt num positive
  rw [bound, roundHalfEven]
  generalize num / (2 * half) = q at whole small ⊢
  generalize num % (2 * half) = r at whole left ⊢
  -- either the quotient is the last one below the bound, or it is smaller by a whole step
  by_cases last : q = 2 ^ 53 - 1
  · subst last
    split
    · omega
    · split <;> omega
  · have lower : 2 * half * q ≤ 2 * half * (2 ^ 53 - 2) := Nat.mul_le_mul_left _ (by omega)
    split
    · omega
    · split <;> omega

theorem leadingExponent_one {num : Nat} (positive : num ≠ 0) :
    leadingExponent num 1 = num.log2 := by
  have guess : ((num.log2 : Int) - (Nat.log2 1 : Int)) = Int.ofNat num.log2 := by
    simp [show Nat.log2 1 = 0 by decide]
  have reached : 1 * Nat.pow 2 num.log2 ≤ num := by
    simpa using Nat.log2_self_le positive
  rw [leadingExponent, guess]
  simp only [scaleDown, reached, if_true]
  rfl

theorem scaleDown_natCast (num den k : Nat) : scaleDown num den (k : Int) = (num, den * 2 ^ k) :=
  rfl

theorem ofRatio_eq_infinite_iff {negative : Bool} {num den : Nat} (positive : num ≠ 0)
    {e : Int} (exponent : e = max (leadingExponent num den - 52) leastExponent) :
    (∃ s, ofRatio negative num den = .infinite s) ↔ greatestExponent < e ∨
      e = greatestExponent ∧
        roundHalfEven (scaleDown num den e).1 (scaleDown num den e).2 = significandBound := by
  rw [ofRatio, if_neg positive, ← exponent]
  dsimp only
  by_cases up : roundHalfEven (scaleDown num den e).1 (scaleDown num den e).2 = significandBound
  · simp only [up, if_true, and_true]
    split <;> simp <;> omega
  · simp only [up, if_false, and_false, or_false]
    split <;> simp <;> omega

/-- The integers that are rounded to infinity. -/
theorem ofRatio_one_eq_infinite_iff {negative : Bool} {num : Nat} (positive : num ≠ 0) :
    (∃ s, ofRatio negative num 1 = .infinite s) ↔ overflow ≤ num := by
  have high := Nat.lt_log2_self (n := num)
  have exponent : ((num.log2 : Int) - 52) = max (leadingExponent num 1 - 52) leastExponent := by
    rw [leadingExponent_one positive, leastExponent]
    omega
  rw [ofRatio_eq_infinite_iff positive exponent]
  rcases Nat.lt_trichotomy num.log2 1023 with less | same | more
  · have below := less
    rw [Nat.log2_lt positive] at below
    have small : num < overflow := Nat.lt_trans below (by decide +kernel)
    simp only [greatestExponent, not_le.2 small, iff_false]
    omega
  · have step : (num.log2 : Int) - 52 = 971 := by omega
    have halves : 1 * 2 ^ 971 = 2 * 2 ^ 970 := by decide +kernel
    have scaled : scaleDown num 1 971 = (num, 2 * 2 ^ 970) :=
      (scaleDown_natCast num 1 971).trans (by rw [halves])
    have below : num < 2 * 2 ^ 970 * significandBound := by
      rw [same] at high
      exact Nat.lt_of_lt_of_le high (by decide +kernel)
    have middle : overflow = 2 ^ 970 * (2 * significandBound - 1) := by decide +kernel
    rw [step, scaled, roundHalfEven_eq_bound_iff below, ← middle]
    simp [greatestExponent]
  · have above : 1024 ≤ num.log2 := more
    rw [Nat.le_log2 positive] at above
    have large : overflow ≤ num := Nat.le_trans (by decide +kernel) above
    simp only [greatestExponent, large, iff_true]
    omega

theorem ofInt?_eq_none_iff {n : Int} : ofInt? n = none ↔ overflow ≤ n.natAbs := by
  have infinite : ofInt? n = none ↔ ∃ s, ofRatio (n < 0) n.natAbs 1 = .infinite s := by
    unfold ofInt?
    split
    · next s same => simp [same]
    · next other => simpa using other
  rw [infinite]
  by_cases zero : n.natAbs = 0
  · have small : ¬ overflow ≤ 0 := by decide +kernel
    simp [zero, ofRatio, Binary64.zero, small]
  · exact ofRatio_one_eq_infinite_iff zero

/-- A power of a hundred may have an exponent up to 154. -/
def hundredLimit : Nat := 155

theorem ofInt?_hundred_eq_none_iff {k : Nat} :
    ofInt? (Nat.pow 100 k) = none ↔ hundredLimit ≤ k := by
  rw [ofInt?_eq_none_iff, Int.natAbs_natCast]
  change overflow ≤ 100 ^ k ↔ 155 ≤ k
  constructor
  · intro large
    by_contra short
    have smaller : 100 ^ k ≤ 100 ^ 154 := Nat.pow_le_pow_right (by decide) (by omega)
    have below : 100 ^ 154 < overflow := by decide +kernel
    omega
  · intro long
    have larger : 100 ^ 155 ≤ 100 ^ k := Nat.pow_le_pow_right (by decide) long
    exact Nat.le_trans (by decide +kernel) larger

end CellGraph.Binary64
