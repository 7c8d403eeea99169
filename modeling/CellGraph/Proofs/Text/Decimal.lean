import CellGraph.Proofs.Lexing.Scan
import Mathlib.Data.List.Basic

/-!
# Decimal digits and numbers

The decimal digits of a number are read as that number (`natOfDigits_ofNat`), and digits without
zeros in front are those of the number that they are read as (`ofNat_natOfDigits`).
-/

namespace CellGraph.Text

theorem digitValue?_of_isDigit {c : Char} (digit : c.isDigit) :
    digitValue? c = some (c.toNat - '0'.toNat) := by
  rw [isDigit_iff] at digit
  have bounds : 48 ≤ c.toNat ∧ c.toNat < 58 := by omega
  have found : (zeros.find? fun z => z ≤ c.toNat && c.toNat < z + 10) = some 0x30 := by
    simp [zeros, bounds.1, bounds.2]
  rw [digitValue?, found]
  rfl

theorem isDecimal_of_isDigit {c : Char} (digit : c.isDigit) : isDecimal c := by
  rw [isDecimal, digitValue?_of_isDigit digit]
  rfl

theorem natOfDigits_eq {t : Text} (digits : ∀ c ∈ t, c.isDigit) :
    natOfDigits t = Nat.ofDigitChars 10 t 0 := by
  rw [Nat.ofDigitChars_eq_foldl]
  refine List.foldl_ext _ _ _ fun k c member => ?_
  rw [digitValue?_of_isDigit (digits c member)]
  rfl

/-- The decimal digits of a number are read as that number. -/
theorem natOfDigits_ofNat (n : Nat) : natOfDigits (ofNat n) = n := by
  rw [ofNat, natOfDigits_eq fun _ => Nat.isDigit_of_mem_toDigits (by decide) (by decide)]
  exact Nat.ofDigitChars_ten_toDigits

theorem digitChar_of_isDigit {c : Char} (digit : c.isDigit) :
    Nat.digitChar (c.toNat - '0'.toNat) = c := by
  rw [isDigit_iff] at digit
  have zero : '0'.toNat = 48 := rfl
  apply Char.toNat_inj.1
  rw [Nat.toNat_digitChar_of_lt_ten (by omega)]
  omega

/-- Digits behind a number other than zero are the last ones of a larger number. -/
theorem toDigits_append {t : Text} (digits : ∀ c ∈ t, c.isDigit) {n : Nat} (positive : 0 < n) :
    Nat.toDigits 10 n ++ t = Nat.toDigits 10 (Nat.ofDigitChars 10 t n) := by
  induction t generalizing n with
  | nil => simp
  | cons c t ih =>
    rw [List.forall_mem_cons] at digits
    have small : c.toNat - '0'.toNat < 10 := by
      have bounds := isDigit_iff.1 digits.1
      have zero : '0'.toNat = 48 := rfl
      omega
    have last : Nat.toDigits 10 n ++ [c] = Nat.toDigits 10 (10 * n + (c.toNat - '0'.toNat)) := by
      rw [← Nat.toDigits_append_toDigits (by decide) positive small, Nat.toDigits_of_lt_base small,
        digitChar_of_isDigit digits.1]
    rw [Nat.ofDigitChars_cons, ← ih digits.2 (by omega), ← last, List.append_assoc,
      List.singleton_append]

/-- Digits without zeros in front are those of the number that they write. -/
theorem ofNat_natOfDigits {t : Text} (some_digit : t ≠ []) (digits : ∀ c ∈ t, c.isDigit)
    (unpadded : t.head? = some '0' → t = ['0']) : ofNat (natOfDigits t) = t := by
  obtain ⟨c, t, rfl⟩ := List.exists_cons_of_ne_nil some_digit
  by_cases zero : c = '0'
  · rw [unpadded (by rw [zero]; rfl)]
    decide
  · rw [natOfDigits_eq digits, ofNat, Nat.ofDigitChars_cons]
    rw [List.forall_mem_cons] at digits
    have bounds := isDigit_iff.1 digits.1
    have code : '0'.toNat = 48 := rfl
    have nonzero : c.toNat ≠ 48 := fun same => zero (Char.toNat_inj.1 same)
    have small : 10 * 0 + (c.toNat - '0'.toNat) < 10 := by omega
    rw [← toDigits_append digits.2 (by omega), Nat.toDigits_of_lt_base small, Nat.mul_zero,
      Nat.zero_add, digitChar_of_isDigit digits.1, List.singleton_append]

end CellGraph.Text
