import CellGraph.Codec.Base64
import Mathlib.Data.List.TakeWhile

/-!
# Reading base64

A text in base64 is a word of digits and the padding that completes its last group
(`exists_encode`), so the padding can be left out and put back. Reading gives the bytes again
(`decode?_encode`).
-/

namespace CellGraph.Base64

/-- The characters that need no escape in an address: letters, digits, the underscore and the
hyphen. -/
def isSafe (c : Char) : Bool := Text.isWordChar c || c == '-'

/-- The equals signs that complete the last group of a word. -/
def padding (word : Text) : Text := List.replicate ((4 - word.length % 4) % 4) '='

theorem isSafe_charOf : ∀ n < 64, isSafe (charOf n) := by decide +kernel

theorem digit?_charOf : ∀ n < 64, digit? (charOf n) = some n := by decide +kernel

theorem ne_padding_of_isSafe {c : Char} (safe : isSafe c) : c ≠ '=' := by
  rintro rfl
  cases safe

/-- Bytes are written as a word of safe characters and its padding. -/
theorem exists_encode (bytes : List UInt8) :
    ∃ word, (∀ c ∈ word, isSafe c) ∧ encode bytes = word ++ padding word := by
  fun_induction encode bytes with
  | case1 a b c rest n ih =>
    obtain ⟨word, safe, written⟩ := ih
    have left := a.toNat_lt
    have middle := b.toNat_lt
    have right := c.toNat_lt
    refine ⟨charOf (n / 262144) :: charOf (n / 4096 % 64) :: charOf (n / 64 % 64) ::
      charOf (n % 64) :: word, ?_, ?_⟩
    · simp only [List.forall_mem_cons]
      exact ⟨isSafe_charOf _ (by omega), isSafe_charOf _ (by omega), isSafe_charOf _ (by omega),
        isSafe_charOf _ (by omega), safe⟩
    · have same : padding (charOf (n / 262144) :: charOf (n / 4096 % 64) ::
          charOf (n / 64 % 64) :: charOf (n % 64) :: word) = padding word := by
        simp only [padding, List.length_cons]
        congr 1
        omega
      rw [written, same]
      rfl
  | case2 a b n =>
    have left := a.toNat_lt
    have right := b.toNat_lt
    refine ⟨[charOf (n / 4096), charOf (n / 64 % 64), charOf (n % 64)], ?_, rfl⟩
    simp only [List.forall_mem_cons]
    exact ⟨isSafe_charOf _ (by omega), isSafe_charOf _ (by omega), isSafe_charOf _ (by omega),
      by simp⟩
  | case3 a n =>
    have left := a.toNat_lt
    refine ⟨[charOf (n / 64), charOf (n % 64)], ?_, rfl⟩
    simp only [List.forall_mem_cons]
    exact ⟨isSafe_charOf _ (by omega), isSafe_charOf _ (by omega), by simp⟩
  | case4 => exact ⟨[], by simp, rfl⟩

/-- What is left of the written bytes without the equals signs at the end is their word. -/
theorem encode_eq_trimEnd (bytes : List UInt8) :
    let word := Text.trimEnd (· == '=') (encode bytes)
    (∀ c ∈ word, isSafe c) ∧ encode bytes = word ++ padding word := by
  obtain ⟨word, safe, written⟩ := exists_encode bytes
  have noPadding : word.reverse.dropWhile (· == '=') = word.reverse := by
    refine List.dropWhile_eq_self_iff.2 fun nonempty => ?_
    have inWord : word.reverse[0] ∈ word := List.mem_reverse.1 (List.getElem_mem nonempty)
    simpa using ne_padding_of_isSafe (safe _ inWord)
  have trimmed : Text.trimEnd (· == '=') (encode bytes) = word := by
    rw [written, Text.trimEnd, List.reverse_append,
      List.dropWhile_append_of_pos (by simp [padding]), noPadding, List.reverse_reverse]
  rw [trimmed]
  exact ⟨safe, written⟩

/-! ## Reading -/

theorem decodeFrom_digit {n : Nat} (small : n < 64) (digits left padding : Nat) (t : Text) :
    decodeFrom digits left padding (charOf n :: t) =
      match digits with
      | 0 => decodeFrom 1 n 0 t
      | 1 => (decodeFrom 2 (n % 16) 0 t).map (UInt8.ofNat (left * 4 + n / 16) :: ·)
      | 2 => (decodeFrom 3 (n % 4) 0 t).map (UInt8.ofNat (left * 16 + n / 4) :: ·)
      | _ => (decodeFrom 0 0 0 t).map (UInt8.ofNat (left * 64 + n) :: ·) := by
  have noPadding := ne_padding_of_isSafe (isSafe_charOf n small)
  have digit := digit?_charOf n small
  rcases digits with _ | _ | _ | digits <;> simp only [decodeFrom, if_neg noPadding, digit]

/-- Two digits hold a byte and the upper half of the next. -/
theorem decodeFrom_pair {m n : Nat} (first : m < 64) (second : n < 64) (t : Text) :
    decodeFrom 0 0 0 (charOf m :: charOf n :: t) =
      (decodeFrom 2 (n % 16) 0 t).map (UInt8.ofNat (m * 4 + n / 16) :: ·) := by
  simp only [decodeFrom_digit first, decodeFrom_digit second]

theorem decode?_encode (bytes : List UInt8) : decode? (encode bytes) = some bytes := by
  rw [decode?]
  fun_induction encode bytes with
  | case1 a b c rest n ih =>
    have left := a.toNat_lt
    have middle := b.toNat_lt
    have right := c.toNat_lt
    have first : n / 262144 * 4 + n / 4096 % 64 / 16 = a.toNat := by omega
    have second : n / 4096 % 64 % 16 * 16 + n / 64 % 64 / 4 = b.toNat := by omega
    have third : n / 64 % 64 % 4 * 64 + n % 64 = c.toNat := by omega
    rw [decodeFrom_pair (by omega) (by omega), decodeFrom_digit (by omega)]
    simp only
    rw [decodeFrom_digit (by omega)]
    simp only [first, second, third, ih, UInt8.ofNat_toNat, Option.map_some]
  | case2 a b n =>
    have left := a.toNat_lt
    have right := b.toNat_lt
    have first : n / 4096 * 4 + n / 64 % 64 / 16 = a.toNat := by omega
    have second : n / 64 % 64 % 16 * 16 + n % 64 / 4 = b.toNat := by omega
    rw [decodeFrom_pair (by omega) (by omega), decodeFrom_digit (by omega)]
    simp only [first, second, UInt8.ofNat_toNat]
    rfl
  | case3 a n =>
    have left := a.toNat_lt
    have first : n / 64 * 4 + n % 64 / 16 = a.toNat := by omega
    rw [decodeFrom_pair (by omega) (by omega)]
    simp only [first, UInt8.ofNat_toNat]
    rfl
  | case4 => rfl

end CellGraph.Base64
