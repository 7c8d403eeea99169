import CellGraph.Proofs.Lexing.Scan
import CellGraph.Text.Cased

/-!
# White space apart from other characters

White space is a short list of code points (`mem_blanks_of_isBlank`), so what no white space is can be
checked one by one: no digit of any script and no letter with case.
-/

namespace CellGraph.Text

/-- The code points of white space, one by one. -/
def blanks : List Nat :=
  List.range' 9 5 ++ List.range' 28 5 ++ [0x85, 0xA0, 0x1680] ++ List.range' 0x2000 11 ++
    [0x2028, 0x2029, 0x202F, 0x205F, 0x3000]

theorem mem_blanks_of_isBlank {c : Char} (blank : isBlank c) : c.toNat ∈ blanks := by
  simp only [isBlank, Bool.or_eq_true, Bool.and_eq_true, decide_eq_true_eq, beq_iff_eq] at blank
  simp only [blanks, List.mem_append, List.mem_range'_1, List.mem_cons, List.not_mem_nil]
  omega

/-- What holds of all white space is checked one by one. -/
theorem forall_of_blanks {p : Char → Prop} (checked : ∀ n ∈ blanks, p (Char.ofNat n)) :
    ∀ c : Char, isBlank c → p c := by
  intro c blank
  have known := checked _ (mem_blanks_of_isBlank blank)
  rwa [Char.ofNat_toNat] at known

/-- No white space is a digit of any script. -/
theorem isDecimal_of_isBlank {c : Char} (blank : isBlank c) : isDecimal c = false := by
  have checked : ∀ c : Char, isBlank c → isDecimal c = false :=
    forall_of_blanks (by decide +kernel)
  exact checked c blank

theorem isBlank_of_isDecimal {c : Char} (decimal : isDecimal c) : isBlank c = false := by
  by_cases blank : isBlank c
  · simp [isDecimal_of_isBlank blank] at decimal
  · simpa using blank

theorem ne_of_isDecimal {c d : Char} (decimal : isDecimal c) (other : isDecimal d = false) :
    c ≠ d := by
  rintro rfl
  simp [other] at decimal

/-- No white space is a letter with case. -/
theorem isCased_of_isBlank {c : Char} (blank : isBlank c) : isCased c = false := by
  have checked : ∀ c : Char, isBlank c → isCased c = false :=
    forall_of_blanks (by decide +kernel)
  exact checked c blank

/-- Among the characters of ASCII the letters are those with case, checked one by one. -/
theorem isCased_of_ascii {c : Char} (ascii : c.toNat < 128) : isCased c = c.isAlpha := by
  have checked : ∀ c : Char, c.toNat < 128 → isCased c = c.isAlpha :=
    forall_of_lt (by decide +kernel)
  exact checked c ascii

end CellGraph.Text
