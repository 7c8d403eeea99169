import CellGraph.Numeral.Notation
import CellGraph.Proofs.Expr.Area
import CellGraph.Proofs.Lexing.Token

/-!
# Written numbers

What a number is written as is a minus sign or nothing and then a number as formulas have them, or a
word for infinity or for no number (`Binary64.plainText_cases`).
-/

namespace CellGraph

open Token (Whole)

/-- A text that is read as a number to its end is a number. -/
theorem Literal.whole_of_scan {t : Text} {l : Literal} (read : scan Char.isDigit t = some (l, [])) :
    Whole (.number t) := by
  refine ⟨l, formed_of_scan read, ?_⟩
  simpa using (eq_of_scan read).1

theorem Literal.formed_ofNat (n : Nat) : Literal.Formed ⟨Text.ofNat n, none, none⟩ where
  whole := fun _ => Text.isDigit_of_mem_ofNat
  fraction := by simp
  some_digit := .inl (Text.ofNat_ne_nil n)
  exponent := by simp

theorem whole_ofNat (n : Nat) : Whole (.number (Text.ofNat n)) :=
  ⟨_, Literal.formed_ofNat n, by simp [Literal.text]⟩

/-! ## Digits -/

/-- A text of digits and nothing else. -/
structure Digits (t : Text) : Prop where
  some_digit : t ≠ []
  digits : ∀ c ∈ t, c.isDigit

theorem digits_ofNat (n : Nat) : Digits (Text.ofNat n) :=
  ⟨Text.ofNat_ne_nil n, fun _ => Text.isDigit_of_mem_ofNat⟩

theorem isDigit_of_mem_zeros {k : Nat} {c : Char} (member : c ∈ List.replicate k '0') :
    c.isDigit := by
  rw [List.eq_of_mem_replicate member]
  decide

/-- Digits around a point are a number. -/
theorem whole_pointed {t u : Text} (before : ∀ c ∈ t, c.isDigit) (behind : ∀ c ∈ u, c.isDigit)
    (some_digit : t ≠ []) : Whole (.number (t ++ '.' :: u)) := by
  refine ⟨⟨t, some u, none⟩, ⟨before, ?_, .inl some_digit, by simp⟩, by simp [Literal.text]⟩
  rintro _ ⟨⟩
  exact behind

theorem whole_positional {digits : Text} (shape : Digits digits) (before : Int) :
    Whole (.number (positional digits before)) := by
  have zeros := fun k c => isDigit_of_mem_zeros (k := k) (c := c)
  unfold positional
  split
  · have small : ("0." : Text) = ['0', '.'] := rfl
    rw [small]
    refine whole_pointed (t := ['0']) (List.all_eq_true.1 rfl) ?_ (by simp)
    intro c member
    rcases List.mem_append.1 member with zero | digit
    · exact zeros _ c zero
    · exact shape.digits c digit
  · split
    · have point : (".0" : Text) = ['.', '0'] := rfl
      rw [point]
      refine whole_pointed ?_ (List.all_eq_true.1 rfl) (by simp [shape.some_digit])
      intro c member
      rcases List.mem_append.1 member with digit | zero
      · exact shape.digits c digit
      · exact zeros _ c zero
    · refine whole_pointed (fun c member => shape.digits c (List.mem_of_mem_take member))
        (fun c member => shape.digits c (List.mem_of_mem_drop member)) ?_
      have positive : before.toNat ≠ 0 := by omega
      simp [shape.some_digit, positive]

theorem digits_ofNatPadded (width n : Nat) : Digits (Text.ofNatPadded width n) where
  some_digit := by simp [Text.ofNatPadded, Text.ofNat_ne_nil]
  digits := by
    intro c member
    rcases List.mem_append.1 member with zero | digit
    · exact isDigit_of_mem_zeros zero
    · exact Text.isDigit_of_mem_ofNat digit

theorem exists_exponent (power : Int) : ∃ e : Exponent, e.Formed ∧ e.text =
    'e' :: (if power < 0 then '-' else '+') :: Text.ofNatPadded 2 power.natAbs := by
  have padded := digits_ofNatPadded 2 power.natAbs
  refine ⟨⟨'e', some (if power < 0 then '-' else '+'), _⟩,
    ⟨.inl rfl, ?_, padded.digits, padded.some_digit⟩, rfl⟩
  rintro _ ⟨⟩
  split <;> simp

theorem whole_scientific {digits : Text} (shape : Digits digits) (power : Int) :
    Whole (.number (scientific digits power)) := by
  obtain ⟨e, formed, text⟩ := exists_exponent power
  have exponent : ∀ e' ∈ some e, e'.Formed := by simpa using formed
  unfold scientific
  dsimp only
  rw [← text]
  split
  · next first second more =>
    have all := shape.digits
    simp only [List.forall_mem_cons] at all
    refine ⟨⟨[first], some (second :: more), some e⟩, ⟨?_, ?_, .inl (by simp), exponent⟩, ?_⟩
    · simpa using all.1
    · rintro _ ⟨⟩
      simpa using all.2
    · simp [Literal.text]
  · refine ⟨⟨digits, none, some e⟩, ⟨shape.digits, by simp, .inl shape.some_digit, exponent⟩, ?_⟩
    simp [Literal.text]

/-! ## Numbers -/

namespace Binary64

theorem whole_magnitude (m : Nat) (q : Int) : Whole (.number
    (if m = 0 then ("0.0" : Text) else (Shortest.ofBinary m q).text)) := by
  split
  · have digit : ∀ c ∈ ['0'], c.isDigit := List.all_eq_true.1 rfl
    exact whole_pointed digit digit (by simp)
  · unfold Shortest.Decimal.text
    dsimp only
    split
    · exact whole_positional (digits_ofNat _) _
    · exact whole_scientific (digits_ofNat _) _

/-- A number that is not negative is written as formulas have numbers. -/
theorem whole_plainText_finite (m : Nat) (q : Int) :
    Whole (.number (plainText (.finite false m q))) := by
  have plain : Whole (.number (text (.finite false m q))) := whole_magnitude m q
  unfold plainText
  split
  · next n isInt =>
    split
    · simp only [toInt?, Bool.false_eq_true, if_false, Option.ite_none_right_eq_some,
        Option.some.injEq] at isInt
      rw [← isInt.2]
      exact whole_ofNat _
    · exact plain
  · exact plain

/-- How numbers are written. -/
theorem plainText_cases (x : Binary64) : ∃ sign t, x.plainText = sign ++ t ∧
    (sign = [] ∨ sign = ['-']) ∧ (t = "inf" ∨ t = "nan" ∨ Whole (.number t)) := by
  cases x with
  | nan => exact ⟨[], _, rfl, .inl rfl, .inr (.inl rfl)⟩
  | infinite negative =>
    cases negative with
    | false => exact ⟨[], _, rfl, .inl rfl, .inl rfl⟩
    | true => exact ⟨['-'], _, rfl, .inr rfl, .inl rfl⟩
  | finite negative m q =>
    cases negative with
    | false => exact ⟨[], _, rfl, .inl rfl, .inr (.inr (whole_plainText_finite m q))⟩
    | true =>
      have plain : text (.finite true m q) = ['-'] ++
        if m = 0 then ("0.0" : Text) else (Shortest.ofBinary m q).text := rfl
      have magnitude := whole_magnitude m q
      unfold plainText
      split
      · next n isInt =>
        split
        · cases n with
          | ofNat n => exact ⟨[], _, rfl, .inl rfl, .inr (.inr (whole_ofNat n))⟩
          | negSucc n => exact ⟨['-'], _, rfl, .inr rfl, .inr (.inr (whole_ofNat (n + 1)))⟩
        · exact ⟨_, _, plain, .inr rfl, .inr (.inr magnitude)⟩
      · exact ⟨_, _, plain, .inr rfl, .inr (.inr magnitude)⟩

/-- A number is written with the characters of numbers and letters. -/
theorem not_mem_plainText {c : Char} (noNumber : c.isDigit = false ∧ Literal.isMark c = false)
    (noLetter : c.isAlpha = false) (x : Binary64) : c ∉ x.plainText := by
  obtain ⟨sign, t, written, isSign, word⟩ := plainText_cases x
  have noSign : c ≠ '-' := by
    rintro rfl
    exact absurd noNumber.2 (by decide)
  have free : c ∉ t := by
    rcases word with rfl | rfl | ⟨l, formed, rfl⟩
    · intro member
      have letters : ∀ d ∈ ("inf" : Text), d.isAlpha := List.all_eq_true.1 rfl
      simp [letters c member] at noLetter
    · intro member
      have letters : ∀ d ∈ ("nan" : Text), d.isAlpha := List.all_eq_true.1 rfl
      simp [letters c member] at noLetter
    · exact formed.not_mem noNumber
  rw [written]
  rcases isSign with rfl | rfl <;> simp [free, noSign]

/-! ## Numbers without sign -/

/-- A number that is not negative; zero has no sign. -/
def Unsigned : Binary64 → Prop
  | .finite negative _ _ | .infinite negative => negative = false
  | .nan => True

theorem unsigned_ofRatio (num den : Nat) : Unsigned (ofRatio false num den) := by
  unfold ofRatio
  split
  · rfl
  · dsimp only
    split <;> dsimp only <;> split <;> rfl

theorem unsigned_ofDecimal (digits : Nat) (exponent : Int) :
    Unsigned (ofDecimal false digits exponent) := by
  unfold ofDecimal
  dsimp only
  repeat' split
  · rfl
  · rfl
  · rfl
  · exact unsigned_ofRatio _ _
  · exact unsigned_ofRatio _ _

theorem unsigned_ofInt? {n : Nat} {x : Binary64} (found : ofInt? n = some x) : Unsigned x := by
  unfold ofInt? at found
  split at found
  · cases found
  · cases found
    have positive : ¬ (n : Int) < 0 := by omega
    simpa [positive] using unsigned_ofRatio n 1

theorem Unsigned.div {x y : Binary64} (first : Unsigned x) (second : Unsigned y) :
    Unsigned (x.div y) := by
  cases x with
  | nan => trivial
  | infinite negative =>
    obtain rfl : negative = false := first
    cases y with
    | finite negative' m q =>
      obtain rfl : negative' = false := second
      rfl
    | _ => trivial
  | finite negative m q =>
    obtain rfl : negative = false := first
    cases y with
    | nan => trivial
    | infinite negative' =>
      obtain rfl : negative' = false := second
      rfl
    | finite negative' m' q' =>
      obtain rfl : negative' = false := second
      simp only [Binary64.div]
      repeat' split
      · trivial
      · rfl
      · exact unsigned_ofRatio _ _

theorem scanSign_of_head? {t : Text} (noSign : t.head? ≠ some '-') :
    ∃ u, scanSign t = (false, u) := by
  unfold scanSign
  split
  · exact absurd rfl noSign
  · exact ⟨_, rfl⟩
  · exact ⟨_, rfl⟩

theorem unsigned_read? {t : Text} {x : Binary64} (noSign : t.head? ≠ some '-')
    (read : read? t = some x) : Unsigned x := by
  obtain ⟨u, split⟩ := scanSign_of_head? noSign
  simp only [read?, split] at read
  repeat' split at read
  · cases read
    exact unsigned_ofDecimal _ _
  · cases read
    rfl
  · cases read
    trivial
  · cases read

theorem Unsigned.plainText_cases {x : Binary64} (unsigned : Unsigned x) :
    x.plainText = "inf" ∨ x.plainText = "nan" ∨ Token.Whole (.number x.plainText) := by
  cases x with
  | nan => exact .inr (.inl rfl)
  | infinite negative =>
    obtain rfl : negative = false := unsigned
    exact .inl rfl
  | finite negative m q =>
    obtain rfl : negative = false := unsigned
    exact .inr (.inr (whole_plainText_finite m q))

end Binary64
end CellGraph
