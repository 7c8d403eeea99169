import CellGraph.Expr.Token

/-!
# What scanners read

The shapes of written numbers, addresses and references, said apart from the scanners. A scanner
reads exactly these: what it reads has its shape, and whatever has the shape is read whole in
front of every text that cannot continue it.
-/

namespace CellGraph

/-! ## Characters -/

namespace Text

theorem isUpper_iff {c : Char} : c.isUpper ↔ 65 ≤ c.toNat ∧ c.toNat ≤ 90 :=
  decide_eq_true_iff.trans (and_congr UInt32.le_iff_toNat_le UInt32.le_iff_toNat_le)

theorem isLower_iff {c : Char} : c.isLower ↔ 97 ≤ c.toNat ∧ c.toNat ≤ 122 :=
  Bool.and_eq_true_iff.trans (and_congr (decide_eq_true_iff.trans UInt32.le_iff_toNat_le)
    (decide_eq_true_iff.trans UInt32.le_iff_toNat_le))

theorem isDigit_iff {c : Char} : c.isDigit ↔ 48 ≤ c.toNat ∧ c.toNat ≤ 57 :=
  Bool.and_eq_true_iff.trans (and_congr (decide_eq_true_iff.trans UInt32.le_iff_toNat_le)
    (decide_eq_true_iff.trans UInt32.le_iff_toNat_le))

theorem isAlpha_iff {c : Char} : c.isAlpha ↔ c.isUpper ∨ c.isLower := Bool.or_eq_true_iff

/-- What has a capital is an ASCII letter. -/
theorem isAlpha_of_toUpper {c : Char} (capital : c.toUpper.isUpper) : c.isAlpha := by
  rw [isAlpha_iff]
  by_cases small : c.isLower
  · exact .inr small
  · have same : c.toUpper = c := dif_neg fun range =>
      small (Bool.and_eq_true_iff.2 ⟨decide_eq_true range.1, decide_eq_true range.2⟩)
    exact .inl (same ▸ capital)

theorem isWordChar_iff {c : Char} : isWordChar c ↔ c.isAlpha ∨ c.isDigit ∨ c = '_' := by
  simp [isWordChar, Char.isAlphanum, or_assoc]

theorem isWordChar_of_isUpper {c : Char} (capital : c.isUpper) : isWordChar c :=
  isWordChar_iff.2 (.inl (isAlpha_iff.2 (.inl capital)))

theorem isWordChar_of_isDigit {c : Char} (digit : c.isDigit) : isWordChar c :=
  isWordChar_iff.2 (.inr (.inl digit))

/-- What holds of all characters of a short text is checked one by one. -/
theorem forall_of_all {p : Char → Prop} [DecidablePred p] {t : Text}
    (checked : t.all fun c => decide (p c)) : ∀ c ∈ t, p c := by
  intro c member
  exact of_decide_eq_true (List.all_eq_true.1 checked c member)

/-- What holds of all characters up to a bound is checked code point by code point. -/
theorem forall_of_lt {p : Char → Prop} {bound : Nat} (checked : ∀ n < bound, p (Char.ofNat n)) :
    ∀ c : Char, c.toNat < bound → p c := by
  intro c below
  have known := checked c.toNat below
  rwa [Char.ofNat_toNat] at known

/-- Characters that ASCII can print, blanks included. -/
def Printable (c : Char) : Prop := 0x20 ≤ c.toNat ∧ c.toNat < 0x7F

instance : DecidablePred Printable := fun c =>
  inferInstanceAs (Decidable (0x20 ≤ c.toNat ∧ c.toNat < 0x7F))

theorem printable_of_isAlphanum {c : Char} (alphanumeric : c.isAlphanum) : Printable c := by
  rw [Char.isAlphanum, Bool.or_eq_true, isAlpha_iff, isUpper_iff, isLower_iff, isDigit_iff]
    at alphanumeric
  unfold Printable
  omega

/-- No capital is a digit. -/
theorem not_isDigit_of_isUpper {c : Char} (capital : c.isUpper) : ¬ c.isDigit := by
  rw [isUpper_iff] at capital
  rw [isDigit_iff]
  omega

end Text

/-! ## Runs of a class -/

theorem Text.takeWhile_append_stop {p : Char → Bool} {t rest : Text}
    (inside : ∀ c ∈ t, p c) (stop : ∀ c ∈ rest.head?, p c = false) :
    (t ++ rest).takeWhile p = t := by
  rw [List.takeWhile_append_of_pos inside]
  cases rest with
  | nil => simp
  | cons c rest => simp [stop c rfl]

theorem Text.dropWhile_append_stop {p : Char → Bool} {t rest : Text}
    (inside : ∀ c ∈ t, p c) (stop : ∀ c ∈ rest.head?, p c = false) :
    (t ++ rest).dropWhile p = rest := by
  rw [List.dropWhile_append_of_pos inside]
  cases rest with
  | nil => rfl
  | cons c rest => simp [stop c rfl]

theorem Text.takeWhile_inside {p : Char → Bool} (t : Text) : ∀ c ∈ t.takeWhile p, p c :=
  List.all_eq_true.1 List.all_takeWhile

theorem Text.dropWhile_stop {p : Char → Bool} (t : Text) :
    ∀ c ∈ (t.dropWhile p).head?, p c = false := by
  intro c member
  have stopped := List.head?_dropWhile_not p t
  rw [Option.mem_def.1 member] at stopped
  simpa using stopped

/-- Dropping a class leaves no character in front that neither the text nor its end shows. -/
theorem Text.head?_dropWhile_append_ne {p : Char → Bool} {d : Char} {t rest : Text}
    (inside : d ∉ t) (behind : rest.head? ≠ some d) (stop : ∀ c ∈ rest.head?, p c = false) :
    ((t ++ rest).dropWhile p).head? ≠ some d := by
  induction t with
  | nil =>
    cases rest with
    | nil => simp
    | cons c rest => simpa [stop c rfl] using behind
  | cons c t ih =>
    simp only [List.mem_cons, not_or] at inside
    by_cases taken : p c
    · simpa [taken] using ih inside.2
    · simpa [taken] using Ne.symm inside.1

/-! ## Numbers -/

/-- The shape of an exponent: a mark, perhaps a sign, and digits. -/
structure Exponent.Formed (e : Exponent) : Prop where
  mark : e.mark = 'e' ∨ e.mark = 'E'
  sign : ∀ c ∈ e.sign, c = '+' ∨ c = '-'
  digits : ∀ c ∈ e.digits, c.isDigit
  some_digit : e.digits ≠ []

/-- The shape of an unsigned number: digits with at most one point among or around them, and
perhaps an exponent. -/
structure Literal.Formed (l : Literal) : Prop where
  whole : ∀ c ∈ l.whole, c.isDigit
  fraction : ∀ t ∈ l.fraction, ∀ c ∈ t, c.isDigit
  some_digit : l.whole ≠ [] ∨ ∃ t, l.fraction = some t ∧ t ≠ []
  exponent : ∀ e ∈ l.exponent, e.Formed

/-- Whether a text continues a number that ends before it. -/
def Literal.Ends (rest : Text) : Prop :=
  ∀ c ∈ rest.head?, c.isDigit = false ∧ c ≠ '.' ∧ c ≠ 'e' ∧ c ≠ 'E'

theorem Literal.Ends.stop {rest : Text} (ends : Literal.Ends rest) :
    ∀ c ∈ rest.head?, c.isDigit = false := fun c member => (ends c member).1

theorem Exponent.scan_of_ends {rest : Text} (ends : Literal.Ends rest) :
    Exponent.scan Char.isDigit rest = (none, rest) := by
  cases rest with
  | nil => rfl
  | cons c rest =>
    obtain ⟨_, _, noSmall, noCapital⟩ := ends c rfl
    simp [Exponent.scan, noSmall, noCapital]

/-- An exponent is read whole. -/
theorem Exponent.scan_text {e : Exponent} (formed : e.Formed) {rest : Text}
    (stop : ∀ c ∈ rest.head?, c.isDigit = false) :
    Exponent.scan Char.isDigit (e.text ++ rest) = (some e, rest) := by
  obtain ⟨mark, sign, digits⟩ := e
  have isMark : (mark = 'e' || mark = 'E') = true := by simpa using formed.mark
  have taken := Text.takeWhile_append_stop formed.digits stop
  have dropped := Text.dropWhile_append_stop formed.digits stop
  cases sign with
  | some c =>
    have isSign : (c = '+' || c = '-') = true := by simpa using formed.sign c rfl
    simp only [Exponent.text, Option.toList_some, List.cons_append, List.nil_append,
      Exponent.scan, isMark, isSign, if_true, taken, dropped, formed.some_digit, if_false]
  | none =>
    obtain ⟨d, digits, rfl⟩ := List.exists_cons_of_ne_nil formed.some_digit
    have digit : d.isDigit := formed.digits d (by simp)
    have noSign : ¬ (d = '+' ∨ d = '-') := by
      rintro (rfl | rfl) <;> simp at digit
    simp only [List.cons_append] at taken dropped
    simp only [Exponent.text, Option.toList_none, List.cons_append, Exponent.scan, isMark, if_true]
    simp [noSign, taken, dropped]

/-- An exponent, if there is one, is read in front of a text that has none of its own. -/
theorem Exponent.scan_tail {exponent : Option Exponent} (formed : ∀ e ∈ exponent, e.Formed)
    {rest : Text} (stop : ∀ c ∈ rest.head?, c.isDigit = false)
    (noExponent : exponent = none → scan Char.isDigit rest = (none, rest)) :
    scan Char.isDigit ((exponent.map (·.text)).getD [] ++ rest) = (exponent, rest) := by
  cases exponent with
  | none => exact noExponent rfl
  | some e => exact scan_text (formed e rfl) stop

/-- What holds of the marks of exponents and of what stands behind a number holds of what stands
behind its digits. -/
theorem Exponent.head_tail {p : Char → Prop} (small : p 'e') (capital : p 'E')
    {exponent : Option Exponent} (formed : ∀ e ∈ exponent, e.Formed) {rest : Text}
    (behind : exponent = none → ∀ c ∈ rest.head?, p c) :
    ∀ c ∈ ((exponent.map (·.text)).getD [] ++ rest).head?, p c := by
  intro c member
  cases exponent with
  | none => exact behind rfl c member
  | some e =>
    simp only [Option.map_some, Option.getD_some, Exponent.text, List.cons_append,
      List.head?_cons, Option.mem_def, Option.some.injEq] at member
    subst member
    rcases (formed e rfl).mark with isSmall | isCapital
    · rwa [isSmall]
    · rwa [isCapital]

/-- An exponent that is read has its shape. -/
theorem Exponent.formed_of_scan {t rest : Text} {e : Exponent}
    (h : Exponent.scan Char.isDigit t = (some e, rest)) : e.Formed := by
  obtain ⟨mark, sign, digits, r, taken⟩ := Exponent.scan_eq_some (congrArg Prod.fst h)
  exact ⟨mark, sign, taken ▸ Text.takeWhile_inside r, digits⟩

theorem Exponent.scan_eq_none {t : Text} (none : (Exponent.scan Char.isDigit t).1 = Option.none) :
    (Exponent.scan Char.isDigit t).2 = t := by
  have whole := text_append_scan Char.isDigit t
  rwa [none] at whole

/-- No exponent is read exactly where none starts the text. -/
theorem Exponent.scan_eq_none_iff {t : Text} :
    Exponent.scan Char.isDigit t = (none, t) ↔
      ∀ (e : Exponent) (rest : Text), e.Formed → t ≠ e.text ++ rest := by
  constructor
  · rintro nothing e rest formed rfl
    -- the exponent with all digits that follow
    have whole := List.takeWhile_append_dropWhile (p := Char.isDigit) (l := rest)
    have longer : Exponent.Formed ⟨e.mark, e.sign, e.digits ++ rest.takeWhile Char.isDigit⟩ := by
      refine ⟨formed.mark, formed.sign, ?_, by simp [formed.some_digit]⟩
      intro c member
      rcases List.mem_append.1 member with inside | behind
      · exact formed.digits c inside
      · exact Text.takeWhile_inside rest c behind
    have read := scan_text longer (Text.dropWhile_stop rest)
    simp only [Exponent.text, List.append_assoc, List.cons_append, whole] at read nothing
    rw [read] at nothing
    cases nothing
  · intro noExponent
    cases found : (scan Char.isDigit t).1 with
    | none => exact Prod.ext found (scan_eq_none found)
    | some e =>
      have whole := text_append_scan Char.isDigit t
      rw [found] at whole
      exact absurd whole.symm (noExponent e _ (formed_of_scan (Prod.ext found rfl)))

/-- An exponent is read as far as it goes. -/
theorem Exponent.stop_scan {t : Text} (stop : ∀ c ∈ t.head?, c.isDigit = false) :
    ∀ c ∈ (Exponent.scan Char.isDigit t).2.head?, c.isDigit = false := by
  unfold scan
  split
  · simp
  · split
    · dsimp only
      split
      · split
        · split
          · exact stop
          · exact Text.dropWhile_stop _
        · split
          · exact stop
          · exact Text.dropWhile_stop _
      · split
        · exact stop
        · exact Text.dropWhile_stop _
    · exact stop

namespace Literal

/-- Whether a text goes on with no part that the number before it lacks. -/
structure Stops (l : Literal) (rest : Text) : Prop where
  noDigit : ∀ c ∈ rest.head?, c.isDigit = false
  noPoint : l.fraction = none → l.exponent = none → rest.head? ≠ some '.'
  noExponent : l.exponent = none → Exponent.scan Char.isDigit rest = (none, rest)

theorem Ends.stops {rest : Text} (ends : Ends rest) (l : Literal) : l.Stops rest where
  noDigit := ends.stop
  noPoint _ _ point := (ends '.' point).2.1 rfl
  noExponent _ := Exponent.scan_of_ends ends

/-- A number is read whole in front of a text that adds nothing to it. -/
theorem scan_of_stops {l : Literal} (formed : l.Formed) {rest : Text} (stops : l.Stops rest) :
    scan Char.isDigit (l.text ++ rest) = some (l, rest) := by
  obtain ⟨whole, fraction, exponent⟩ := l
  have tail := Exponent.scan_tail formed.exponent stops.noDigit stops.noExponent
  have tailStop := Exponent.head_tail (p := fun c => c.isDigit = false) (by decide) (by decide)
    formed.exponent fun _ => stops.noDigit
  cases fraction with
  | some digits =>
    have taken := Text.takeWhile_append_stop (formed.fraction digits rfl) tailStop
    have dropped := Text.dropWhile_append_stop (formed.fraction digits rfl) tailStop
    have point : ∀ c ∈ ('.' :: (digits ++ ((exponent.map (·.text)).getD [] ++ rest))).head?,
        c.isDigit = false := by simp
    have wholeTaken := Text.takeWhile_append_stop formed.whole point
    have wholeDropped := Text.dropWhile_append_stop formed.whole point
    have digit : (whole = [] && digits = []) = false := by
      rcases formed.some_digit with some | ⟨t, same, some⟩
      · simp [show whole ≠ [] from some]
      · cases same
        simp [some]
    simp only [text, Option.map_some, Option.getD_some, List.append_assoc, List.cons_append]
    unfold scan
    simp only [wholeTaken, wholeDropped, taken, dropped, tail, digit]
    simp
  | none =>
    have wholeTaken := Text.takeWhile_append_stop formed.whole tailStop
    have wholeDropped := Text.dropWhile_append_stop formed.whole tailStop
    have digit : whole ≠ [] := by
      rcases formed.some_digit with some | ⟨t, absent, _⟩
      · exact some
      · cases absent
    have noPoint := Exponent.head_tail (p := (· ≠ '.')) (by decide) (by decide) formed.exponent
      fun plain c member point => stops.noPoint rfl plain (point ▸ member)
    simp only [text, Option.map_none, Option.getD_none, List.append_nil, List.append_assoc]
    unfold scan
    simp only [wholeTaken, wholeDropped]
    split
    · next r point => exact absurd rfl (noPoint '.' (by rw [point]; rfl))
    · simp only [digit, if_false, tail]

/-- A number is read whole. -/
theorem scan_text {l : Literal} (formed : l.Formed) {rest : Text} (ends : Ends rest) :
    scan Char.isDigit (l.text ++ rest) = some (l, rest) :=
  scan_of_stops formed (ends.stops l)

/-- What stands behind a number that is read adds nothing to it. -/
theorem stops_of_scan {t rest : Text} {l : Literal} (h : scan Char.isDigit t = some (l, rest)) :
    l.Stops rest := by
  obtain ⟨r, -, -, rfl, rfl⟩ | ⟨noPoint, -, rfl, rfl⟩ := scan_eq_some h
  · refine ⟨Exponent.stop_scan (Text.dropWhile_stop r), by simp, fun plain => ?_⟩
    rw [Exponent.scan_eq_none plain]
    exact Prod.ext plain (Exponent.scan_eq_none plain)
  · refine ⟨Exponent.stop_scan (Text.dropWhile_stop t), fun _ plain point => ?_, fun plain => ?_⟩
    · rw [Exponent.scan_eq_none plain] at point
      obtain ⟨r, starts⟩ := List.head?_eq_some_iff.1 point
      exact noPoint r starts
    · rw [Exponent.scan_eq_none plain]
      exact Prod.ext plain (Exponent.scan_eq_none plain)

/-- A number that is read has its shape. -/
theorem formed_of_scan {t rest : Text} {l : Literal} (h : scan Char.isDigit t = some (l, rest)) :
    l.Formed := by
  obtain ⟨r, -, digits, rfl, -⟩ | ⟨-, digits, rfl, -⟩ := scan_eq_some h
  · refine ⟨Text.takeWhile_inside t, ?_, ?_, fun e found => ?_⟩
    · rintro _ ⟨⟩
      exact Text.takeWhile_inside r
    · exact digits.imp_right fun more => ⟨_, rfl, more⟩
    · exact Exponent.formed_of_scan (Prod.ext found rfl)
  · exact ⟨Text.takeWhile_inside t, by simp, .inl digits,
      fun e found => Exponent.formed_of_scan (Prod.ext found rfl)⟩

/-- A number starts with a digit or a point. -/
theorem Formed.head {l : Literal} (formed : l.Formed) :
    ∃ c t, l.text = c :: t ∧ (c.isDigit ∨ c = '.') := by
  obtain ⟨whole, fraction, exponent⟩ := l
  cases whole with
  | cons c whole => exact ⟨c, _, rfl, .inl (formed.whole c (by simp))⟩
  | nil =>
    rcases formed.some_digit with some | ⟨t, same, _⟩
    · exact absurd rfl some
    · cases same
      exact ⟨'.', _, rfl, .inr rfl⟩

/-- Signs of numbers: what stands in a number besides digits. -/
def isMark (c : Char) : Bool := c = '.' || c = 'e' || c = 'E' || c = '+' || c = '-'

/-- The characters of a number. -/
theorem Formed.mem_text {l : Literal} (formed : l.Formed) {c : Char} (member : c ∈ l.text) :
    c.isDigit ∨ isMark c := by
  rcases mem_text_iff.1 member with inWhole | ⟨t, found, rfl | digit⟩ | ⟨e, found, inExponent⟩
  · exact .inl (formed.whole c inWhole)
  · exact .inr rfl
  · exact .inl (formed.fraction t found c digit)
  · have shape := formed.exponent e found
    rcases Exponent.mem_text_iff.1 inExponent with rfl | isSign | digit
    · rcases shape.mark with mark | mark <;> simp [isMark, mark]
    · rcases shape.sign c isSign with rfl | rfl <;> simp [isMark]
    · exact .inl (shape.digits c digit)

theorem Formed.not_mem {l : Literal} (formed : l.Formed) {c : Char}
    (other : c.isDigit = false ∧ isMark c = false) : c ∉ l.text := by
  intro member
  rcases formed.mem_text member with digit | mark
  · simp [other.1] at digit
  · simp [other.2] at mark

end Literal
end CellGraph
