import CellGraph.Proofs.Lexing.Tokens

/-!
# Which token comes next

The tokens that are neither literals nor references, taken apart: how a name is read, when
a character stands for itself, with what a token ends. Names and numbers are not whole wherever
another word follows at once, so what is said here does not come out of `whole_apart_next`.
-/

namespace CellGraph

/-! ## Numbers -/

namespace Literal

theorem isSome_scan_of_isDigit {c : Char} (digit : c.isDigit) (t : Text) :
    (scan Char.isDigit (c :: t)).isSome := by
  unfold scan
  dsimp only
  split
  · simp [digit]
  · simp [digit]

theorem not_isDigit_of_scan {c : Char} {t : Text} (none : scan Char.isDigit (c :: t) = none) :
    c.isDigit = false := by
  by_contra digit
  have some := isSome_scan_of_isDigit (by simpa using digit) t
  simp [none] at some

theorem scan_point_eq_none_iff {t : Text} :
    scan Char.isDigit ('.' :: t) = none ↔ ∀ d ∈ t.head?, d.isDigit = false := by
  cases t with
  | nil => simp [scan]
  | cons d t =>
    by_cases digit : d.isDigit
    · simp [scan, digit]
    · simp [scan, digit]

/-- A number without exponent has no letter. -/
theorem Formed.plain {l : Literal} (formed : l.Formed) (none : l.exponent = none) {c : Char}
    (member : c ∈ l.text) : c.isDigit ∨ c = '.' := by
  obtain ⟨whole, fraction, exponent⟩ := l
  obtain rfl : exponent = .none := none
  simp only [text, Option.map_none, Option.getD_none, List.append_nil, List.mem_append] at member
  rcases member with inWhole | inFraction
  · exact .inl (formed.whole c inWhole)
  · cases fraction with
    | none => simp at inFraction
    | some digits =>
      rcases List.mem_cons.1 inFraction with rfl | digit
      · exact .inr rfl
      · exact .inl (formed.fraction digits rfl c digit)

/-- The mark of the exponent of a number stands in its text. -/
theorem Formed.exponent_eq_none {l : Literal} (formed : l.Formed) (small : 'e' ∉ l.text)
    (capital : 'E' ∉ l.text) : l.exponent = none := by
  cases found : l.exponent with
  | none => rfl
  | some e =>
    have inText : e.mark ∈ l.text := by simp [text, found, Exponent.text]
    rcases (formed.exponent e found).mark with mark | mark
    · exact absurd (mark ▸ inText) small
    · exact absurd (mark ▸ inText) capital

/-- A number ends with a digit or a point. -/
theorem Formed.getLast? {l : Literal} (formed : l.Formed) :
    ∀ c ∈ l.text.getLast?, c.isDigit ∨ c = '.' := by
  intro c last
  cases found : l.exponent with
  | none => exact formed.plain found (List.mem_of_getLast? last)
  | some e =>
    have shape := formed.exponent e found
    have inDigits : c ∈ e.digits := by
      rw [text, found, Option.map_some, Option.getD_some, Exponent.text, List.getLast?_append,
        List.getLast?_append, List.getLast?_eq_some_getLast shape.some_digit] at last
      obtain rfl : e.digits.getLast shape.some_digit = c := by simpa using last
      exact List.getLast_mem _
    exact .inl (shape.digits c inDigits)

end Literal

namespace Token

/-! ## Tokens of a formula -/

/-- A token of a formula is read in front of the tokens behind it. -/
theorem exists_next {formula : Text} {before behind : List Token} {t : Token}
    (whole : tokens formula = before ++ t :: behind) :
    ∃ c u, next c u = (t, texts behind) ∧ tokens (texts behind) = behind := by
  fun_induction tokens formula generalizing before with
  | case1 => simp at whole
  | case2 c u ih =>
    cases before with
    | nil =>
      obtain ⟨rfl, rfl⟩ := List.cons.inj whole
      exact ⟨c, u, by rw [texts_tokens], by rw [texts_tokens]⟩
    | cons first before => exact ih (List.cons.inj whole).2

/-! ## Words -/

/-- The cases of a token that is no literal and no reference. -/
theorem next_cases {c : Char} {t : Text} (noString : ∀ w, (next c t).1 ≠ .string w)
    (noRef : ∀ r, (next c t).1 ≠ .ref r) :
    c ≠ '"' ∧ Ref.scan? (c :: t) = none ∧
      ((∃ l rest, Literal.scan Char.isDigit (c :: t) = some (l, rest) ∧
          next c t = (.number l.text, rest)) ∨
        Literal.scan Char.isDigit (c :: t) = none ∧ next c t = nextPlain c t) := by
  unfold next at noString noRef ⊢
  split at noString
  · exact absurd rfl (noString _)
  · next noLiteral =>
    refine ⟨noLiteral, ?_⟩
    simp only [if_neg noLiteral] at noRef ⊢
    split at noRef
    · exact absurd rfl (noRef _)
    · next noReference =>
      refine ⟨noReference, ?_⟩
      cases found : Literal.scan Char.isDigit (c :: t) with
      | none => exact .inr ⟨rfl, rfl⟩
      | some read => exact .inl ⟨read.1, read.2, rfl, rfl⟩

theorem formed_of_next {c : Char} {t : Text} {r : Ref} (isRef : (next c t).1 = .ref r) :
    r.Formed ∧ Ref.continues (next c t).2 = false := by
  have read := whole_apart_next c t (by rw [isRef]; rfl) (by rw [isRef]; rintro ⟨⟩)
  rwa [isRef] at read

/-- A name is a run of characters of a word, up to its end. -/
theorem nextPlain_name {c : Char} {t w rest : Text} (read : nextPlain c t = (.name w, rest)) :
    (isNameStart c || c == '\\') ∧ w = c :: t.takeWhile SheetName.isBareChar ∧
      rest = t.dropWhile SheetName.isBareChar ∧ ¬ (isNameStart c && rest.head? = some '(') := by
  unfold nextPlain at read
  dsimp only at read
  split at read
  · cases read
  · next noFunc =>
    split at read
    · next isName =>
      cases read
      exact ⟨isName, rfl, rfl, noFunc⟩
    · split at read
      · cases read
      · repeat' split at read
        all_goals cases read

/-- A name is no part of a longer word. -/
theorem not_bare_of_next_name {c : Char} {t w : Text} (same : (next c t).1 = .name w) :
    ∀ d ∈ (next c t).2.head?, SheetName.isBareChar d = false := by
  obtain ⟨-, -, ⟨l, rest, -, read⟩ | ⟨-, read⟩⟩ :=
    next_cases (c := c) (t := t) (by simp [same]) (by simp [same])
  · rw [read] at same
    cases same
  · rw [read] at same ⊢
    have whole : nextPlain c t = (.name w, (nextPlain c t).2) := Prod.ext same rfl
    rw [(nextPlain_name whole).2.2.1]
    exact Text.dropWhile_stop t

/-- The number that is read if the next token is one. -/
theorem exists_of_next_number {c : Char} {t w : Text} (same : (next c t).1 = .number w) :
    ∃ l : Literal, l.Formed ∧ w = l.text ∧ l.Stops (next c t).2 := by
  obtain ⟨-, -, ⟨l, rest, found, read⟩ | ⟨-, read⟩⟩ :=
    next_cases (c := c) (t := t) (by simp [same]) (by simp [same])
  · rw [read] at same ⊢
    cases same
    exact ⟨l, Literal.formed_of_scan found, rfl, Literal.stops_of_scan found⟩
  · rw [read] at same
    exact absurd same (nextPlain_ne_number c t w)

/-- Behind the name of a function stands its opening parenthesis. -/
theorem head_of_next_func {c : Char} {t w : Text} (same : (next c t).1 = .func w) :
    (tokens (next c t).2).head? = some .lparen := by
  have ends := (whole_apart_next c t (by rw [same]; rfl) (by rw [same]; rintro ⟨⟩)).2
  rw [same] at ends
  obtain ⟨u, rest⟩ := List.head?_eq_some_iff.1 ends
  obtain ⟨d, v, start, read⟩ := next_text (show Whole .lparen from trivial)
    (show Apart .lparen u from trivial)
  obtain ⟨rfl, rfl⟩ : '(' = d ∧ [] = v := by simpa [text] using start
  rw [List.nil_append] at read
  rw [rest, tokens, read, List.head?_cons]

/-! ## Characters that stand for themselves -/

theorem isOperator_of_scanOperator? {c : Char} {t : Text} (none : scanOperator? (c :: t) = none) :
    isOperator c = false := by
  unfold scanOperator? at none
  split at none
  · cases none
  · cases none
  · cases none
  · next same =>
    cases same
    simpa using none
  · next same => cases same

/-- Whether a character stands for itself does not depend on what follows it. -/
theorem nextPlain_other {c d : Char} {t : Text} (same : (nextPlain c t).1 = .other d) :
    isNameStart c = false ∧ ∀ u, nextPlain c u = (.other c, u) := by
  unfold nextPlain at same
  dsimp only at same
  split at same
  · cases same
  · split at same
    · cases same
    · next noName =>
      simp only [Bool.or_eq_true, not_or, Bool.not_eq_true, beq_eq_false_iff_ne] at noName
      split at same
      · cases same
      · next noOperator =>
        have plain := fun u => scanOperator?_eq_none u (isOperator_of_scanOperator? noOperator)
        refine ⟨noName.1, fun u => ?_⟩
        simp only [nextPlain, noName.1, plain u, Bool.false_and, Bool.false_or, beq_iff_eq,
          noName.2, if_false]
        repeat' split at same
        all_goals simp_all

/-- A character that stands for itself belongs to no word. -/
theorem next_other {c d : Char} {t : Text} (same : (next c t).1 = .other d) :
    next c t = (.other c, t) ∧ Text.isWordChar c = false ∧ ∀ u, nextPlain c u = (.other c, u) := by
  obtain ⟨-, -, ⟨l, rest, -, read⟩ | ⟨noNumber, read⟩⟩ :=
    next_cases (c := c) (t := t) (by simp [same]) (by simp [same])
  · rw [read] at same
    cases same
  · rw [read] at same ⊢
    obtain ⟨noName, plain⟩ := nextPlain_other same
    refine ⟨plain t, ?_, plain⟩
    rw [Bool.eq_false_iff]
    intro word
    rcases Text.isWordChar_iff.1 word with letter | digit | rfl
    · simp [isNameStart, letter] at noName
    · simp [Literal.not_isDigit_of_scan noNumber] at digit
    · cases noName

/-! ## Ends of tokens -/

theorem getLast?_of_isClosed {body : Text} (closed : isClosed body) : body.getLast? = some '"' := by
  fun_induction isClosed body with
  | case1 => cases closed
  | case2 t ih =>
    rw [List.getLast?_cons, List.getLast?_cons, ih closed]
    rfl
  | case3 t _ =>
    obtain rfl : t = [] := by simpa using closed
    rfl
  | case4 c t _ _ ih =>
    rw [List.getLast?_cons, ih closed]
    rfl

theorem plain_of_mem_op {t : Text} (whole : scanOperator? t = some (t, [])) {c : Char}
    (member : c ∈ t) : Plain c := by
  rcases operator_cases whole with rfl | rfl | rfl | ⟨d, rfl, operator⟩
  · exact (plain_of_isOperator (List.all_eq_true.1 (by decide) c member)).1
  · exact (plain_of_isOperator (List.all_eq_true.1 (by decide) c member)).1
  · exact (plain_of_isOperator (List.all_eq_true.1 (by decide) c member)).1
  · obtain rfl : c = d := by simpa using member
    exact (plain_of_isOperator operator).1

theorem isAscii_of_mem_op {t : Text} (whole : scanOperator? t = some (t, [])) {c : Char}
    (member : c ∈ t) : c.toNat < 128 := by
  rcases operator_cases whole with rfl | rfl | rfl | ⟨d, rfl, operator⟩
  · exact Text.forall_of_all (p := fun c => c.toNat < 128) (by decide) c member
  · exact Text.forall_of_all (p := fun c => c.toNat < 128) (by decide) c member
  · exact Text.forall_of_all (p := fun c => c.toNat < 128) (by decide) c member
  · obtain rfl : c = d := by simpa using member
    exact Text.forall_of_all (p := fun c => c.toNat < 128) (t := "-+*/^&=<>%") (by decide) c
      (List.contains_iff_mem.1 operator)

/-- ASCII characters that are neither letters nor underscores. -/
def Inner (c : Char) : Prop := c.toNat < 128 ∧ isNameStart c = false

instance : DecidablePred Inner := fun c =>
  inferInstanceAs (Decidable (c.toNat < 128 ∧ isNameStart c = false))

theorem inner_of_isDigit {c : Char} (digit : c.isDigit) : Inner c := by
  have noStart : ¬ isNameStart c := fun start => by
    simp [(nameStart_start start).2.2.2.1] at digit
  rw [Text.isDigit_iff] at digit
  exact ⟨by omega, by simpa using noStart⟩

/-- With what a token ends that has another behind it: only names and single characters end with
letters. -/
theorem last_of_next {c : Char} {t : Text} (noFunc : ∀ w, (next c t).1 ≠ .func w)
    (some_char : (next c t).2 ≠ []) {d : Char} (last : d ∈ (next c t).1.text.getLast?) :
    (∃ w, (next c t).1 = .name w) ∨ (next c t).1 = .other d ∨ Text.isBlank d ∨ Inner d := by
  have read : isOther (next c t).1 = false → isWord (next c t).1 = false →
      Whole (next c t).1 ∧ Apart (next c t).1 (next c t).2 :=
    fun known noWord => whole_apart_next c t known (by simp [noWord])
  have member := List.mem_of_getLast? last
  cases same : (next c t).1 with
  | name w => exact .inl ⟨w, rfl⟩
  | func w => exact absurd same (noFunc w)
  | other e =>
    rw [same] at member
    exact .inr (.inl (by rw [List.mem_singleton.1 member]))
  | string w =>
    rw [same] at read last
    obtain ⟨⟨body, rfl, -⟩, ends | ⟨closed, -⟩⟩ := read rfl rfl
    · exact absurd ends some_char
    · have final : body.getLast? = some '"' := getLast?_of_isClosed closed
      obtain rfl : '"' = d := by simpa [text, List.getLast?_cons, final] using last
      exact .inr (.inr (.inr (by decide)))
  | ref r =>
    rw [same] at last
    obtain ⟨e, final, digit⟩ := (formed_of_next same).1.getLast?
    obtain rfl : e = d := Option.some.inj (final.symm.trans last)
    exact .inr (.inr (.inr (inner_of_isDigit digit)))
  | number w =>
    obtain ⟨l, formed, rfl, -⟩ := exists_of_next_number same
    rw [same] at last
    rcases formed.getLast? d last with digit | rfl
    · exact .inr (.inr (.inr (inner_of_isDigit digit)))
    · exact .inr (.inr (.inr (by decide)))
  | op w =>
    rw [same] at read member
    have whole := (read rfl rfl).1
    exact .inr (.inr (.inr ⟨isAscii_of_mem_op whole member,
      (plain_of_mem_op whole member).not_nameStart⟩))
  | space w =>
    rw [same] at read member
    exact .inr (.inr (.inl ((read rfl rfl).1.2 d member)))
  | lparen | rparen | comma | colon =>
    rw [same] at member
    rw [List.mem_singleton.1 member]
    exact .inr (.inr (.inr (by decide)))

end Token
end CellGraph
