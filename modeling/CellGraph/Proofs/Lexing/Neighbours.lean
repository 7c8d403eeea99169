import CellGraph.Dialect.Convert
import CellGraph.Book.Keys
import CellGraph.Proofs.Lexing.Next
import CellGraph.Proofs.Text.Blank

/-!
# Letters beside references and functions

Words are made of ASCII letters only. So no ASCII letter follows a reference or stands in front of the
name of a function, but a letter of another script stands for itself, and whatever word it belongs
to is cut there. In front of a reference that starts with a dollar sign or a quote any name may end.
`letter_beside_iff` says exactly where letters stand; `words_cut` shows words that are cut.
-/

namespace CellGraph.Token

theorem not_word_of_mem_tokens {formula : Text} {c : Char} (member : .other c ∈ tokens formula) :
    Text.isWordChar c = false := by
  obtain ⟨before, behind, whole⟩ := List.append_of_mem member
  obtain ⟨d, u, read, -⟩ := exists_next whole
  obtain ⟨same, outside, -⟩ := next_other (c := d) (t := u) (d := c) (by rw [read])
  rw [read] at same
  cases same
  exact outside

/-- A character beyond ASCII that is no white space stands for itself. -/
theorem next_of_foreign {c : Char} (beyond : 128 ≤ c.toNat) (noBlank : Text.isBlank c = false)
    (t : Text) : next c t = (.other c, t) := by
  have other : ∀ d : Char, d.toNat < 128 → c ≠ d := by
    rintro d ascii rfl
    omega
  have noWord : Text.isWordChar c = false := by
    rw [Bool.eq_false_iff, Ne, Text.isWordChar_iff, Text.isAlpha_iff, Text.isUpper_iff,
      Text.isLower_iff, Text.isDigit_iff]
    rintro (letter | digit | line)
    · omega
    · omega
    · exact other '_' (by decide) line
  have noOperator : isOperator c = false := by
    rw [Bool.eq_false_iff]
    intro operator
    have ascii := Text.forall_of_all (p := fun c => c.toNat < 128) (t := "-+*/^&=<>%") (by decide)
      c (List.contains_iff_mem.1 operator)
    omega
  have plain : Plain c := ⟨other '"' (by decide), other '\'' (by decide), other '$' (by decide),
    other '.' (by decide), noWord⟩
  rw [next_sign plain (other '\\' (by decide)) noOperator]
  simp [other '(' (by decide), other ')' (by decide), other ',' (by decide),
    other ':' (by decide), noBlank]

section

variable {formula : Text} {before behind : List Token} {t : Token}
  (whole : tokens formula = before ++ t :: behind)
include whole

theorem getLast?_texts_before {u : Token} (last : before.getLast? = some u) :
    ∃ c v, next c v = (u, texts (t :: behind)) ∧ tokens (texts (t :: behind)) = t :: behind ∧
      (texts before).getLast? = u.text.getLast? := by
  obtain ⟨front, rfl⟩ := List.getLast?_eq_some_iff.1 last
  rw [List.append_assoc, List.singleton_append] at whole
  obtain ⟨c, v, read, again⟩ := exists_next whole
  refine ⟨c, v, read, again, ?_⟩
  have some_char := (text_next c v).2
  rw [read] at some_char
  rw [texts_append, texts_cons, texts_nil, List.append_nil, List.getLast?_append,
    List.getLast?_eq_some_getLast some_char]
  rfl

/-- A name in front of a token ends before a character of no word. -/
theorem not_bare_behind_name {w : Text} (last : before.getLast? = some (.name w)) :
    ∀ d ∈ (texts (t :: behind)).head?, SheetName.isBareChar d = false := by
  obtain ⟨c, v, read, -⟩ := getLast?_texts_before whole last
  have ends := not_bare_of_next_name (c := c) (t := v) (w := w) (by rw [read])
  rwa [read] at ends

variable {letter : Char → Bool} (ascii : ∀ c : Char, c.toNat < 128 → letter c = c.isAlpha)
  (blank : ∀ c, Text.isBlank c → letter c = false)
include ascii blank

omit whole in
theorem foreign_of_letter {c : Char} (isLetter : letter c) (noAlpha : c.isAlpha = false) :
    128 ≤ c.toNat ∧ Text.isBlank c = false := by
  constructor
  · by_contra low
    rw [ascii c (by omega), noAlpha] at isLetter
    cases isLetter
  · by_contra isBlank
    rw [blank c (by simpa using isBlank)] at isLetter
    cases isLetter

/-- The letters behind a reference stand for themselves. -/
theorem letter_behind_ref {r : Ref} (isRef : t = .ref r) :
    (∃ c ∈ (texts behind).head?, letter c) ↔
      ∃ c, behind.head? = some (.other c) ∧ letter c := by
  subst isRef
  obtain ⟨c, u, read, again⟩ := exists_next whole
  have ends := (formed_of_next (c := c) (t := u) (r := r) (by rw [read])).2
  rw [read] at ends
  constructor
  · rintro ⟨d, head, isLetter⟩
    have noBare := Ref.not_bare_of_continues ends d head
    have noAlpha : d.isAlpha = false := by
      by_contra alpha
      have word := Text.isWordChar_iff.2 (.inl (by simpa using alpha))
      simp [SheetName.isBareChar, word] at noBare
    obtain ⟨beyond, noBlank⟩ := foreign_of_letter ascii blank isLetter noAlpha
    obtain ⟨v, rest⟩ := List.head?_eq_some_iff.1 head
    rw [rest, tokens, next_of_foreign beyond noBlank] at again
    exact ⟨d, by rw [← again]; rfl, isLetter⟩
  · rintro ⟨d, head, isLetter⟩
    obtain ⟨v, rfl⟩ := List.head?_eq_some_iff.1 head
    exact ⟨d, by simp [text], isLetter⟩

/-- The letters in front of a token other than a bracket stand for themselves, or end a name. -/
theorem letter_before (noBracket : t ≠ .lparen) :
    (∃ c ∈ (texts before).getLast?, letter c) ↔
      (∃ c, before.getLast? = some (.other c) ∧ letter c) ∨
        ∃ w, before.getLast? = some (.name w) ∧ ∃ c ∈ w.getLast?, letter c := by
  constructor
  · rintro ⟨d, final, isLetter⟩
    cases last : before.getLast? with
    | none =>
      rw [List.getLast?_eq_none_iff.1 last] at final
      cases final
    | some u =>
      obtain ⟨c, v, read, again, same⟩ := getLast?_texts_before whole last
      rw [same] at final
      have behindRead : tokens (next c v).2 = t :: behind := by rw [read, again]
      have noFunc : ∀ w, (next c v).1 ≠ .func w := by
        intro w isFunc
        have head := head_of_next_func isFunc
        rw [behindRead, List.head?_cons, Option.some.injEq] at head
        exact noBracket head
      have some_char : (next c v).2 ≠ [] := by
        intro empty
        rw [empty, tokens] at behindRead
        cases behindRead
      rcases last_of_next noFunc some_char (by rwa [read]) with
        ⟨w, same⟩ | same | isBlank | ⟨low, inner⟩
      · rw [read] at same
        subst same
        exact .inr ⟨w, rfl, d, final, isLetter⟩
      · rw [read] at same
        subst same
        exact .inl ⟨d, rfl, isLetter⟩
      · simp [blank d isBlank] at isLetter
      · rw [ascii d low] at isLetter
        simp [isNameStart, isLetter] at inner
  · rintro (⟨c, last, isLetter⟩ | ⟨w, last, c, final, isLetter⟩)
    · obtain ⟨-, -, -, -, same⟩ := getLast?_texts_before whole last
      exact ⟨c, by simp [same, text], isLetter⟩
    · obtain ⟨-, -, -, -, same⟩ := getLast?_texts_before whole last
      exact ⟨c, by rwa [same], isLetter⟩

/-- Where letters stand beside references and in front of functions, for any class of letters that
has those of ASCII and no white space. Behind a reference, and in front of the name of a function, a
letter is a token by itself and lies beyond ASCII. In front of a reference it may besides end a name;
the reference then starts with a dollar sign or with the quote of its sheet. -/
theorem letter_beside_iff :
    (∀ r, t = .ref r →
      ((∃ c ∈ (texts behind).head?, letter c) ↔
        ∃ c, behind.head? = some (.other c) ∧ letter c) ∧
      ((∃ c ∈ (texts before).getLast?, letter c) ↔
        (∃ c, before.getLast? = some (.other c) ∧ letter c) ∨
        ∃ w, before.getLast? = some (.name w) ∧ (∃ c ∈ w.getLast?, letter c) ∧
          (r.text.head? = some '$' ∨ r.text.head? = some '\''))) ∧
    (∀ name, t = .func name →
      ((∃ c ∈ (texts before).getLast?, letter c) ↔
        ∃ c, before.getLast? = some (.other c) ∧ letter c)) ∧
    ∀ c, .other c ∈ tokens formula → letter c → 128 ≤ c.toNat := by
  refine ⟨?_, ?_, ?_⟩
  · rintro r rfl
    refine ⟨letter_behind_ref whole ascii blank rfl,
      (letter_before whole ascii blank (by simp)).trans (or_congr_right ?_)⟩
    refine exists_congr fun w => and_congr_right fun last => ?_
    rw [iff_self_and]
    intro _
    have stop := not_bare_behind_name whole last
    obtain ⟨c, u, read, -⟩ := exists_next whole
    obtain ⟨d, v, start, first⟩ := (formed_of_next (c := c) (t := u) (r := r) (by rw [read])).1.head
    have noBare := stop d (by simp [text, start])
    rcases first with rfl | rfl | word
    · exact .inr (by rw [start]; rfl)
    · exact .inl (by rw [start]; rfl)
    · simp [SheetName.isBareChar, word] at noBare
  · rintro name rfl
    refine (letter_before whole ascii blank (by simp)).trans (or_iff_left ?_)
    rintro ⟨w, last, -⟩
    have stop := not_bare_behind_name whole last
    have isFunc : .func name ∈ tokens formula := by simp [whole]
    obtain ⟨c, u, rfl, start, -⟩ := whole_of_mem_tokens isFunc rfl (by rintro _ ⟨⟩)
    have noBare := stop c (by simp [text])
    simp [(nameStart_start start).2.2.2.2] at noBare
  · intro c member isLetter
    have outside := not_word_of_mem_tokens member
    refine (foreign_of_letter ascii blank isLetter ?_).1
    by_contra alpha
    simp [Text.isWordChar_iff.2 (.inl (by simpa using alpha))] at outside

end

/-- Letters in front of a reference and behind it: the end of a name, and a letter of its own. -/
theorem letter_beside_iff_umlaut :
    tokens "foo$A1Ä" = [.name "foo", .ref ⟨none, "A1", "$A1"⟩, .other 'Ä'] ∧
      (∃ c ∈ (texts [.name "foo"]).getLast?, Text.isCased c) ∧
      ∃ c ∈ (texts [.other 'Ä']).head?, Text.isCased c := by
  have whole : tokens "foo$A1Ä" = [.name "foo"] ++ .ref ⟨none, "A1", "$A1"⟩ :: [.other 'Ä'] := by
    decide +kernel
  obtain ⟨beside, -, -⟩ := letter_beside_iff whole
    (fun _ => Text.isCased_of_ascii) fun _ => Text.isCased_of_isBlank
  obtain ⟨behind, before⟩ := beside _ rfl
  exact ⟨whole, before.2 (.inr ⟨"foo", rfl, ⟨'o', rfl, by decide +kernel⟩, .inl rfl⟩),
    behind.2 ⟨'Ä', rfl, by decide +kernel⟩⟩

/-- Words that are cut: a function out of a longer name, and a reference out of a longer name on
either side. The function is spelled out, and the references become placeholders. -/
theorem words_cut :
    (tokens "ÉSUM(A1:A2)").take 2 = [.other 'É', .func "SUM"] ∧
    tokens "PRÉA1" = [.name "PR", .other 'É', .ref ⟨none, "A1", "A1"⟩] ∧
    tokens "A1É" = [.ref ⟨none, "A1", "A1"⟩, .other 'É'] ∧
    tokens "foo$A1" = [.name "foo", .ref ⟨none, "A1", "$A1"⟩] ∧ Text.isCased 'É' ∧
    Dialect.convert "=ÉSUM(A1:A2)" = .ok ⟨"=É(A1+A2)", []⟩ ∧
    (⟨["S"]⟩ : SheetKeys).write "S" "PRÉA1" = "PRÉ" ++ placeholder "A1" ∧
    (⟨["S"]⟩ : SheetKeys).write "S" "A1É" = placeholder "A1" ++ "É" ∧
    (⟨["S"]⟩ : SheetKeys).write "S" "foo$A1" = "foo" ++ placeholder "A1" := by
  decide +kernel

end CellGraph.Token
