import CellGraph.Proofs.Lexing.Next

/-!
# Text in front of quote marks

A quote mark goes on with no token that is not quoted itself. So a text without quote marks is cut
into the same tokens whatever is quoted behind it (`tokens_append_of_plain`).
-/

namespace CellGraph

namespace Text

/-- The two marks between which literals and the names of sheets stand. -/
def isQuoteMark (c : Char) : Bool := c == '"' || c == '\''

/-- A text without quote marks. -/
def Unquoted (t : Text) : Prop := ∀ c ∈ t, isQuoteMark c = false

instance : DecidablePred Unquoted := fun t =>
  List.decidableBAll (fun c => isQuoteMark c = false) t

/-- A text that starts with a quote mark, if it starts with anything. -/
def Quoted (t : Text) : Prop := ∀ c ∈ t.head?, isQuoteMark c

variable {p : Char → Bool} {rest : Text}

/-- A class of characters that has no quote marks. -/
def Excludes (p : Char → Bool) : Prop := p '"' = false ∧ p '\'' = false

theorem unquoted_of_forall (excludes : Excludes p) {t : Text} (inside : ∀ c ∈ t, p c) :
    Unquoted t := by
  intro c member
  rw [Bool.eq_false_iff]
  intro mark
  have own := inside c member
  simp only [isQuoteMark, Bool.or_eq_true, beq_iff_eq] at mark
  rcases mark with rfl | rfl
  · simp [excludes.1] at own
  · simp [excludes.2] at own

theorem Quoted.stop (quoted : Quoted rest) (excludes : Excludes p) :
    ∀ c ∈ rest.head?, p c = false := by
  intro c head
  have mark := quoted c head
  simp only [isQuoteMark, Bool.or_eq_true, beq_iff_eq] at mark
  rcases mark with rfl | rfl
  · exact excludes.1
  · exact excludes.2

theorem Quoted.head_ne (quoted : Quoted rest) {c : Char} (other : isQuoteMark c = false) :
    rest.head? ≠ some c := by
  intro head
  rw [quoted c head] at other
  cases other

theorem takeWhile_append_quoted (quoted : Quoted rest) (excludes : Excludes p) (t : Text) :
    (t ++ rest).takeWhile p = t.takeWhile p := by
  induction t with
  | nil => simpa using takeWhile_append_stop (p := p) (t := []) (by simp) (quoted.stop excludes)
  | cons c t ih =>
    rw [List.cons_append, List.takeWhile_cons, List.takeWhile_cons, ih]

theorem dropWhile_append_quoted (quoted : Quoted rest) (excludes : Excludes p) (t : Text) :
    (t ++ rest).dropWhile p = t.dropWhile p ++ rest := by
  induction t with
  | nil => simpa using dropWhile_append_stop (p := p) (t := []) (by simp) (quoted.stop excludes)
  | cons c t ih =>
    rw [List.cons_append, List.dropWhile_cons, List.dropWhile_cons, ih]
    split <;> rfl

theorem head?_append_quoted (quoted : Quoted rest) {c : Char} (other : isQuoteMark c = false)
    (t : Text) : (t ++ rest).head? = some c ↔ t.head? = some c := by
  cases t with
  | nil => simpa using quoted.head_ne other
  | cons d t => rfl

end Text

open Text (Unquoted Quoted Excludes takeWhile_append_quoted dropWhile_append_quoted)

variable {rest : Text}

/-! ## References -/

namespace Ref

theorem continues_append (quoted : Quoted rest) (t : Text) :
    continues (t ++ rest) = continues t := by
  cases t with
  | nil =>
    cases rest with
    | nil => rfl
    | cons c rest =>
      have excludes : Excludes fun c => SheetName.isBareChar c || c == '(' || c == '!' := by
        constructor <;> decide
      exact quoted.stop excludes c rfl
  | cons c t => rfl

theorem scanMarker_append_quoted (quoted : Quoted rest) (t : Text) :
    scanMarker (t ++ rest) = ((scanMarker t).1, (scanMarker t).2 ++ rest) := by
  cases t with
  | nil =>
    cases rest with
    | nil => rfl
    | cons c rest =>
      have noDollar : c ≠ '$' := fun same => quoted.head_ne (c := '$') (by decide) (by simp [same])
      unfold scanMarker
      split
      · next same => exact absurd (List.cons.inj same).1 noDollar
      · rfl
  | cons c t =>
    unfold scanMarker
    split
    · next same =>
      obtain ⟨rfl, rfl⟩ := List.cons.inj same
      rfl
    · next other =>
      split
      · next same =>
        obtain ⟨rfl, rfl⟩ := List.cons.inj same
        exact absurd rfl (other (_ ++ rest))
      · rfl

theorem scanAddress?_append (quoted : Quoted rest) (t : Text) :
    scanAddress? (t ++ rest) =
      (scanAddress? t).map fun (written, address, behind) => (written, address, behind ++ rest) := by
  have capitals : Excludes Char.isUpper := by constructor <;> decide
  have digits : Excludes Char.isDigit := by constructor <;> decide
  simp only [scanAddress?, scanMarker_append_quoted quoted, takeWhile_append_quoted quoted capitals,
    dropWhile_append_quoted quoted capitals, takeWhile_append_quoted quoted digits,
    dropWhile_append_quoted quoted digits, continues_append quoted]
  split <;> rfl

theorem scanSheet?_append (quoted : Quoted rest) {c : Char} (other : c ≠ '\'') (t : Text) :
    scanSheet? (c :: (t ++ rest)) =
      (scanSheet? (c :: t)).map fun (name, written, behind) => (name, written, behind ++ rest) := by
  have bare : Excludes SheetName.isBareChar := by constructor <;> decide
  simp only [scanSheet?, if_neg other, dropWhile_append_quoted quoted bare,
    takeWhile_append_quoted quoted bare]
  split
  · cases found : t.dropWhile SheetName.isBareChar with
    | nil =>
      cases rest with
      | nil => rfl
      | cons d rest =>
        have noBang : d ≠ '!' := fun same => quoted.head_ne (c := '!') (by decide) (by simp [same])
        simp only [List.nil_append]
        split
        · next same => exact absurd (List.cons.inj same).1 noBang
        · rfl
    | cons d behind =>
      by_cases bang : d = '!'
      · subst bang
        rfl
      · simp [bang]
  · rfl

theorem scan?_append (quoted : Quoted rest) {c : Char} (other : c ≠ '\'') (t : Text) :
    scan? (c :: (t ++ rest)) = (scan? (c :: t)).map fun (r, behind) => (r, behind ++ rest) := by
  have here := scanAddress?_append quoted (c :: t)
  rw [List.cons_append] at here
  have onSheet : scanOnSheet? (c :: (t ++ rest)) =
      (scanOnSheet? (c :: t)).map fun (r, behind) => (r, behind ++ rest) := by
    simp only [scanOnSheet?, scanSheet?_append quoted other]
    cases scanSheet? (c :: t) with
    | none => rfl
    | some read =>
      simp only [Option.map_some, Option.bind_eq_bind, Option.bind_some,
        scanAddress?_append quoted]
      cases scanAddress? read.2.2 <;> rfl
  have onNone : scanLocal? (c :: (t ++ rest)) =
      (scanLocal? (c :: t)).map fun (r, behind) => (r, behind ++ rest) := by
    simp only [scanLocal?, here]
    cases scanAddress? (c :: t) <;> rfl
  rw [scan?, scan?, onSheet, onNone]
  cases scanOnSheet? (c :: t) <;> rfl

end Ref

/-! ## Numbers -/

theorem Exponent.scan_append (quoted : Quoted rest) (t : Text) :
    scan Char.isDigit (t ++ rest) =
      ((scan Char.isDigit t).1, (scan Char.isDigit t).2 ++ rest) := by
  have digits : Excludes Char.isDigit := by constructor <;> decide
  cases t with
  | nil =>
    cases rest with
    | nil => rfl
    | cons c rest =>
      have noMark : Excludes fun c => decide (c = 'e') || decide (c = 'E') := by
        constructor <;> decide
      have stop := quoted.stop noMark c rfl
      simp only [List.nil_append, scan, stop, if_neg Bool.false_ne_true]
  | cons mark t =>
    simp only [List.cons_append, scan]
    split
    · cases t with
      | nil =>
        have noSign : Excludes fun c => decide (c = '+') || decide (c = '-') := by
          constructor <;> decide
        have nothing := takeWhile_append_quoted quoted digits []
        simp only [List.nil_append, List.takeWhile_nil] at nothing
        cases rest with
        | nil => rfl
        | cons c rest =>
          have stop := quoted.stop noSign c rfl
          simp only [List.nil_append, stop, if_neg Bool.false_ne_true, nothing, if_true,
            List.takeWhile_nil]
          rfl
      | cons c t =>
        simp only [List.cons_append]
        split
        · simp only [takeWhile_append_quoted quoted digits, dropWhile_append_quoted quoted digits]
          split <;> rfl
        · have taken := takeWhile_append_quoted quoted digits (c :: t)
          have left := dropWhile_append_quoted quoted digits (c :: t)
          simp only [List.cons_append] at taken left
          simp only [taken, left]
          split <;> rfl
    · rfl

theorem Literal.scan_append (quoted : Quoted rest) (t : Text) :
    scan Char.isDigit (t ++ rest) =
      (scan Char.isDigit t).map fun (l, behind) => (l, behind ++ rest) := by
  have digits : Excludes Char.isDigit := by constructor <;> decide
  -- where no point follows the digits, only an exponent may
  have withoutPoint : ∀ u : Text, (u.dropWhile Char.isDigit).head? ≠ some '.' →
      scan Char.isDigit u = if u.takeWhile Char.isDigit = [] then none else
        some (⟨u.takeWhile Char.isDigit, none,
          (Exponent.scan Char.isDigit (u.dropWhile Char.isDigit)).1⟩,
          (Exponent.scan Char.isDigit (u.dropWhile Char.isDigit)).2) := by
    intro u other
    simp only [scan]
    split
    · next r point => exact absurd (by rw [point]; rfl) other
    · rfl
  have taken := takeWhile_append_quoted quoted digits t
  have left := dropWhile_append_quoted quoted digits t
  by_cases point : (t.dropWhile Char.isDigit).head? = some '.'
  · obtain ⟨r, behind⟩ := List.head?_eq_some_iff.1 point
    simp only [scan, taken, left, behind, List.cons_append, takeWhile_append_quoted quoted digits,
      dropWhile_append_quoted quoted digits, Exponent.scan_append quoted]
    split <;> rfl
  · have point' := (Text.head?_append_quoted quoted (c := '.') (by decide) _).not.2 point
    rw [← left] at point'
    rw [withoutPoint t point, withoutPoint (t ++ rest) point', taken, left,
      Exponent.scan_append quoted]
    split <;> rfl

/-! ## Tokens -/

namespace Token

/-- Where no comparison of two characters starts, an operator is one character. -/
theorem scanOperator?_single {c : Char} {t : Text}
    (single : ∀ d ∈ t.head?, ¬ (c = '<' ∧ (d = '>' ∨ d = '=')) ∧ ¬ (c = '>' ∧ d = '=')) :
    scanOperator? (c :: t) = if isOperator c then some ([c], t) else none := by
  unfold scanOperator?
  split
  · next same =>
    obtain ⟨rfl, rfl⟩ := List.cons.inj same
    exact absurd ⟨rfl, .inl rfl⟩ (single '>' rfl).1
  · next same =>
    obtain ⟨rfl, rfl⟩ := List.cons.inj same
    exact absurd ⟨rfl, .inr rfl⟩ (single '=' rfl).1
  · next same =>
    obtain ⟨rfl, rfl⟩ := List.cons.inj same
    exact absurd ⟨rfl, rfl⟩ (single '=' rfl).2
  · next same =>
    obtain ⟨rfl, rfl⟩ := List.cons.inj same
    rfl
  · next same => cases same

theorem scanOperator?_append (quoted : Quoted rest) (c : Char) (t : Text) :
    scanOperator? (c :: (t ++ rest)) =
      (scanOperator? (c :: t)).map fun (operator, behind) => (operator, behind ++ rest) := by
  by_cases single : ∀ d ∈ t.head?, ¬ (c = '<' ∧ (d = '>' ∨ d = '=')) ∧ ¬ (c = '>' ∧ d = '=')
  · have single' : ∀ d ∈ (t ++ rest).head?,
        ¬ (c = '<' ∧ (d = '>' ∨ d = '=')) ∧ ¬ (c = '>' ∧ d = '=') := by
      intro d head
      by_cases mark : Text.isQuoteMark d
      · refine ⟨?_, ?_⟩
        · rintro ⟨-, rfl | rfl⟩ <;> cases mark
        · rintro ⟨-, rfl⟩
          cases mark
      · exact single d ((Text.head?_append_quoted quoted (by simpa using mark) t).1 head)
    rw [scanOperator?_single single, scanOperator?_single single']
    split <;> rfl
  · simp only [not_forall] at single
    obtain ⟨d, head, double⟩ := single
    obtain ⟨t, rfl⟩ := List.head?_eq_some_iff.1 head
    have cases : c = '<' ∧ (d = '>' ∨ d = '=') ∨ c = '>' ∧ d = '=' := by
      by_contra other
      exact double (not_or.1 other)
    obtain ⟨rfl, rfl | rfl⟩ | ⟨rfl, rfl⟩ := cases <;> rfl

theorem nextPlain_append (quoted : Quoted rest) (c : Char) (t : Text) :
    nextPlain c (t ++ rest) = ((nextPlain c t).1, (nextPlain c t).2 ++ rest) := by
  have bare : Excludes SheetName.isBareChar := by constructor <;> decide
  have blank : Excludes Text.isBlank := by constructor <;> decide
  simp only [nextPlain, takeWhile_append_quoted quoted bare, dropWhile_append_quoted quoted bare,
    takeWhile_append_quoted quoted blank, dropWhile_append_quoted quoted blank,
    Text.head?_append_quoted quoted (c := '(') (by decide), scanOperator?_append quoted]
  split
  · rfl
  · split
    · rfl
    · cases scanOperator? (c :: t) with
      | some read => rfl
      | none =>
        simp only [Option.map_none]
        repeat' split
        all_goals rfl

theorem next_append (quoted : Quoted rest) {c : Char} (other : Text.isQuoteMark c = false)
    (t : Text) : next c (t ++ rest) = ((next c t).1, (next c t).2 ++ rest) := by
  obtain ⟨noLiteral, noName⟩ : c ≠ '"' ∧ c ≠ '\'' := by
    simpa [Text.isQuoteMark] using other
  have number := Literal.scan_append quoted (c :: t)
  rw [List.cons_append] at number
  simp only [next, if_neg noLiteral, Ref.scan?_append quoted noName, number]
  cases Ref.scan? (c :: t) with
  | some read => rfl
  | none =>
    simp only [Option.map_none]
    cases Literal.scan Char.isDigit (c :: t) with
    | some read => rfl
    | none => exact nextPlain_append quoted c t

/-- A text without quote marks has its own tokens in front of a quote mark. -/
theorem tokens_append_of_plain {t : Text} (unquoted : Unquoted t) (quoted : Quoted rest) :
    tokens (t ++ rest) = tokens t ++ tokens rest := by
  fun_induction tokens t with
  | case1 => rfl
  | case2 c t ih =>
    obtain ⟨first, others⟩ := List.forall_mem_cons.1 unquoted
    have behind : Unquoted (next c t).2 := by
      intro d member
      refine unquoted d ?_
      rw [← (text_next c t).1]
      exact List.mem_append_right _ member
    rw [List.cons_append, tokens, next_append quoted first, ih behind, List.cons_append]

end Token
end CellGraph
