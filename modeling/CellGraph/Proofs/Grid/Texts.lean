import CellGraph.Proofs.Grid.Failures

/-!
# The one form of a text

The text of a cell is in a form (`CellText.Normal`) that reading does not change again: it has no
outer white space, it is no percentage, and a number in it has its point. So a cell that holds the
text itself is read like the cell that the text is of (`CellText.ofCell_reread`).
-/

namespace CellGraph

namespace Text

/-! ## Trimming twice -/

theorem trim_eq_self {t : Text} (head : ∀ c ∈ t.head?, isBlank c = false)
    (last : ∀ c ∈ t.getLast?, isBlank c = false) : trim t = t := by
  have atStart : t.dropWhile isBlank = t := dropWhile_append_stop (t := []) (by simp) head
  have atEnd : t.reverse.dropWhile isBlank = t.reverse :=
    dropWhile_append_stop (t := []) (by simp) (by simpa using last)
  rw [trim, trimEnd, atStart, atEnd, List.reverse_reverse]

theorem trim_trim (t : Text) : trim (trim t) = trim t :=
  trim_eq_self (fun _ => head?_trim) fun _ => getLast?_trim

end Text

/-! ## The characters of numbers -/

/-- The characters of an exponent in digits of any kind. -/
theorem Exponent.mem_text_of_scan {digit : Char → Bool} {t : Text} {e : Exponent}
    (found : (scan digit t).1 = some e) {c : Char} (member : c ∈ e.text) :
    digit c ∨ Literal.isMark c := by
  obtain ⟨mark, sign, -, r, taken⟩ := scan_eq_some found
  rcases mem_text_iff.1 member with rfl | isSign | inDigits
  · rcases mark with mark | mark <;> simp [Literal.isMark, mark]
  · rcases sign c isSign with rfl | rfl <;> simp [Literal.isMark]
  · exact .inl (Text.takeWhile_inside r c (taken ▸ inDigits))

/-- The characters of a number in digits of any kind. -/
theorem Literal.mem_text_of_scan {digit : Char → Bool} {t rest : Text} {l : Literal}
    (found : scan digit t = some (l, rest)) {c : Char} (member : c ∈ l.text) :
    digit c ∨ isMark c := by
  have parts := scan_eq_some found
  rcases mem_text_iff.1 member with inWhole | ⟨u, more, rfl | inFraction⟩ | ⟨e, exponent, inside⟩
  · obtain ⟨r, -, -, rfl, -⟩ | ⟨-, -, rfl, -⟩ := parts <;>
      exact .inl (Text.takeWhile_inside t c inWhole)
  · exact .inr rfl
  · obtain ⟨r, -, -, rfl, -⟩ | ⟨-, -, rfl, -⟩ := parts
    · cases more
      exact .inl (Text.takeWhile_inside r c inFraction)
    · cases more
  · obtain ⟨r, -, -, rfl, -⟩ | ⟨-, -, rfl, -⟩ := parts <;>
      exact Exponent.mem_text_of_scan exponent inside

namespace CellText

/-- A text without commas, percent signs and white space. -/
def Compact (t : Text) : Prop := ∀ c ∈ t, c ≠ ',' ∧ c ≠ '%' ∧ Text.isBlank c = false

theorem compact_of_isDecimal {c : Char} (decimal : Text.isDecimal c) :
    c ≠ ',' ∧ c ≠ '%' ∧ Text.isBlank c = false :=
  ⟨Text.ne_of_isDecimal decimal (by decide), Text.ne_of_isDecimal decimal (by decide),
    Text.isBlank_of_isDecimal decimal⟩

theorem compact_of_isMark {c : Char} (mark : Literal.isMark c) :
    c ≠ ',' ∧ c ≠ '%' ∧ Text.isBlank c = false := by
  have marks : c = '.' ∨ c = 'e' ∨ c = 'E' ∨ c = '+' ∨ c = '-' := by
    simpa [Literal.isMark, or_assoc] using mark
  rcases marks with rfl | rfl | rfl | rfl | rfl <;> decide

theorem compact_scanSign {t : Text} (unsigned : Compact (Binary64.scanSign t).2) : Compact t := by
  unfold Binary64.scanSign at unsigned
  split at unsigned
  · exact List.forall_mem_cons.2 ⟨by decide, unsigned⟩
  · exact List.forall_mem_cons.2 ⟨by decide, unsigned⟩
  · exact unsigned

theorem getLast?_scanSign {t : Text} {c : Char}
    (last : c ∈ (Binary64.scanSign t).2.getLast?) : c ∈ t.getLast? := by
  unfold Binary64.scanSign at last
  split at last
  · exact List.mem_getLast?_cons last
  · exact List.mem_getLast?_cons last
  · exact last

/-- A number is compact unless it ends with a line feed. -/
theorem compact_of_isNumber {t : Text} (last : ∀ c ∈ t.getLast?, Text.isBlank c = false)
    (number : isNumber t) : Compact t := by
  simp only [isNumber, Bool.or_eq_true, decide_eq_true_eq] at number
  rcases number with rfl | number
  · simp [Compact]
  · split at number
    · next l rest found =>
      have written := (Literal.eq_of_scan found).1
      have noFeed : rest = [] := by
        rcases (by simpa [atEnd] using number : rest = [] ∨ rest = ['\n']) with none | feed
        · exact none
        · have blankEnd := last '\n' (getLast?_scanSign (by simp [written, feed]))
          exact absurd blankEnd (by decide)
      rw [noFeed, List.append_nil] at written
      refine compact_scanSign fun c member => ?_
      rw [written] at member
      exact (Literal.mem_text_of_scan found member).elim compact_of_isDecimal compact_of_isMark
    · cases number

theorem Compact.trim_eq_self {t : Text} (compact : Compact t) : Text.trim t = t :=
  Text.trim_eq_self (fun c first => (compact c (List.mem_of_mem_head? first)).2.2)
    fun c last => (compact c (List.mem_of_mem_getLast? last)).2.2

theorem Compact.isPercentage_eq_false {t : Text} (compact : Compact t) : isPercentage t = false := by
  refine Bool.eq_false_iff.2 fun percentage => ?_
  obtain ⟨sign, blank, l, tail, -, -, -, -, written⟩ := exists_of_isPercentage percentage
  exact (compact '%' (by simp [written])).2.1 rfl

theorem Compact.swap_eq_self {t : Text} (compact : Compact t) : Text.swap ',' '.' t = t := by
  rw [Text.swap, List.map_congr_left (g := id), List.map_id]
  exact fun c member => if_neg (compact c member).1

/-! ## The form of a text -/

/-- A text as it is kept: without outer white space, no percentage, and no number that is written
with a decimal comma. -/
structure Normal (t : Text) : Prop where
  trimmed : Text.trim t = t
  noPercentage : isPercentage t = false
  pointed : isNumber (Text.swap ',' '.' t) → Text.swap ',' '.' t = t

theorem Compact.normal {t : Text} (compact : Compact t) : Normal t where
  trimmed := compact.trim_eq_self
  noPercentage := compact.isPercentage_eq_false
  pointed _ := compact.swap_eq_self

/-- A number that is kept is compact. -/
theorem Normal.compact {t : Text} (normal : Normal t) (number : isNumber t) : Compact t :=
  compact_of_isNumber (fun _ last => Text.getLast?_trim (normal.trimmed.symm ▸ last)) number

/-- A text that is kept is not changed again. -/
theorem Normal.normalize {t : Text} (normal : Normal t) : normalize t = .ok t := by
  have kept : (if isNumber (Text.swap ',' '.' t) then Text.swap ',' '.' t else t) = t :=
    ite_eq_right_iff.2 normal.pointed
  simp only [CellText.normalize, normal.trimmed, normal.noPercentage, Bool.false_eq_true, if_false,
    Except.bind_eq_ok, Except.ok.injEq, exists_eq_left']
  exact congrArg Except.ok kept

theorem compact_plainText (x : Binary64) : Compact x.plainText := by
  intro c member
  refine ⟨?_, ?_, Bool.eq_false_iff.2 fun blank => ?_⟩
  · rintro rfl
    exact Binary64.not_mem_plainText (by decide) (by decide) x member
  · rintro rfl
    exact Binary64.not_mem_plainText (by decide) (by decide) x member
  · have other : ∀ c : Char, Text.isBlank c →
        (c.isDigit = false ∧ Literal.isMark c = false) ∧ c.isAlpha = false :=
      Text.forall_of_blanks (by decide +kernel)
    exact Binary64.not_mem_plainText (other c blank).1 (other c blank).2 x member

theorem compact_of_fraction {s t : Text} (found : fraction s = .ok t) : Compact t := by
  unfold fraction at found
  dsimp only at found
  split at found
  · cases found
    exact compact_plainText _
  · cases found

theorem getLast?_swap {t : Text} (last : ∀ c ∈ t.getLast?, Text.isBlank c = false) :
    ∀ c ∈ (Text.swap ',' '.' t).getLast?, Text.isBlank c = false := by
  intro c member
  rw [Text.swap, List.getLast?_map] at member
  obtain ⟨d, found, rfl⟩ := Option.mem_map.1 member
  split
  · decide
  · exact last d found

/-- Whatever is read is kept in the one form. -/
theorem normal_of_normalize {s t : Text} (found : normalize s = .ok t) : Normal t := by
  by_cases percentage : isPercentage (Text.trim s)
  · simp only [CellText.normalize, percentage, if_true, Except.bind_eq_ok] at found
    obtain ⟨u, read, found⟩ := found
    have compact := compact_of_fraction read
    -- a fraction has no comma that could become a point
    rw [compact.swap_eq_self, ite_self] at found
    cases found
    exact compact.normal
  · simp only [CellText.normalize, percentage, Bool.false_eq_true, if_false, Except.bind_eq_ok,
      Except.ok.injEq, exists_eq_left'] at found
    cases found
    split
    · next number =>
      exact (compact_of_isNumber (getLast?_swap fun _ => Text.getLast?_trim) number).normal
    · next noNumber =>
      exact ⟨Text.trim_trim s, Bool.eq_false_iff.2 percentage, fun number => absurd number noNumber⟩

theorem normal_of_ofCell {c : BookCell} {t : Text} (found : ofCell c = .ok t) : Normal t := by
  obtain ⟨shown, -, found⟩ := Except.bind_eq_ok.1 found
  exact normal_of_normalize found

/-- A text that was read once is read as itself. If it is a number, it has no comma, no percent sign
and no white space. So a cell that holds it in place of the first value becomes the same cell of a
grid, with the same value or description. -/
theorem ofCell_reread {c : BookCell} {t : Text} (found : ofCell c = .ok t) :
    (∀ d : BookCell, d.readable → d.value = .text t → ofCell d = .ok t) ∧
    (isNumber t → ∀ x ∈ t, x ≠ ',' ∧ x ≠ '%' ∧ Text.isBlank x = false) ∧
    ∀ k column, Cell.ofBook k column { c with value := .text t, readable := true } =
      Cell.ofBook k column c := by
  have normal := normal_of_ofCell found
  have again : ∀ d : BookCell, d.readable → d.value = .text t → ofCell d = .ok t := by
    intro d readable isText
    simp only [ofCell, isText, readable]
    exact normal.normalize
  refine ⟨again, normal.compact, fun k column => ?_⟩
  rw [Cell.ofBook, Cell.ofBook, found, again { c with value := .text t, readable := true } rfl rfl]
  rfl

/-- A percentage in rich text, in digits of two scripts and with white space of four kinds. -/
theorem ofCell_reread_percentage :
    ofCell ⟨"S", "A1", 1, 1, .rich ["\t- ٥", "0.5%\u00a0\n"], none, true⟩ = .ok "-0.505" ∧
    ofCell ⟨"S", "A1", 1, 1, .text "-0.505", none, true⟩ = .ok "-0.505" ∧
    (∀ x ∈ ("-0.505" : Text), x ≠ ',' ∧ x ≠ '%' ∧ Text.isBlank x = false) ∧
    ∀ k column, Cell.ofBook k column ⟨"S", "A1", 1, 1, .text "-0.505", none, true⟩ =
      Cell.ofBook k column ⟨"S", "A1", 1, 1, .rich ["\t- ٥", "0.5%\u00a0\n"], none, true⟩ := by
  have found : ofCell ⟨"S", "A1", 1, 1, .rich ["\t- ٥", "0.5%\u00a0\n"], none, true⟩ =
      .ok "-0.505" := by
    decide +kernel
  obtain ⟨again, compact, same⟩ := ofCell_reread found
  exact ⟨found, again _ rfl rfl, compact (by decide +kernel), same⟩

end CellText
end CellGraph
