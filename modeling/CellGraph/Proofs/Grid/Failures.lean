import CellGraph.Proofs.Diagram.Dependencies
import CellGraph.Proofs.Grid.Labels
import CellGraph.Proofs.Text.Blank

/-!
# When a grid is built

A grid is built unless a cell stops it. There are three ways for a cell to do so
(`BookCell.Stops`): an integer beyond the largest number, a percentage that cannot be read because of
the white space in it, and a formula with too many percent signs behind a number.
-/

namespace CellGraph

namespace Text

/-! ## Trimming -/

theorem head?_trimEnd {p : Char → Bool} {t : Text} {c : Char}
    (head : c ∈ (trimEnd p t).head?) : c ∈ t.head? := by
  have inFront : trimEnd p t <+: t := by
    rw [trimEnd, ← List.reverse_suffix, List.reverse_reverse]
    exact List.dropWhile_suffix _
  obtain ⟨rest, whole⟩ := inFront
  rw [← whole]
  exact List.mem_head?_append_of_mem_head? head

theorem head?_trim {t : Text} {c : Char} (head : c ∈ (trim t).head?) : isBlank c = false :=
  dropWhile_stop t c (head?_trimEnd head)

theorem getLast?_trim {t : Text} {c : Char} (last : c ∈ (trim t).getLast?) : isBlank c = false := by
  rw [trim, trimEnd, List.getLast?_reverse] at last
  exact dropWhile_stop _ c last

end Text

theorem Text.trim_subset (t : Text) : Text.trim t ⊆ t := by
  intro c member
  have inDropped := (List.dropWhile_sublist _).subset (List.mem_reverse.1 member)
  exact (List.dropWhile_sublist _).subset (List.mem_reverse.1 inDropped)

/-! ## Percentages -/

/-- Digits of any script with at most one point. -/
structure Literal.Decimals (l : Literal) : Prop where
  some_digit : l.whole ≠ []
  whole : ∀ c ∈ l.whole, Text.isDecimal c
  fraction : ∀ t ∈ l.fraction, ∀ c ∈ t, Text.isDecimal c
  exponent : l.exponent = none

namespace CellText

/-- A percentage with a white space behind its minus sign that is not the plain space. -/
def Unreadable (t : Text) : Prop :=
  ∃ c l, Text.isBlank c ∧ c ≠ ' ' ∧ Literal.Decimals l ∧ t = '-' :: c :: (l.text ++ ['%'])

theorem exists_decimals {t rest : Text} (digit : t.head?.any Text.isDecimal)
    (same : rest = t.dropWhile Text.isDecimal) : ∃ l : Literal, l.Decimals ∧
      t = l.text ++ if rest.head? = some '.' then rest.tail.dropWhile Text.isDecimal else rest := by
  have whole := List.takeWhile_append_dropWhile (p := Text.isDecimal) (l := t)
  have some_digit : t.takeWhile Text.isDecimal ≠ [] := by
    cases t with
    | nil => simp at digit
    | cons c t => simp_all
  rw [← same] at whole
  split
  · next point =>
    obtain ⟨behind, rfl⟩ := List.head?_eq_some_iff.1 point
    refine ⟨⟨t.takeWhile Text.isDecimal, some (behind.takeWhile Text.isDecimal), none⟩,
      ⟨some_digit, Text.takeWhile_inside t, ?_, rfl⟩, ?_⟩
    · rintro _ ⟨⟩
      exact Text.takeWhile_inside behind
    · simpa [Literal.text, List.takeWhile_append_dropWhile] using whole.symm
  · refine ⟨⟨t.takeWhile Text.isDecimal, none, none⟩,
      ⟨some_digit, Text.takeWhile_inside t, by simp, rfl⟩, ?_⟩
    simpa [Literal.text] using whole.symm

theorem exists_minus (t : Text) : ∃ sign, (sign = [] ∨ sign = ['-']) ∧
    t = sign ++ if t.head? = some '-' then t.tail else t := by
  split
  · next minus =>
    obtain ⟨behind, rfl⟩ := List.head?_eq_some_iff.1 minus
    exact ⟨['-'], .inr rfl, rfl⟩
  · exact ⟨[], .inl rfl, rfl⟩

theorem exists_blank (t : Text) : ∃ blank, (blank = [] ∨ ∃ c, Text.isBlank c ∧ blank = [c]) ∧
    t = blank ++ if t.head?.any Text.isBlank then t.tail else t := by
  cases t with
  | nil => exact ⟨[], .inl rfl, rfl⟩
  | cons c t =>
    by_cases isBlank : Text.isBlank c
    · exact ⟨[c], .inr ⟨c, isBlank, rfl⟩, by simp [isBlank]⟩
    · exact ⟨[], .inl rfl, by simp [isBlank]⟩

/-- The parts of a percentage. -/
theorem exists_of_isPercentage {t : Text} (percentage : isPercentage t) :
    ∃ sign blank l tail, (sign = [] ∨ sign = ['-']) ∧
      (blank = [] ∨ ∃ c, Text.isBlank c ∧ blank = [c]) ∧ Literal.Decimals l ∧
      (tail = [] ∨ tail = ['\n']) ∧ t = sign ++ (blank ++ (l.text ++ '%' :: tail)) := by
  obtain ⟨sign, isSign, signed⟩ := exists_minus t
  unfold isPercentage at percentage
  dsimp only at percentage
  generalize (if t.head? = some '-' then t.tail else t) = unsigned at percentage signed
  obtain ⟨blank, isBlank, blanked⟩ := exists_blank unsigned
  generalize (if unsigned.head?.any Text.isBlank then unsigned.tail else unsigned) = number
    at percentage blanked
  simp only [Bool.and_eq_true, decide_eq_true_eq] at percentage
  obtain ⟨⟨digit, percent⟩, ends⟩ := percentage
  obtain ⟨l, decimals, written⟩ := exists_decimals digit rfl
  obtain ⟨tail, rest⟩ := List.head?_eq_some_iff.1 percent
  rw [rest] at written ends
  rw [List.tail_cons] at ends
  refine ⟨sign, blank, l, tail, isSign, isBlank, decimals, ?_, ?_⟩
  · simpa only [atEnd, Bool.or_eq_true, decide_eq_true_eq] using ends
  · rw [signed, blanked, written]

theorem isPercentage_of_unreadable {t : Text} (unreadable : Unreadable t) : isPercentage t := by
  obtain ⟨c, l, blank, -, decimals, rfl⟩ := unreadable
  obtain ⟨whole, fraction, exponent⟩ := l
  obtain rfl : exponent = none := decimals.exponent
  obtain ⟨d, whole, rfl⟩ := List.exists_cons_of_ne_nil decimals.some_digit
  have digit : Text.isDecimal d := decimals.whole d (by simp)
  have percent : ∀ e ∈ (['%'] : Text).head?, Text.isDecimal e = false := by
    rintro _ ⟨⟩
    decide
  cases fraction with
  | none =>
    have dropped := Text.dropWhile_append_stop decimals.whole percent
    simp only [List.cons_append] at dropped
    simp [isPercentage, Literal.text, blank, digit, dropped, atEnd]
  | some more =>
    have point : ∀ e ∈ ('.' :: (more ++ ['%'])).head?, Text.isDecimal e = false := by
      rintro _ ⟨⟩
      decide
    have dropped := Text.dropWhile_append_stop decimals.whole point
    have droppedMore := Text.dropWhile_append_stop (decimals.fraction more rfl) percent
    simp only [List.cons_append] at dropped
    simp [isPercentage, Literal.text, blank, digit, dropped, droppedMore, atEnd]

/-! ## Reading fractions -/

theorem scan_decimals {l : Literal} (decimals : l.Decimals) :
    Literal.scan Text.isDecimal l.text = some (l, []) := by
  obtain ⟨whole, fraction, exponent⟩ := l
  obtain rfl : exponent = none := decimals.exponent
  have some_digit : whole ≠ [] := decimals.some_digit
  have ends : ∀ c ∈ ([] : Text).head?, Text.isDecimal c = false := by simp
  cases fraction with
  | none =>
    have taken := Text.takeWhile_append_stop decimals.whole ends
    have dropped := Text.dropWhile_append_stop decimals.whole ends
    rw [List.append_nil] at taken dropped
    simp [Literal.scan, Literal.text, taken, dropped, some_digit, Exponent.scan]
  | some more =>
    have point : ∀ e ∈ ('.' :: more).head?, Text.isDecimal e = false := by
      rintro _ ⟨⟩
      decide
    have taken := Text.takeWhile_append_stop decimals.whole point
    have dropped := Text.dropWhile_append_stop decimals.whole point
    have takenMore := Text.takeWhile_append_stop (decimals.fraction more rfl) ends
    have droppedMore := Text.dropWhile_append_stop (decimals.fraction more rfl) ends
    rw [List.append_nil] at takenMore droppedMore
    simp [Literal.scan, Literal.text, taken, dropped, takenMore, droppedMore, some_digit,
      Exponent.scan]

theorem mem_decimals {l : Literal} (decimals : l.Decimals) {c : Char} (member : c ∈ l.text) :
    Text.isDecimal c ∨ c = '.' := by
  rcases Literal.mem_text_iff.1 member with inWhole | ⟨t, found, point | digit⟩ | ⟨e, found, -⟩
  · exact .inl (decimals.whole c inWhole)
  · exact .inr point
  · exact .inl (decimals.fraction t found c digit)
  · simp [decimals.exponent] at found

theorem without_decimals {l : Literal} (decimals : l.Decimals) :
    Text.without ' ' l.text = l.text := by
  refine List.filter_eq_self.2 fun c member => decide_eq_true ?_
  rcases mem_decimals decimals member with decimal | rfl
  · exact Text.ne_of_isDecimal decimal (by decide)
  · decide

theorem exists_head_decimals {l : Literal} (decimals : l.Decimals) :
    ∃ d t, Text.isDecimal d ∧ l.text = d :: t := by
  obtain ⟨d, whole, same⟩ := List.exists_cons_of_ne_nil decimals.some_digit
  exact ⟨d, _, decimals.whole d (by simp [same]), by simp [Literal.text, same]; rfl⟩

/-- Digits are read, with a minus sign or without one. -/
theorem isSome_read?_decimals {sign : Text} (isSign : sign = [] ∨ sign = ['-']) {l : Literal}
    (decimals : l.Decimals) : (Binary64.read? (sign ++ l.text)).isSome := by
  obtain ⟨d, t, digit, start⟩ := exists_head_decimals decimals
  have unsigned : Binary64.scanSign l.text = (false, l.text) := by
    rw [start]
    unfold Binary64.scanSign
    split
    · next same => exact absurd (List.cons.inj same).1 (Text.ne_of_isDecimal digit (by decide))
    · next same => exact absurd (List.cons.inj same).1 (Text.ne_of_isDecimal digit (by decide))
    · rfl
  rcases isSign with rfl | rfl
  · simp [Binary64.read?, unsigned, scan_decimals decimals]
  · simp [Binary64.read?, Binary64.scanSign, scan_decimals decimals]

theorem toLower_of_isBlank {c : Char} (blank : Text.isBlank c) : c.toLower = c :=
  dif_neg (of_decide_eq_false (Token.plain_of_isBlank blank).not_upper)

/-- A white space behind the minus sign is no number. -/
theorem read?_minus_blank {c : Char} (blank : Text.isBlank c) (t : Text) :
    Binary64.read? ('-' :: c :: t) = none := by
  have noDigit := Text.isDecimal_of_isBlank blank
  have noPoint := Token.ne_of_isBlank blank (d := '.') (by decide)
  have noScan : Literal.scan Text.isDecimal (c :: t) = none := by
    unfold Literal.scan
    simp only [List.takeWhile_cons, List.dropWhile_cons, noDigit, Bool.false_eq_true, if_false]
    split
    · next same => exact absurd (List.cons.inj same).1 noPoint
    · rfl
  have noWord : ∀ d u, 32 < d.toNat ∧ d.toNat < 133 → (c :: t).map Char.toLower ≠ d :: u := by
    intro d u visible same
    rw [List.map_cons, toLower_of_isBlank blank] at same
    exact Token.ne_of_isBlank blank visible (List.cons.inj same).1
  have noInf := noWord 'i' ['n', 'f'] (by decide)
  have noInfinity := noWord 'i' ['n', 'f', 'i', 'n', 'i', 't', 'y'] (by decide)
  have noNan := noWord 'n' ['a', 'n'] (by decide)
  have words : ("inf" : Text) = ['i', 'n', 'f'] ∧
      ("infinity" : Text) = ['i', 'n', 'f', 'i', 'n', 'i', 't', 'y'] ∧
      ("nan" : Text) = ['n', 'a', 'n'] := ⟨rfl, rfl, rfl⟩
  simp only [Binary64.read?, Binary64.scanSign, noScan, words, noInf, noInfinity, noNan,
    decide_false, Bool.or_self, Bool.false_eq_true, if_false]

/-- A percentage without outer white space becomes a fraction unless white space other than the
plain one stands behind its minus sign. -/
theorem exists_fraction_iff {t : Text} (percentage : isPercentage (Text.trim t)) :
    (∃ u, fraction (Text.trim t) = .ok u) ↔ ¬ Unreadable (Text.trim t) := by
  have succeeds : ∀ {number}, Text.without ' ' (Text.trim t).dropLast = number →
      ((∃ u, fraction (Text.trim t) = .ok u) ↔ (Binary64.read? number).isSome) := by
    rintro number rfl
    rw [fraction]
    split
    · next found => simp [found]
    · next absent => simp [absent]
  obtain ⟨sign, blank, l, tail, isSign, isBlank, decimals, isTail, whole⟩ :=
    exists_of_isPercentage percentage
  have noFeed : tail = [] := by
    rcases isTail with rfl | rfl
    · rfl
    · have blankEnd := Text.getLast?_trim (t := t) (c := '\n') (by simp [whole])
      exact absurd blankEnd (by decide)
  subst noFeed
  have number : (Text.trim t).dropLast = sign ++ (blank ++ l.text) := by
    rw [whole, ← List.append_assoc, ← List.append_assoc, List.dropLast_concat, List.append_assoc]
  -- white space at the start would have been trimmed
  have signed : blank ≠ [] → sign = ['-'] := by
    intro some_blank
    rcases isSign with rfl | rfl
    · rcases isBlank with rfl | ⟨c, blank, rfl⟩
      · exact absurd rfl some_blank
      · have noBlank := Text.head?_trim (t := t) (c := c) (by simp [whole])
        simp [blank] at noBlank
    · rfl
  by_cases unreadable : ∃ c, Text.isBlank c ∧ c ≠ ' ' ∧ blank = [c]
  · obtain ⟨c, blank, noSpace, rfl⟩ := unreadable
    obtain rfl := signed (by simp)
    have read := read?_minus_blank blank (Text.without ' ' l.text)
    have kept : Text.without ' ' (Text.trim t).dropLast = '-' :: c :: Text.without ' ' l.text := by
      simp [number, Text.without, noSpace]
    have found : Unreadable (Text.trim t) := ⟨c, l, blank, noSpace, decimals, whole⟩
    simp [succeeds kept, read, found]
  · have plain : blank = [] ∨ blank = [' '] := by
      rcases isBlank with rfl | ⟨c, blank, rfl⟩
      · exact .inl rfl
      · by_cases space : c = ' '
        · exact .inr (by rw [space])
        · exact absurd ⟨c, blank, space, rfl⟩ unreadable
    have kept : Text.without ' ' (Text.trim t).dropLast = sign ++ l.text := by
      have signKept : Text.without ' ' sign = sign := by rcases isSign with rfl | rfl <;> rfl
      have digitsKept := without_decimals decimals
      unfold Text.without at signKept digitsKept ⊢
      rw [number, List.filter_append, List.filter_append, signKept, digitsKept]
      rcases plain with rfl | rfl <;> simp
    have readable : ¬ Unreadable (Text.trim t) := by
      rintro ⟨c, m, blank', noSpace, -, same⟩
      obtain ⟨d, u, digit, start⟩ := exists_head_decimals decimals
      rw [whole, start] at same
      rcases plain with rfl | rfl
      · rcases isSign with rfl | rfl
        · exact Text.ne_of_isDecimal digit (by decide) (List.cons.inj same).1
        · have noBlank := Text.isBlank_of_isDecimal digit
          rw [(List.cons.inj (List.cons.inj same).2).1, blank'] at noBlank
          cases noBlank
      · obtain rfl := signed (by simp)
        exact noSpace (List.cons.inj (List.cons.inj same).2).1.symm
    simp [succeeds kept, isSome_read?_decimals isSign decimals, readable]

theorem exists_normalize_iff {t : Text} :
    (∃ u, normalize t = .ok u) ↔ ¬ Unreadable (Text.trim t) := by
  by_cases percentage : isPercentage (Text.trim t)
  · rw [← exists_fraction_iff percentage]
    simp only [normalize, percentage, if_true, Except.exists_bind_eq_ok]
    exact ⟨fun ⟨u, found, _⟩ => ⟨u, found⟩, fun ⟨u, found⟩ => ⟨u, found, _, rfl⟩⟩
  · have readable : ¬ Unreadable (Text.trim t) :=
      fun unreadable => percentage (isPercentage_of_unreadable unreadable)
    simp only [normalize, percentage, readable, not_false_eq_true, iff_true]
    exact ⟨_, rfl⟩

theorem Unreadable.percent_mem {t : Text} (unreadable : Unreadable (Text.trim t)) : '%' ∈ t := by
  obtain ⟨c, l, -, -, -, same⟩ := unreadable
  refine Text.trim_subset t ?_
  simp [same]

/-- The texts of numbers are no percentages. -/
theorem readable_of_ofNumber {v : Value} {t : Text} (found : ofNumber v = some (.ok t)) :
    ¬ Unreadable (Text.trim t) := by
  intro unreadable
  have percent := unreadable.percent_mem
  unfold ofNumber at found
  split at found
  · next n =>
    split at found
    · cases found
      cases n with
      | ofNat n => exact absurd (Text.isDigit_of_mem_ofNat percent) (by decide)
      | negSucc n =>
        rcases List.mem_cons.1 percent with sign | digit
        · exact absurd sign (by decide)
        · exact absurd (Text.isDigit_of_mem_ofNat digit) (by decide)
    · cases found
  · next x =>
    cases found
    exact Binary64.not_mem_plainText (by decide) (by decide) x percent
  · cases found

end CellText

/-! ## Cells -/

/-- What stops the reading of a cell. -/
inductive BookCell.Stops (c : BookCell) : Prop
  | integer {n : Int} (isInt : c.value = .int n) (large : Binary64.overflow ≤ n.natAbs)
  | percentage (noNumber : CellText.ofNumber c.value = none) (readable : c.readable)
    (unreadable : CellText.Unreadable (Text.trim c.value.display))
  | formula {formula : Text} (found : c.formula = some formula) (some_char : formula ≠ [])
    (noLink : CellFormula.isLink formula = false) {s : List Node}
    (inside : s ∈ Node.sequences (CellFormula.tree formula)) (overflows : Percent.Overflows s)

theorem CellText.exists_ofCell_iff {c : BookCell} : (∃ t, ofCell c = .ok t) ↔
    (∀ n, c.value = .int n → ¬ Binary64.overflow ≤ n.natAbs) ∧
      (ofNumber c.value = none → c.readable → ¬ Unreadable (Text.trim c.value.display)) := by
  rw [ofCell, Except.exists_bind_eq_ok]
  simp only [exists_normalize_iff]
  have stored : ∀ {r : Except NumberError Text}, ofNumber c.value = some r →
      ((∃ t, (ofNumber c.value).getD (.ok (if c.readable then c.value.display else [])) = .ok t ∧
        ¬ Unreadable (Text.trim t)) ↔ ∃ t, r = .ok t) := by
    intro r found
    rw [found, Option.getD_some]
    refine ⟨fun ⟨t, ok, _⟩ => ⟨t, ok⟩, fun ⟨t, ok⟩ => ⟨t, ok, ?_⟩⟩
    subst ok
    exact readable_of_ofNumber found
  cases number : ofNumber c.value with
  | some r =>
    have isNumber : ofNumber c.value ≠ none := by simp [number]
    rw [← number, stored number, and_iff_left fun absent => absurd absent isNumber]
    unfold ofNumber at number
    split at number
    · next n isInt =>
      cases number
      simp only [isInt, Value.int.injEq, forall_eq', ← Binary64.ofInt?_eq_none_iff]
      cases Binary64.ofInt? n <;> simp
    · next x isFloat =>
      cases number
      simp [isFloat]
    · cases number
  | none =>
    have noInt : ∀ n, c.value ≠ .int n := by
      rintro n isInt
      simp [isInt, ofNumber] at number
    simp only [Option.getD_none, Except.ok.injEq, exists_eq_left', noInt, false_imp_iff,
      implies_true, true_and, true_imp_iff]
    cases c.readable with
    | true => simp
    | false =>
      have blank : ¬ Unreadable (Text.trim []) := fun unreadable => by
        simpa using unreadable.percent_mem
      simpa using blank

theorem CellFormula.exists_ofCell_iff {k : SheetKeys} {c : BookCell} :
    (∃ converted, ofCell k c = .ok converted) ↔
      ∀ formula, c.formula = some formula → formula ≠ [] → isLink formula = false →
        ∀ s ∈ Node.sequences (tree formula), ¬ Percent.Overflows s := by
  unfold ofCell
  split
  · next absent => simp [absent]
  · next empty => simp [empty]
  · next formula empty found =>
    have filled : formula ≠ [] := empty
    split
    · next link => simp [found, link]
    · next noLink =>
      have converts : (∃ e, Dialect.convertTree (tree formula) = .ok e) ↔
          ∀ formula', c.formula = some formula' → formula' ≠ [] → isLink formula' = false →
            ∀ s ∈ Node.sequences (tree formula'), ¬ Percent.Overflows s := by
        simp only [found, Option.some.injEq, forall_eq']
        simp [filled, noLink, Dialect.exists_convertTree_iff]
      rw [← converts]
      simp only [Except.exists_bind_eq_ok]
      exact ⟨fun ⟨e, ok, _⟩ => ⟨e, ok⟩, fun ⟨e, ok⟩ => ⟨e, ok, _, rfl⟩⟩

/-- A cell is read unless something stops it, whatever its column and the names of the sheets. -/
theorem Cell.exists_ofBook_iff {k : SheetKeys} {column : Int} {c : BookCell} :
    (∃ cell, ofBook k column c = .ok cell) ↔ ¬ c.Stops := by
  have both : (∃ cell, ofBook k column c = .ok cell) ↔
      (∃ t, CellText.ofCell c = .ok t) ∧ ∃ converted, CellFormula.ofCell k c = .ok converted := by
    simp only [ofBook, Except.exists_bind_eq_ok]
    exact ⟨fun ⟨t, text, f, formula, _⟩ => ⟨⟨t, text⟩, f, formula⟩,
      fun ⟨⟨t, text⟩, f, formula⟩ => ⟨t, text, f, formula, _, rfl⟩⟩
  rw [both, CellText.exists_ofCell_iff, CellFormula.exists_ofCell_iff]
  constructor
  · rintro ⟨⟨small, readable⟩, few⟩ (⟨isInt, large⟩ | ⟨noNumber, shown, unreadable⟩ |
      ⟨found, some_char, noLink, inside, overflows⟩)
    · exact small _ isInt large
    · exact readable noNumber shown unreadable
    · exact few _ found some_char noLink _ inside overflows
  · intro goes
    exact ⟨⟨fun n isInt large => goes (.integer isInt large),
      fun noNumber shown unreadable => goes (.percentage noNumber shown unreadable)⟩,
      fun formula found some_char noLink s inside overflows =>
        goes (.formula found some_char noLink inside overflows)⟩

/-! ## Workbooks -/

namespace Grid

/-- A grid is built exactly for the workbooks in which no cell stops it. -/
theorem exists_build_iff {b : Book} :
    (∃ built, build b = .ok built) ↔ ∀ c ∈ b.cells, ¬ c.Stops := by
  have rows : (∃ built, build b = .ok built) ↔ ∃ rows, readRows ⟨b.sheetNames⟩ b = .ok rows := by
    simp only [build, Except.exists_bind_eq_ok]
    exact ⟨fun ⟨rows, read, _⟩ => ⟨rows, read⟩, fun ⟨rows, read⟩ => ⟨rows, read, _, rfl⟩⟩
  have sheets : (∃ rows, readRows ⟨b.sheetNames⟩ b = .ok rows) ↔
      ∀ placed ∈ offsets b.sheets, ∀ row ∈ placed.1.rows, ∀ c ∈ row, ¬ c.Stops := by
    have each : ∀ placed ∈ offsets b.sheets,
        (∃ rows, (placed.1.rows.mapM fun row => row.mapM fun c =>
          Cell.ofBook ⟨b.sheetNames⟩ (c.column + placed.2) c) = .ok rows) ↔
        ∀ row ∈ placed.1.rows, ∀ c ∈ row, ¬ c.Stops := by
      intro placed _
      simp only [Except.exists_mapM_eq_ok, Cell.exists_ofBook_iff]
    rw [← forall₂_congr each, ← Except.exists_mapM_eq_ok, readRows, Except.exists_bind_eq_ok]
    exact ⟨fun ⟨sheets, read, _⟩ => ⟨sheets, read⟩, fun ⟨sheets, read⟩ => ⟨sheets, read, _, rfl⟩⟩
  have cells : b.cells = (offsets b.sheets).flatMap fun placed => placed.1.rows.flatten := by
    have sheets := fst_offsets b.sheets
    rw [Book.cells, ← sheets, List.flatMap_map, sheets]
  rw [rows, sheets, cells]
  simp only [List.forall_mem_flatMap, List.forall_mem_flatten]

/-- A workbook of one cell. -/
def oneCell (value : Value) (formula : Option Text) : Book :=
  ⟨[⟨"S", [[⟨"S", "A1", 1, 1, value, formula, true⟩]]⟩]⟩

/-- Each of the three ways stops a grid. -/
theorem build_oneCell_fails :
    build (oneCell (.int (10 ^ 400)) none) = .error .tooLarge ∧
      build (oneCell (.text "-\t5%") none) = .error (.unreadable "-\t5") ∧
      build (oneCell .blank (some ('1' :: List.replicate 155 '%'))) = .error .tooLarge := by
  refine ⟨?_, ?_, ?_⟩ <;> decide +kernel

end Grid
end CellGraph
