import CellGraph.Proofs.Lexing.Scan

/-!
# Written references

The shape of addresses, sheet names and references. `Ref.scan?_text` says that a reference of
this shape is read whole wherever no word goes on behind it, `Ref.formed_of_scan?` that nothing
else is read.
-/

namespace CellGraph

/-! ## Characters -/

theorem SheetName.isBareChar_of_isDigit {c : Char} (h : c.isDigit) : isBareChar c := by
  simp [isBareChar, Text.isWordChar_of_isDigit h]

theorem SheetName.isBareChar_of_isUpper {c : Char} (h : c.isUpper) : isBareChar c := by
  simp [isBareChar, Text.isWordChar_of_isUpper h]

namespace Ref

/-- A text that continues no word starts with no character of a word. -/
theorem not_bare_of_continues {rest : Text} (ends : continues rest = false) :
    ∀ c ∈ rest.head?, SheetName.isBareChar c = false := by
  intro c member
  cases rest with
  | nil => simp at member
  | cons d rest =>
    simp only [List.head?_cons, Option.mem_def, Option.some.injEq] at member
    subst member
    simp only [continues, Bool.or_eq_false_iff] at ends
    exact ends.1.1

theorem ne_bang_of_continues {rest : Text} (ends : continues rest = false) :
    rest.head? ≠ some '!' := by
  cases rest with
  | nil => simp
  | cons c rest =>
    simp only [continues, Bool.or_eq_false_iff, beq_eq_false_iff_ne] at ends
    simpa using ends.2

theorem not_digit_of_continues {rest : Text} (ends : continues rest = false) :
    ∀ c ∈ rest.head?, c.isDigit = false := by
  intro c member
  by_cases digit : c.isDigit
  · have bare := SheetName.isBareChar_of_isDigit digit
    rw [not_bare_of_continues ends c member] at bare
    exact absurd bare (by decide)
  · simpa using digit

/-! ## Addresses -/

/-- A dollar sign or nothing. -/
def IsMarker (t : Text) : Prop := t = [] ∨ t = ['$']

/-- The letters of a column: one to three capitals. -/
structure IsColumn (t : Text) : Prop where
  some_letter : t ≠ []
  short : t.length ≤ 3
  letters : ∀ c ∈ t, c.isUpper

/-- The digits of a row. -/
structure IsRow (t : Text) : Prop where
  some_digit : t ≠ []
  digits : ∀ c ∈ t, c.isDigit

/-- An address as it is written, and the same without dollar signs. -/
inductive IsAddress : Text → Text → Prop
  | intro {mark column mark' row : Text} (first : IsMarker mark) (letters : IsColumn column)
      (second : IsMarker mark') (digits : IsRow row) :
      IsAddress (mark ++ column ++ mark' ++ row) (column ++ row)

theorem scanMarker_marker {mark t : Text} (marker : IsMarker mark) (bare : t.head? ≠ some '$') :
    scanMarker (mark ++ t) = (mark, t) := by
  rcases marker with rfl | rfl
  · cases t with
    | nil => rfl
    | cons c t =>
      have noMark : c ≠ '$' := by simpa using bare
      unfold scanMarker
      split
      · next same => simp_all
      · rfl
  · rfl

theorem isMarker_scanMarker (t : Text) : IsMarker (scanMarker t).1 := by
  unfold scanMarker
  split
  · exact .inr rfl
  · exact .inl rfl

/-- An address is read whole in front of anything that does not go on with the word. -/
theorem scanAddress?_text {written address rest : Text} (shape : IsAddress written address)
    (ends : continues rest = false) :
    scanAddress? (written ++ rest) = some (written, address, rest) := by
  cases shape with
  | @intro mark column mark' row first letters second digits =>
    obtain ⟨letter, column, rfl⟩ := List.exists_cons_of_ne_nil letters.some_letter
    obtain ⟨digit, row, rfl⟩ := List.exists_cons_of_ne_nil digits.some_digit
    have isLetter : letter.isUpper := letters.letters letter (by simp)
    have isDigit : digit.isDigit := digits.digits digit (by simp)
    have firstRead : scanMarker (mark ++ (letter :: column ++ (mark' ++ (digit :: row ++ rest)))) =
        (mark, letter :: column ++ (mark' ++ (digit :: row ++ rest))) := by
      refine scanMarker_marker first ?_
      simp only [List.cons_append, List.head?_cons, ne_eq, Option.some.injEq]
      rintro rfl
      exact absurd isLetter (by decide)
    have secondRead : scanMarker (mark' ++ (digit :: row ++ rest)) =
        (mark', digit :: row ++ rest) := by
      refine scanMarker_marker second ?_
      simp only [List.cons_append, List.head?_cons, ne_eq, Option.some.injEq]
      rintro rfl
      exact absurd isDigit (by decide)
    have columnStop : ∀ c ∈ (mark' ++ (digit :: row ++ rest)).head?, c.isUpper = false := by
      intro c member
      rcases second with rfl | rfl
      · simp only [List.nil_append, List.cons_append, List.head?_cons, Option.mem_def,
          Option.some.injEq] at member
        subst member
        by_cases capital : digit.isUpper
        · exact absurd isDigit (Text.not_isDigit_of_isUpper capital)
        · simpa using capital
      · simp only [List.cons_append, List.head?_cons, Option.mem_def, Option.some.injEq] at member
        subst member
        decide
    have column_taken := Text.takeWhile_append_stop letters.letters columnStop
    have column_dropped := Text.dropWhile_append_stop letters.letters columnStop
    have row_taken := Text.takeWhile_append_stop digits.digits (not_digit_of_continues ends)
    have row_dropped := Text.dropWhile_append_stop digits.digits (not_digit_of_continues ends)
    unfold scanAddress?
    simp only [List.append_assoc, firstRead, secondRead, column_taken, column_dropped, row_taken,
      row_dropped]
    rw [if_pos ⟨letters.some_letter, letters.short, digits.some_digit, ends⟩]

/-- What is read as an address has the shape of one, and no word goes on behind it. -/
theorem isAddress_of_scanAddress? {t written address rest : Text}
    (h : scanAddress? t = some (written, address, rest)) :
    IsAddress written address ∧ t = written ++ rest ∧ continues rest = false := by
  have whole := (eq_of_scanAddress? h).1
  unfold scanAddress? at h
  dsimp only at h
  split at h
  · next valid =>
    simp only [Option.some.injEq, Prod.mk.injEq] at h
    obtain ⟨rfl, rfl, rfl⟩ := h
    refine ⟨?_, whole, valid.2.2.2⟩
    exact .intro (isMarker_scanMarker _) ⟨valid.1, valid.2.1, Text.takeWhile_inside _⟩
      (isMarker_scanMarker _) ⟨valid.2.2.1, Text.takeWhile_inside _⟩
  · simp at h

/-- The characters of a written address. -/
theorem IsAddress.mem_written {written address : Text} (shape : IsAddress written address)
    {c : Char} (member : c ∈ written) : c = '$' ∨ c.isUpper ∨ c.isDigit := by
  cases shape with
  | @intro mark column mark' row first letters second digits =>
    have marker : ∀ {m : Text}, IsMarker m → c ∈ m → c = '$' := by
      rintro m (rfl | rfl) inside
      · simp at inside
      · simpa using inside
    simp only [List.mem_append] at member
    rcases member with ((inFirst | inColumn) | inSecond) | inRow
    · exact .inl (marker first inFirst)
    · exact .inr (.inl (letters.letters c inColumn))
    · exact .inl (marker second inSecond)
    · exact .inr (.inr (digits.digits c inRow))

/-- The characters of an address without dollar signs. -/
theorem IsAddress.mem_address {written address : Text} (shape : IsAddress written address)
    {c : Char} (member : c ∈ address) : c.isUpper ∨ c.isDigit := by
  cases shape with
  | intro _ letters _ digits =>
    rcases List.mem_append.1 member with inColumn | inRow
    · exact .inl (letters.letters c inColumn)
    · exact .inr (digits.digits c inRow)

theorem IsAddress.address_ne_nil {written address : Text} (shape : IsAddress written address) :
    address ≠ [] := by
  cases shape with
  | intro _ letters _ _ => simp [letters.some_letter]

theorem IsAddress.exists_upper {written address : Text} (shape : IsAddress written address) :
    ∃ c ∈ written, c.isUpper := by
  cases shape with
  | intro _ letters _ _ =>
    obtain ⟨c, member⟩ := List.exists_mem_of_ne_nil _ letters.some_letter
    exact ⟨c, by simp [member], letters.letters c member⟩

/-- An address starts with a dollar sign or a capital. -/
theorem IsAddress.head {written address : Text} (shape : IsAddress written address) :
    ∃ c t, written = c :: t ∧ (c = '$' ∨ c.isUpper) := by
  cases shape with
  | @intro mark column mark' row first letters second digits =>
    obtain ⟨letter, column, rfl⟩ := List.exists_cons_of_ne_nil letters.some_letter
    rcases first with rfl | rfl
    · exact ⟨letter, _, rfl, .inr (letters.letters letter (by simp))⟩
    · exact ⟨'$', _, rfl, .inl rfl⟩

/-- An address has at least two characters. -/
theorem IsAddress.two {written address : Text} (shape : IsAddress written address) :
    ∃ c d t, written = c :: d :: t := by
  have long : 2 ≤ written.length := by
    cases shape with
    | intro _ letters _ digits =>
      have column := List.length_pos_iff.2 letters.some_letter
      have row := List.length_pos_iff.2 digits.some_digit
      simp only [List.length_append]
      omega
  match written, long with
  | c :: d :: t, _ => exact ⟨c, d, t, rfl⟩

theorem IsAddress.not_mem {written address : Text} (shape : IsAddress written address) {d : Char}
    (other : d ≠ '$' ∧ d.isUpper = false ∧ d.isDigit = false) : d ∉ written := by
  intro member
  rcases shape.mem_written member with dollar | capital | digit
  · exact other.1 dollar
  · simp [other.2.1] at capital
  · simp [other.2.2] at digit

end Ref

/-! ## Sheet names -/

namespace SheetName

/-- A quoted name is read up to its closing quote. -/
theorem unquote?_quote (name rest : Text) (ends : rest.head? ≠ some '\'') :
    unquote? (quote name ++ '\'' :: rest) = some (name, rest) := by
  induction name with
  | nil =>
    cases rest with
    | nil => rfl
    | cons c rest =>
      have noQuote : c ≠ '\'' := by simpa using ends
      simp only [quote, List.nil_append]
      rw [unquote?.eq_3 '\'' (c :: rest) (by rintro t - same; simp_all)]
      simp
  | cons c name ih =>
    by_cases isQuote : c = '\''
    · subst isQuote
      simp only [quote, if_true, List.cons_append]
      rw [unquote?, ih]
      rfl
    · simp only [quote, isQuote, if_false, List.cons_append]
      rw [unquote?.eq_3 _ _ (by rintro t same; exact absurd same isQuote)]
      simp [isQuote, ih]

/-- The two ways to write a name in front of a reference. -/
inductive IsWritten : Text → Text → Prop
  | bare {name : Text} (plain : isBare name) : IsWritten name name
  | quoted {name : Text} (some_char : name ≠ []) : IsWritten name ('\'' :: quote name ++ ['\''])

/-- Quoting repeats characters only. -/
theorem mem_quote {name : Text} {d : Char} : d ∈ quote name ↔ d ∈ name := by
  induction name with
  | nil => simp [quote]
  | cons c name ih =>
    unfold quote
    split
    · next isQuote => simp [ih, isQuote]
    · simp [ih]

theorem IsWritten.mem_iff {name written : Text} {d : Char} (noQuote : d ≠ '\'')
    (shape : IsWritten name written) : d ∈ written ↔ d ∈ name := by
  cases shape with
  | bare => rfl
  | quoted => simp [mem_quote, noQuote]

/-- A name that is not empty is written in one of the two ways. -/
theorem isWritten_written {name : Text} (some_char : name ≠ []) :
    IsWritten name (written name) := by
  unfold written
  by_cases plain : isBare name
  · rw [if_pos plain]
    exact .bare plain
  · rw [if_neg plain]
    exact .quoted some_char

theorem IsWritten.ne_nil {name written : Text} (shape : IsWritten name written) : name ≠ [] := by
  cases shape with
  | bare plain =>
    rintro rfl
    simp [isBare] at plain
  | quoted some_char => exact some_char

/-- A written name starts with a quote or a character of a word. -/
theorem IsWritten.head {name written : Text} (shape : IsWritten name written) :
    ∃ c t, written = c :: t ∧ (c = '\'' ∨ Text.isWordChar c) := by
  cases shape with
  | bare plain =>
    obtain ⟨c, t, rfl⟩ := List.exists_cons_of_ne_nil (IsWritten.bare plain).ne_nil
    simp only [isBare, Bool.and_eq_true] at plain
    exact ⟨c, t, rfl, .inr plain.1⟩
  | quoted => exact ⟨'\'', _, rfl, .inl rfl⟩

/-- The two ways to write a name differ in their first characters. -/
theorem IsWritten.eq_of_append {name written written' t u : Text} (shape : IsWritten name written)
    (shape' : IsWritten name written') (same : written ++ t = written' ++ u) :
    written = written' := by
  have noQuote : ∀ {v : Text}, isBare name → name ++ t ≠ '\'' :: v ∧ name ++ u ≠ '\'' :: v := by
    intro v plain
    obtain ⟨c, name, rfl⟩ := List.exists_cons_of_ne_nil (IsWritten.bare plain).ne_nil
    simp only [isBare, Bool.and_eq_true] at plain
    constructor <;> rintro ⟨⟩ <;> exact absurd plain.1 (by decide)
  cases shape with
  | bare plain =>
    cases shape' with
    | bare => rfl
    | quoted => exact absurd same (noQuote plain).1
  | quoted =>
    cases shape' with
    | bare plain => exact absurd same.symm (noQuote plain).2
    | quoted => rfl

end SheetName

namespace Ref

/-- A written sheet name and its exclamation mark are read whole. -/
theorem scanSheet?_text {name written : Text} (shape : SheetName.IsWritten name written)
    (rest : Text) :
    scanSheet? (written ++ '!' :: rest) = some (name, written ++ ['!'], rest) := by
  cases shape with
  | bare plain =>
    obtain ⟨c, t, rfl⟩ := List.exists_cons_of_ne_nil (SheetName.IsWritten.bare plain).ne_nil
    simp only [SheetName.isBare, Bool.and_eq_true, List.all_eq_true] at plain
    have noQuote : c ≠ '\'' := by
      rintro rfl
      exact absurd plain.1 (by decide)
    have stop : ∀ d ∈ ('!' :: rest).head?, SheetName.isBareChar d = false := by
      intro d member
      simp only [List.head?_cons, Option.mem_def, Option.some.injEq] at member
      subst member
      decide
    have taken := Text.takeWhile_append_stop plain.2 stop
    have dropped := Text.dropWhile_append_stop plain.2 stop
    simp only [List.cons_append, scanSheet?, noQuote, if_false, plain.1, if_true, taken, dropped]
  | quoted some_char =>
    obtain ⟨c, t, rfl⟩ := List.exists_cons_of_ne_nil some_char
    have read := SheetName.unquote?_quote (c :: t) ('!' :: rest) (by simp)
    simp only [List.cons_append, List.append_assoc, List.nil_append, scanSheet?, if_true, read]

/-- What is read as a sheet name is one of the two ways to write it. -/
theorem isWritten_of_scanSheet? {t name text rest : Text}
    (h : scanSheet? t = some (name, text, rest)) :
    ∃ written, SheetName.IsWritten name written ∧ text = written ++ ['!'] := by
  unfold scanSheet? at h
  split at h
  · simp at h
  · next c t =>
    split at h
    · split at h
      · next d name tail found =>
        simp only [Option.some.injEq, Prod.mk.injEq] at h
        obtain ⟨rfl, rfl, -⟩ := h
        exact ⟨_, .quoted (by simp), by simp⟩
      · simp at h
    · split at h
      · next word =>
        split at h
        · simp only [Option.some.injEq, Prod.mk.injEq] at h
          obtain ⟨rfl, rfl, -⟩ := h
          refine ⟨_, .bare ?_, rfl⟩
          simp only [SheetName.isBare, Bool.and_eq_true, List.all_eq_true]
          exact ⟨word, Text.takeWhile_inside _⟩
        · simp at h
      · simp at h

/-- No sheet name is read off a text without exclamation mark that starts with no quote. -/
theorem scanSheet?_eq_none {t rest : Text} (plain : '!' ∉ t) (unquoted : t.head? ≠ some '\'')
    (some_char : t ≠ []) (behind : rest.head? ≠ some '!')
    (stop : ∀ c ∈ rest.head?, SheetName.isBareChar c = false) :
    scanSheet? (t ++ rest) = none := by
  obtain ⟨c, t, rfl⟩ := List.exists_cons_of_ne_nil some_char
  have noQuote : c ≠ '\'' := by simpa using unquoted
  simp only [List.mem_cons, not_or] at plain
  have noBang := Text.head?_dropWhile_append_ne plain.2 behind stop
  simp only [List.cons_append, scanSheet?, noQuote, if_false]
  split
  · split
    · next found => simp [found] at noBang
    · rfl
  · rfl

/-! ## References -/

/-- The shape of a reference: an address, with a sheet name in front or without one. -/
inductive Formed : Ref → Prop
  | here {written address : Text} (shape : IsAddress written address) :
      Formed ⟨none, address, written⟩
  | there {name nameText written address : Text} (sheet : SheetName.IsWritten name nameText)
      (shape : IsAddress written address) :
      Formed ⟨some name, address, nameText ++ '!' :: written⟩

/-- A reference is read whole in front of anything that does not go on with the word. -/
theorem scan?_text {r : Ref} (formed : r.Formed) {rest : Text} (ends : continues rest = false) :
    scan? (r.text ++ rest) = some (r, rest) := by
  cases formed with
  | @here written address shape =>
    obtain ⟨c, t, start, first⟩ := shape.head
    have unquoted : written.head? ≠ some '\'' := by
      rw [start]
      rintro same
      simp only [List.head?_cons, Option.some.injEq] at same
      subst same
      revert first
      decide
    have noSheet := scanSheet?_eq_none (shape.not_mem (by decide)) unquoted (by simp [start])
      (ne_bang_of_continues ends) (not_bare_of_continues ends)
    simp [scan?, scanOnSheet?, scanLocal?, noSheet, scanAddress?_text shape ends]
  | @there name nameText written address sheet shape =>
    have sheetRead := scanSheet?_text sheet (written ++ rest)
    simp [scan?, scanOnSheet?, sheetRead, scanAddress?_text shape ends]

/-- What is read as a reference has the shape of one, and no word goes on behind it. -/
theorem formed_of_scan? {t rest : Text} {r : Ref} (h : scan? t = some (r, rest)) :
    r.Formed ∧ continues rest = false := by
  rcases cases_of_scan? h with ⟨sheet, sheetText, t', written, address, sheetFound, found, rfl⟩ |
    ⟨written, address, found, rfl⟩
  · obtain ⟨nameText, named, rfl⟩ := isWritten_of_scanSheet? sheetFound
    obtain ⟨shape, -, ends⟩ := isAddress_of_scanAddress? found
    refine ⟨?_, ends⟩
    simpa using Formed.there named shape
  · obtain ⟨shape, -, ends⟩ := isAddress_of_scanAddress? found
    exact ⟨.here shape, ends⟩

/-- What stands in the sheet name of a reference stands in its text. -/
theorem Formed.not_mem_sheet {r : Ref} (formed : r.Formed) (free : '$' ∉ r.text) :
    ∀ name ∈ r.sheet, '$' ∉ name := by
  cases formed with
  | here => simp
  | there sheet _ =>
    rintro name ⟨⟩ dollar
    exact free (List.mem_append_left _ ((sheet.mem_iff (by decide)).2 dollar))

theorem Formed.exists_upper {r : Ref} (formed : r.Formed) : ∃ c ∈ r.text, c.isUpper := by
  cases formed with
  | here shape => exact shape.exists_upper
  | there _ shape =>
    obtain ⟨c, member, capital⟩ := shape.exists_upper
    exact ⟨c, by simp [member], capital⟩

/-- A reference has at least two characters. -/
theorem Formed.two {r : Ref} (formed : r.Formed) : ∃ c d t, r.text = c :: d :: t := by
  cases formed with
  | here shape => exact shape.two
  | there sheet _ =>
    obtain ⟨c, t, rfl, -⟩ := sheet.head
    cases t with
    | nil => exact ⟨c, _, _, rfl⟩
    | cons d t => exact ⟨c, d, _, rfl⟩

/-- A reference starts with a quote, a dollar sign or a character of a word. -/
theorem Formed.head {r : Ref} (formed : r.Formed) :
    ∃ c t, r.text = c :: t ∧ (c = '\'' ∨ c = '$' ∨ Text.isWordChar c) := by
  cases formed with
  | here shape =>
    obtain ⟨c, t, start, dollar | capital⟩ := shape.head
    · exact ⟨c, t, start, .inr (.inl dollar)⟩
    · exact ⟨c, t, start, .inr (.inr (Text.isWordChar_of_isUpper capital))⟩
  | there sheet _ =>
    obtain ⟨c, t, start, quote | word⟩ := sheet.head
    · exact ⟨c, _, by simp [start]; rfl, .inl quote⟩
    · exact ⟨c, _, by simp [start]; rfl, .inr (.inr word)⟩

/-- An address ends with a digit of its row. -/
theorem IsAddress.getLast? {written address : Text} (shape : IsAddress written address) :
    ∃ d, written.getLast? = some d ∧ d.isDigit := by
  cases shape with
  | @intro mark column mark' row _ _ _ digits =>
    have final := List.getLast?_eq_some_getLast digits.some_digit
    exact ⟨_, by rw [List.getLast?_append, final]; rfl, digits.digits _ (List.getLast_mem _)⟩

theorem Formed.getLast? {r : Ref} (formed : r.Formed) : ∃ d, r.text.getLast? = some d ∧ d.isDigit := by
  cases formed with
  | here shape => exact shape.getLast?
  | there _ shape =>
    obtain ⟨d, final, digit⟩ := shape.getLast?
    exact ⟨d, by rw [List.getLast?_append, List.getLast?_cons, final]; rfl, digit⟩

end Ref
end CellGraph
