import CellGraph.Proofs.Expr.Area
import CellGraph.Proofs.Text.Decimal
import Mathlib.Data.List.Induction
import Mathlib.Data.List.TakeWhile

/-!
# Corners of areas

The cells of an area are computed from the numbers of its corners, and written anew. A corner whose
row has no zeros in front comes out as it was written: an area starts with its first corner and
ends with its second one (`corners_of_cells`).
-/

namespace CellGraph

theorem Ref.Formed.isAddress {r : Ref} (formed : r.Formed) :
    ∃ written, IsAddress written r.address := by
  cases formed with
  | here shape | there _ shape => exact ⟨_, shape⟩

namespace Area

/-! ## Columns -/

theorem columnOfLetters_append (letters : Text) (c : Char) :
    columnOfLetters (letters ++ [c]) = 26 * columnOfLetters letters + letterValue c := by
  simp [columnOfLetters]

/-- The value of a capital gives the capital, checked one by one. -/
theorem ofNat_letterValue {c : Char} (capital : c.isUpper) :
    Char.ofNat (65 + (letterValue c - 1)) = c := by
  have checked : ∀ c : Char, c.toNat < 123 → c.isUpper →
      Char.ofNat (65 + (letterValue c - 1)) = c := Text.forall_of_lt (by decide)
  have letter : c.isAlpha := Text.isAlpha_iff.2 (.inl capital)
  exact checked c (toNat_lt_of_isAlpha letter) capital

/-- The letters of a column are found again from its number. -/
theorem lettersOfColumn_columnOfLetters {letters : Text} (capitals : ∀ c ∈ letters, c.isUpper) :
    lettersOfColumn (columnOfLetters letters) = letters := by
  induction letters using List.reverseRecOn with
  | nil => simp [columnOfLetters, lettersOfColumn]
  | append_singleton letters c ih =>
    have capital := capitals c (by simp)
    have bounds := letterValue_bounds (Text.isAlpha_iff.2 (.inl capital))
    have front : (26 * columnOfLetters letters + letterValue c - 1) / 26 =
        columnOfLetters letters := by omega
    have last : (26 * columnOfLetters letters + letterValue c - 1) % 26 =
        letterValue c - 1 := by omega
    rw [columnOfLetters_append, lettersOfColumn, if_neg (by omega), front, last,
      ih fun d member => capitals d (by simp [member]), ofNat_letterValue capital]

/-! ## Addresses -/

theorem not_isUpper_of_isRow {row : Text} (digits : Ref.IsRow row) :
    ∀ c ∈ row.head?, c.isUpper = false := by
  intro c member
  have digit := digits.digits c (List.mem_of_mem_head? member)
  by_cases capital : c.isUpper
  · exact absurd digit (Text.not_isDigit_of_isUpper capital)
  · simpa using capital

/-- The place of an address is read off its letters and its digits. -/
theorem eq_of_placeThen? {atEnd : Text → Bool} {column row : Text} {p : Place}
    (letters : Ref.IsColumn column) (digits : Ref.IsRow row)
    (found : placeThen? atEnd (column ++ row) = some p) :
    p = ⟨columnOfLetters column, Text.natOfDigits row⟩ := by
  obtain ⟨c, column, rfl⟩ := List.exists_cons_of_ne_nil letters.some_letter
  obtain ⟨d, row, rfl⟩ := List.exists_cons_of_ne_nil digits.some_digit
  have capital : c.isUpper := letters.letters c (by simp)
  have digit : d.isDigit := digits.digits d (by simp)
  have alpha : ∀ e ∈ c :: column, e.isAlpha := fun e member =>
    Text.isAlpha_iff.2 (.inl (letters.letters e member))
  have decimal : ∀ e ∈ d :: row, Text.isDecimal e := fun e member =>
    Text.isDecimal_of_isDigit (digits.digits e member)
  have stop : ∀ e ∈ (d :: row).head?, e.isAlpha = false := by
    rintro e ⟨⟩
    rw [Text.isDigit_iff] at digit
    rw [← Bool.not_eq_true, Text.isAlpha_iff, Text.isUpper_iff, Text.isLower_iff]
    omega
  have first : Ref.scanMarker (c :: column ++ d :: row) = ([], c :: column ++ d :: row) :=
    Ref.scanMarker_marker (.inl rfl) (by rintro ⟨⟩; exact absurd capital (by decide))
  have second : Ref.scanMarker (d :: row) = ([], d :: row) :=
    Ref.scanMarker_marker (.inl rfl) (by rintro ⟨⟩; exact absurd digit (by decide))
  unfold placeThen? at found
  simp only [first, Text.takeWhile_append_stop alpha stop, Text.dropWhile_append_stop alpha stop,
    second, List.takeWhile_eq_self_iff.2 decimal] at found
  split at found
  · exact (Option.some.inj found).symm
  · cases found

/-- Whether the row of an address has no zeros in front. -/
def Unpadded (address : Text) : Prop :=
  (address.dropWhile Char.isUpper).head? = some '0' → address.dropWhile Char.isUpper = ['0']

/-- The place that is read off an address is written as that address. -/
theorem address_of_placeThen? {atEnd : Text → Bool} {written address : Text} {p : Place}
    (shape : Ref.IsAddress written address) (unpadded : Unpadded address)
    (found : placeThen? atEnd address = some p) :
    lettersOfColumn p.column ++ Text.ofNat p.row = address := by
  cases shape with
  | @intro mark column mark' row first letters second digits =>
    rw [Unpadded, Text.dropWhile_append_stop letters.letters (not_isUpper_of_isRow digits)]
      at unpadded
    rw [eq_of_placeThen? letters digits found, lettersOfColumn_columnOfLetters letters.letters,
      Text.ofNat_natOfDigits digits.some_digit digits.digits unpadded]

/-! ## Corners -/

/-- The corners of an area that has cells. -/
theorem corners_of_between {first last : Place} (some_cell : between first last ≠ []) :
    (between first last).head? = some (lettersOfColumn first.column ++ Text.ofNat first.row) ∧
      (between first last).getLast? =
        some (lettersOfColumn last.column ++ Text.ofNat last.row) := by
  have wide : ∃ n, last.column + 1 - first.column = n + 1 := by
    refine Nat.exists_eq_succ_of_ne_zero fun narrow => some_cell ?_
    rw [between, narrow, List.range'_zero, List.flatMap_nil]
  have high : ∃ n, last.row + 1 - first.row = n + 1 := by
    refine Nat.exists_eq_succ_of_ne_zero fun low => some_cell ?_
    simp [between, low]
  obtain ⟨m, columns⟩ := wide
  obtain ⟨n, rows⟩ := high
  rw [between, columns, rows]
  constructor
  · simp [List.range'_succ]
  · have lastColumn : first.column + m = last.column := by omega
    have lastRow : first.row + n = last.row := by omega
    simp [List.range'_1_concat, lastColumn, lastRow]

/-- An area lists its corners first and last, as they are written if their rows have no zeros in
front. -/
theorem corners_of_cells {first first' last last' : Text} (shape : Ref.IsAddress first' first)
    (shape' : Ref.IsAddress last' last) (unpadded : Unpadded first) (unpadded' : Unpadded last)
    (some_cell : cells first last ≠ []) :
    (cells first last).head? = some first ∧ (cells first last).getLast? = some last := by
  unfold cells at some_cell ⊢
  split at some_cell
  · next p q firstFound lastFound =>
    have corners := corners_of_between some_cell
    rwa [address_of_placeThen? shape unpadded firstFound,
      address_of_placeThen? shape' unpadded' lastFound] at corners
  · exact absurd rfl some_cell

/-- The references that a range covers start and end with those to its corners. -/
theorem corners_of_refs {a b : Ref} (first : a.Formed) (last : b.Formed)
    (unpadded : Unpadded a.address) (unpadded' : Unpadded b.address)
    (some_cell : refs a b ≠ []) :
    (refs a b).head? = some (Ref.make a.address (sheetOf a b)) ∧
      (refs a b).getLast? = some (Ref.make b.address (sheetOf a b)) := by
  have listed : cells a.address b.address ≠ [] := by
    rintro empty
    exact some_cell (by rw [refs, empty, List.map_nil])
  obtain ⟨written, shape⟩ := first.isAddress
  obtain ⟨written', shape'⟩ := last.isAddress
  have corners := corners_of_cells shape shape' unpadded unpadded' listed
  rw [refs, List.head?_map, List.getLast?_map, corners.1, corners.2]
  exact ⟨rfl, rfl⟩

end Area
end CellGraph
