import CellGraph.Proofs.Expr.Corners
import Mathlib.Data.List.Nodup

/-!
# Areas are rectangles

An area lists the addresses whose column and row lie between those of its corners, each once, column
by column and each column from top to bottom (`cells_rectangle`). The letters of columns are numerals
without a zero: letters and numbers determine each other (`columnOfLetters_lettersOfColumn`,
`lettersOfColumn_columnOfLetters`), and so do addresses and places (`placeOf_address`).
-/

namespace CellGraph

/-- Column by column, each from top to bottom. -/
def Place.Ahead (p q : Place) : Prop := p.column < q.column ∨ p.column = q.column ∧ p.row < q.row

theorem Place.Ahead.ne {p q : Place} (ahead : p.Ahead q) : p ≠ q := by
  rintro rfl
  unfold Place.Ahead at ahead
  omega

namespace Area

/-! ## Columns -/

theorem letterValue_ofNat {k : Nat} (small : k < 26) : letterValue (Char.ofNat (65 + k)) = k + 1 := by
  revert k
  decide

/-- The number of a column is found again from its letters. -/
theorem columnOfLetters_lettersOfColumn (n : Nat) : columnOfLetters (lettersOfColumn n) = n := by
  fun_induction lettersOfColumn n with
  | case1 => rfl
  | case2 n positive ih =>
    rw [columnOfLetters_append, ih, letterValue_ofNat (Nat.mod_lt _ (by decide))]
    omega

/-! ## Reading addresses -/

/-- The digits of a row that is read: digits of any script, and not too many. -/
structure IsReadableRow (row : Text) : Prop where
  some_digit : row ≠ []
  digits : ∀ c ∈ row, Text.isDecimal c
  short : row.length ≤ rowDigitLimit

/-- No letter is a digit, checked one by one. -/
theorem isDecimal_of_isAlpha {c : Char} (letter : c.isAlpha) : Text.isDecimal c = false := by
  have checked : ∀ c : Char, c.toNat < 123 → c.isAlpha → Text.isDecimal c = false :=
    Text.forall_of_lt (by decide +kernel)
  exact checked c (toNat_lt_of_isAlpha letter) letter

theorem not_isAlpha_of_isDecimal {c : Char} (digit : Text.isDecimal c) : c.isAlpha = false := by
  by_contra letter
  simp [isDecimal_of_isAlpha (Bool.not_eq_false _ ▸ letter)] at digit

/-- The place of an address whose row is read. -/
theorem placeThen?_address {atEnd : Text → Bool} (ends : atEnd []) {column row : Text}
    (letters : Ref.IsColumn column) (digits : IsReadableRow row) :
    placeThen? atEnd (column ++ row) = some ⟨columnOfLetters column, Text.natOfDigits row⟩ := by
  have alpha : ∀ e ∈ column, e.isAlpha := fun e member =>
    Text.isAlpha_iff.2 (.inl (letters.letters e member))
  have stop : ∀ e ∈ row.head?, e.isAlpha = false := fun e member =>
    not_isAlpha_of_isDecimal (digits.digits e (List.mem_of_mem_head? member))
  have noMark : ∀ t : Text, (∀ e ∈ t.head?, e ≠ '$') → Ref.scanMarker t = ([], t) := fun t other =>
    Ref.scanMarker_marker (.inl rfl) fun dollar => other '$' dollar rfl
  have first : Ref.scanMarker (column ++ row) = ([], column ++ row) := by
    refine noMark _ ?_
    obtain ⟨c, column, rfl⟩ := List.exists_cons_of_ne_nil letters.some_letter
    rintro _ ⟨⟩ rfl
    exact absurd (letters.letters '$' (by simp)) (by decide)
  have second : Ref.scanMarker row = ([], row) := by
    refine noMark _ fun e member => ?_
    rintro rfl
    exact absurd (digits.digits '$' (List.mem_of_mem_head? member)) (by decide)
  unfold placeThen?
  simp only [first, Text.takeWhile_append_stop alpha stop, Text.dropWhile_append_stop alpha stop,
    second, List.takeWhile_eq_self_iff.2 digits.digits, List.dropWhile_eq_nil_iff.2 digits.digits]
  rw [if_pos ⟨letters.some_letter, letters.short, digits.some_digit, digits.short, ends⟩]

/-- The place that an address of capitals and digits names. -/
def placeOf (address : Text) : Place :=
  ⟨columnOfLetters (address.takeWhile Char.isUpper),
    Text.natOfDigits (address.dropWhile Char.isUpper)⟩

theorem placeOf_address {letters : Text} (capitals : ∀ c ∈ letters, c.isUpper) (row : Nat) :
    placeOf (letters ++ Text.ofNat row) = ⟨columnOfLetters letters, row⟩ := by
  have stop := not_isUpper_of_isRow
    ⟨Text.ofNat_ne_nil row, fun _ => Text.isDigit_of_mem_ofNat⟩
  rw [placeOf, Text.takeWhile_append_stop capitals stop, Text.dropWhile_append_stop capitals stop,
    Text.natOfDigits_ofNat]

/-! ## Rectangles -/

/-- The address of a place. -/
def addressAt (p : Place) : Text := lettersOfColumn p.column ++ Text.ofNat p.row

theorem placeOf_addressAt (p : Place) : placeOf (addressAt p) = p := by
  rw [addressAt, placeOf_address fun _ => isUpper_of_mem_lettersOfColumn,
    columnOfLetters_lettersOfColumn]

/-- The places between two corners, column by column. -/
def rectangle (first last : Place) : List Place :=
  (List.range' first.column (last.column + 1 - first.column)).flatMap fun column =>
    (List.range' first.row (last.row + 1 - first.row)).map fun row => ⟨column, row⟩

theorem between_eq (first last : Place) :
    between first last = (rectangle first last).map addressAt := by
  simp only [between, rectangle, List.map_flatMap, List.map_map]
  rfl

theorem mem_rectangle {first last p : Place} : p ∈ rectangle first last ↔
    (first.column ≤ p.column ∧ p.column ≤ last.column) ∧
      first.row ≤ p.row ∧ p.row ≤ last.row := by
  obtain ⟨column, row⟩ := p
  simp only [rectangle, List.mem_flatMap, List.mem_map, List.mem_range'_1, Place.mk.injEq]
  constructor
  · rintro ⟨_, inColumns, _, inRows, rfl, rfl⟩
    omega
  · rintro ⟨inColumns, inRows⟩
    exact ⟨column, by omega, row, by omega, rfl, rfl⟩

theorem pairwise_rectangle (first last : Place) :
    (rectangle first last).Pairwise Place.Ahead := by
  have increasing : ∀ start size, (List.range' start size).Pairwise (· < ·) :=
    fun start size => List.pairwise_lt_range' (s := start) (n := size)
  rw [rectangle, List.pairwise_flatMap]
  constructor
  · intro column _
    rw [List.pairwise_map]
    exact (increasing _ _).imp fun less => .inr ⟨rfl, less⟩
  · refine (increasing _ _).imp ?_
    intro column column' less p inColumn q inColumn'
    obtain ⟨_, -, rfl⟩ := List.mem_map.1 inColumn
    obtain ⟨_, -, rfl⟩ := List.mem_map.1 inColumn'
    exact .inl less

theorem length_rectangle (first last : Place) : (rectangle first last).length =
    (last.column + 1 - first.column) * (last.row + 1 - first.row) := by
  simp [rectangle, List.length_flatMap]

theorem rectangle_eq_nil_iff {first last : Place} : rectangle first last = [] ↔
    last.column < first.column ∨ last.row < first.row := by
  rw [← List.length_eq_zero_iff, length_rectangle, Nat.mul_eq_zero]
  omega

/-! ## Areas -/

section

variable {column row column' row' : Text} (letters : Ref.IsColumn column)
  (digits : IsReadableRow row) (letters' : Ref.IsColumn column') (digits' : IsReadableRow row')
include letters digits letters' digits'

theorem cells_eq : cells (column ++ row) (column' ++ row') =
    (rectangle ⟨columnOfLetters column, Text.natOfDigits row⟩
      ⟨columnOfLetters column', Text.natOfDigits row'⟩).map addressAt := by
  rw [cells, placeThen?_address rfl letters digits, placeThen?_address rfl letters' digits']
  exact between_eq _ _

theorem mem_cells {name : Text} (capitals : ∀ c ∈ name, c.isUpper) {n : Nat} :
    name ++ Text.ofNat n ∈ cells (column ++ row) (column' ++ row') ↔
      (columnOfLetters column ≤ columnOfLetters name ∧
        columnOfLetters name ≤ columnOfLetters column') ∧
      Text.natOfDigits row ≤ n ∧ n ≤ Text.natOfDigits row' := by
  have inside : ⟨columnOfLetters name, n⟩ ∈ rectangle ⟨columnOfLetters column, Text.natOfDigits row⟩
    ⟨columnOfLetters column', Text.natOfDigits row'⟩ ↔ _ := mem_rectangle
  rw [← inside, cells_eq letters digits letters' digits', List.mem_map]
  constructor
  · rintro ⟨p, member, same⟩
    have place := congrArg placeOf same
    rw [placeOf_addressAt, placeOf_address capitals] at place
    rwa [← place]
  · intro member
    exact ⟨_, member, by rw [addressAt, lettersOfColumn_columnOfLetters capitals]⟩

/-- The area between two corners is the rectangle between them. It lists the addresses of capitals
and a row without zeros in front whose column and row lie between those of the corners, and nothing
else; no address twice; column by column, each from top to bottom; as many as there are columns
times rows, and none exactly if the columns or the rows are reversed. -/
theorem cells_rectangle :
    (∀ address ∈ cells (column ++ row) (column' ++ row'), ∃ name n,
      Ref.IsColumn name ∧ address = name ++ Text.ofNat n) ∧
    (∀ name n, (∀ c ∈ name, c.isUpper) →
      (name ++ Text.ofNat n ∈ cells (column ++ row) (column' ++ row') ↔
        (columnOfLetters column ≤ columnOfLetters name ∧
          columnOfLetters name ≤ columnOfLetters column') ∧
        Text.natOfDigits row ≤ n ∧ n ≤ Text.natOfDigits row')) ∧
    (cells (column ++ row) (column' ++ row')).Nodup ∧
    ((cells (column ++ row) (column' ++ row')).map placeOf).Pairwise Place.Ahead ∧
    (cells (column ++ row) (column' ++ row')).length =
      (columnOfLetters column' + 1 - columnOfLetters column) *
        (Text.natOfDigits row' + 1 - Text.natOfDigits row) ∧
    (cells (column ++ row) (column' ++ row') = [] ↔
      columnOfLetters column' < columnOfLetters column ∨
        Text.natOfDigits row' < Text.natOfDigits row) := by
  have listed := cells_eq letters digits letters' digits'
  have ordered := pairwise_rectangle ⟨columnOfLetters column, Text.natOfDigits row⟩
    ⟨columnOfLetters column', Text.natOfDigits row'⟩
  refine ⟨?_, fun name n capitals => mem_cells letters digits letters' digits' capitals,
    ?_, ?_, ?_, ?_⟩
  · intro address member
    rw [listed] at member
    obtain ⟨p, inside, rfl⟩ := List.mem_map.1 member
    obtain ⟨⟨fromFirst, toLast⟩, -⟩ := mem_rectangle.1 inside
    dsimp only at fromFirst toLast
    have alpha : ∀ {name : Text}, Ref.IsColumn name → ∀ c ∈ name, c.isAlpha :=
      fun shape c member => Text.isAlpha_iff.2 (.inl (shape.letters c member))
    have low := columnOfLetters_bounds letters.some_letter letters.short (alpha letters)
    have high := columnOfLetters_bounds letters'.some_letter letters'.short (alpha letters')
    exact ⟨_, p.row, isColumn_lettersOfColumn (by omega) (by omega), rfl⟩
  · rw [listed]
    refine List.Nodup.map (fun p q same => ?_) (ordered.imp Place.Ahead.ne)
    rw [← placeOf_addressAt p, same, placeOf_addressAt]
  · have places : placeOf ∘ addressAt = id := funext placeOf_addressAt
    rwa [listed, List.map_map, places, List.map_id]
  · rw [listed, List.length_map, length_rectangle]
  · rw [listed, List.map_eq_nil_iff, rectangle_eq_nil_iff]

end

/-- From the last column of one letter to the first of two, with zeros in front of a row. -/
theorem cells_rectangle_carry :
    cells "Z09" "AA10" = [("Z9" : Text), ("Z10" : Text), ("AA9" : Text), ("AA10" : Text)] ∧
      ("AA9" : Text) ∈ cells "Z09" "AA10" ∧ ("AB9" : Text) ∉ cells "Z09" "AA10" := by
  obtain ⟨-, inside, -⟩ := cells_rectangle
    (show Ref.IsColumn ['Z'] from ⟨by decide, by decide, Text.forall_of_all rfl⟩)
    (show IsReadableRow ['0', '9'] from
      ⟨by decide, Text.forall_of_all (by decide), by decide⟩)
    (show Ref.IsColumn ['A', 'A'] from ⟨by decide, by decide, Text.forall_of_all rfl⟩)
    (show IsReadableRow ['1', '0'] from
      ⟨by decide, Text.forall_of_all (by decide), by decide⟩)
  refine ⟨by decide +kernel, ?_, ?_⟩
  · exact (inside ['A', 'A'] 9 (Text.forall_of_all rfl)).2 (by decide)
  · intro member
    exact absurd ((inside ['A', 'B'] 9 (Text.forall_of_all rfl)).1 member) (by decide)

end Area
end CellGraph
