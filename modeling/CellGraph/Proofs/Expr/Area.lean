import CellGraph.Expr.Area
import CellGraph.Proofs.Lexing.Reference

/-!
# Cells of areas

Every address that an area lists has the shape of one (`isAddress_of_mem_cells`): its column has
one to three letters, since the columns of two corners lie among those of three letters. So the
references that a range covers are written as references are.
-/

namespace CellGraph

namespace Text

theorem isDigit_of_mem_ofNat {n : Nat} {c : Char} (member : c ∈ ofNat n) : c.isDigit :=
  Nat.isDigit_of_mem_toDigits (by decide) (by decide) member

theorem ofNat_ne_nil (n : Nat) : ofNat n ≠ [] := Nat.toDigits_ne_nil

end Text

namespace Area

/-! ## Columns -/

theorem isUpper_ofNat {k : Nat} (small : k < 26) : (Char.ofNat (65 + k)).isUpper := by
  revert k
  decide

theorem isUpper_of_mem_lettersOfColumn {n : Nat} {c : Char} (member : c ∈ lettersOfColumn n) :
    c.isUpper := by
  fun_induction lettersOfColumn n with
  | case1 => simp at member
  | case2 n positive ih =>
    rcases List.mem_append.1 member with before | last
    · exact ih before
    · rw [List.mem_singleton.1 last]
      exact isUpper_ofNat (Nat.mod_lt _ (by decide))

theorem lettersOfColumn_ne_nil {n : Nat} (positive : n ≠ 0) : lettersOfColumn n ≠ [] := by
  rw [lettersOfColumn, if_neg positive]
  simp

/-- The number of the last column with three letters. -/
def lastColumn : Nat := 18278

theorem length_lettersOfColumn_succ {n k : Nat}
    (short : (lettersOfColumn ((n - 1) / 26)).length ≤ k) : (lettersOfColumn n).length ≤ k + 1 := by
  rw [lettersOfColumn]
  split
  · simp
  · simpa using short

theorem length_lettersOfColumn {n : Nat} (small : n ≤ lastColumn) :
    (lettersOfColumn n).length ≤ 3 := by
  have first : (((n - 1) / 26 - 1) / 26 - 1) / 26 = 0 := by
    unfold lastColumn at small
    omega
  refine length_lettersOfColumn_succ (length_lettersOfColumn_succ
    (length_lettersOfColumn_succ ?_))
  rw [first, lettersOfColumn]
  simp

/-- The letters of a column have the shape that the column of an address has. -/
theorem isColumn_lettersOfColumn {n : Nat} (positive : n ≠ 0) (small : n ≤ lastColumn) :
    Ref.IsColumn (lettersOfColumn n) :=
  ⟨lettersOfColumn_ne_nil positive, length_lettersOfColumn small,
    fun _ => isUpper_of_mem_lettersOfColumn⟩

theorem toNat_lt_of_isAlpha {c : Char} (letter : c.isAlpha) : c.toNat < 123 := by
  rw [Text.isAlpha_iff, Text.isUpper_iff, Text.isLower_iff] at letter
  omega

/-- Letters count from 1 to 26, checked one by one. -/
theorem letterValue_bounds {c : Char} (letter : c.isAlpha) :
    1 ≤ letterValue c ∧ letterValue c ≤ 26 := by
  have checked : ∀ c : Char, c.toNat < 123 → c.isAlpha →
      1 ≤ letterValue c ∧ letterValue c ≤ 26 := Text.forall_of_lt (by decide)
  exact checked c (toNat_lt_of_isAlpha letter) letter

theorem columnOfLetters_bounds {letters : Text} (some_letter : letters ≠ [])
    (short : letters.length ≤ 3) (all : ∀ c ∈ letters, c.isAlpha) :
    columnOfLetters letters ≠ 0 ∧ columnOfLetters letters ≤ lastColumn := by
  have bounds := fun c member => letterValue_bounds (all c member)
  unfold lastColumn
  match letters with
  | [] => exact absurd rfl some_letter
  | [a] =>
    have first := bounds a (by simp)
    simp only [columnOfLetters, List.foldl_cons, List.foldl_nil]
    omega
  | [a, b] =>
    have first := bounds a (by simp)
    have second := bounds b (by simp)
    simp only [columnOfLetters, List.foldl_cons, List.foldl_nil]
    omega
  | [a, b, c] =>
    have first := bounds a (by simp)
    have second := bounds b (by simp)
    have third := bounds c (by simp)
    simp only [columnOfLetters, List.foldl_cons, List.foldl_nil]
    omega
  | _ :: _ :: _ :: _ :: _ =>
    simp only [List.length_cons] at short
    omega

theorem placeThen?_bounds {atEnd : Text → Bool} {address : Text} {p : Place}
    (h : placeThen? atEnd address = some p) : p.column ≠ 0 ∧ p.column ≤ lastColumn := by
  unfold placeThen? at h
  dsimp only at h
  split at h
  · next valid =>
    cases h
    exact columnOfLetters_bounds valid.1 valid.2.1 (Text.takeWhile_inside _)
  · simp at h

/-! ## Cells -/

theorem isAddress_of_mem_between {first last : Place} (positive : first.column ≠ 0)
    (small : last.column ≤ lastColumn) {address : Text} (member : address ∈ between first last) :
    Ref.IsAddress address address := by
  simp only [between, List.mem_flatMap, List.mem_map, List.mem_range'_1] at member
  obtain ⟨column, inColumns, row, -, rfl⟩ := member
  have letters : Ref.IsColumn (lettersOfColumn column) :=
    isColumn_lettersOfColumn (by omega) (by omega)
  have digits : Ref.IsRow (Text.ofNat row) :=
    ⟨Text.ofNat_ne_nil row, fun _ => Text.isDigit_of_mem_ofNat⟩
  simpa using Ref.IsAddress.intro (.inl rfl) letters (.inl rfl) digits

/-- What an area lists are addresses. -/
theorem isAddress_of_mem_cells {first last address : Text} (member : address ∈ cells first last) :
    Ref.IsAddress address address := by
  unfold cells at member
  split at member
  · next firstFound lastFound =>
    exact isAddress_of_mem_between (placeThen?_bounds firstFound).1
      (placeThen?_bounds lastFound).2 member
  · simp at member

end Area

namespace Ref

/-- A reference that names a sheet names one that is not empty. -/
theorem Formed.sheet_ne_nil {r : Ref} (formed : r.Formed) : r.sheet ≠ some [] := by
  cases formed with
  | here => simp
  | there sheet _ => simp [sheet.ne_nil]

/-- The reference to an address names it, and the sheet. -/
theorem make_eq (address : Text) (sheet : Option Text) :
    make address sheet = ⟨sheet, address, (make address sheet).text⟩ := by
  unfold make
  split <;> rfl

theorem make_sheet (address : Text) (sheet : Option Text) : (make address sheet).sheet = sheet := by
  rw [make_eq]

theorem make_address (address : Text) (sheet : Option Text) :
    (make address sheet).address = address := by
  rw [make_eq]

/-- The reference to an address is written as references are. -/
theorem formed_make {address : Text} (shape : IsAddress address address) {sheet : Option Text}
    (named : sheet ≠ some []) : (make address sheet).Formed := by
  match sheet with
  | none => exact .here shape
  | some [] => exact absurd rfl named
  | some (c :: name) => exact .there (SheetName.isWritten_written (by simp)) shape

end Ref

namespace Area

theorem sheetOf_ne_nil {a b : Ref} (first : a.Formed) (last : b.Formed) :
    sheetOf a b ≠ some [] := by
  intro same
  rcases Option.or_eq_some_iff.1 same with named | ⟨-, named⟩
  · exact first.sheet_ne_nil named
  · exact last.sheet_ne_nil named

/-- The references that a range covers are written as references are. -/
theorem formed_of_mem_refs {a b r : Ref} (first : a.Formed) (last : b.Formed)
    (member : r ∈ refs a b) : r.Formed := by
  obtain ⟨address, listed, rfl⟩ := List.mem_map.1 member
  exact Ref.formed_make (isAddress_of_mem_cells listed) (sheetOf_ne_nil first last)

end Area
end CellGraph
