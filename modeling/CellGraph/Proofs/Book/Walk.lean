import CellGraph.Proofs.Book.Reading

/-!
# Going through every cell

A loader gives every cell of a sheet, from the first row to the last and in each row from the first
column to the last, most of them blank. What is read of them is what is read if just the cells are
given in which something stands (`book_eq_walked`), and so what is shown of a workbook does not
depend on how far its sheets are taken to reach.
-/

namespace CellGraph

theorem Except.mapM_congr {α β ε : Type} {f g : α → Except ε β} {xs : List α}
    (each : ∀ x ∈ xs, f x = g x) : xs.mapM f = xs.mapM g := by
  induction xs with
  | nil => rfl
  | cons x xs ih =>
    obtain ⟨first, others⟩ := List.forall_mem_cons.1 each
    rw [List.mapM_cons, List.mapM_cons, first, ih others]

namespace Worksheet
variable {ε : Type} {lastRow lastColumn : Nat} {at_ : Place → Content}

/-- The cells of a row from the first column to the last. -/
def rowCells (lastColumn : Nat) (at_ : Place → Content) (row : Nat) : List (Place × Content) :=
  (List.range' 1 lastColumn).map fun column => (⟨column, row⟩, at_ ⟨column, row⟩)

/-- A sheet that gives every cell up to a last row and a last column. -/
def ofRectangle (title : Text) (lastRow lastColumn : Nat) (at_ : Place → Content) :
    Worksheet ε where
  title := title
  rows := .ok ((List.range' 1 lastRow).map (rowCells lastColumn at_))
  at_ := at_

theorem mem_rowCells {row : Nat} {x : Place × Content} : x ∈ rowCells lastColumn at_ row ↔
    x.1.row = row ∧ (1 ≤ x.1.column ∧ x.1.column ≤ lastColumn) ∧ x.2 = at_ x.1 := by
  obtain ⟨⟨column, row'⟩, c⟩ := x
  simp only [rowCells, List.mem_map, List.mem_range'_1, Prod.mk.injEq, Place.mk.injEq]
  constructor
  · rintro ⟨column, inside, ⟨rfl, rfl⟩, rfl⟩
    exact ⟨rfl, by omega, rfl⟩
  · rintro ⟨rfl, inside, rfl⟩
    exact ⟨column, by omega, ⟨rfl, rfl⟩, rfl⟩

/-- The cells of a rectangle come in reading order. -/
theorem pairwise_rectangle (lastRow lastColumn : Nat) (at_ : Place → Content) :
    ((List.range' 1 lastRow).flatMap (rowCells lastColumn at_)).Pairwise
      fun x y => x.1.Before y.1 := by
  rw [List.pairwise_flatMap]
  constructor
  · intro row _
    rw [rowCells, List.pairwise_map]
    exact (List.pairwise_lt_range' 1).imp fun less => .inr ⟨rfl, less⟩
  · refine (List.pairwise_lt_range' 1).imp fun less x inUpper y inLower => .inl ?_
    rw [(mem_rowCells.1 inUpper).1, (mem_rowCells.1 inLower).1]
    exact less

section Met

variable {places : Places Content} (solid : ∀ p, places.find? p ≠ some .blank)
  (found : ∀ p, at_ p = (places.find? p).getD .blank)
  (inside : ∀ x ∈ places.items, (1 ≤ x.1.row ∧ x.1.row ≤ lastRow) ∧
    1 ≤ x.1.column ∧ x.1.column ≤ lastColumn)
include solid found inside

/-- In a rectangle that holds them all, one meets the things that stand at places. -/
theorem filter_rectangle :
    ((List.range' 1 lastRow).flatMap (rowCells lastColumn at_)).filter isSolid = places.items := by
  refine congrArg Places.items (Places.ext_items
    (s := ⟨_, (pairwise_rectangle lastRow lastColumn at_).filter _⟩) (t := places) ?_)
  rintro ⟨p, c⟩
  show _ ∈ List.filter _ _ ↔ _
  simp only [Places.mem_items, List.mem_filter, List.mem_flatMap, mem_rowCells, isSolid,
    decide_eq_true_eq, List.mem_range'_1]
  constructor
  · rintro ⟨⟨_, _, rfl, _, rfl⟩, some_content⟩
    rw [found] at some_content ⊢
    cases stands : places.find? p with
    | none => simp [stands] at some_content
    | some c => rfl
  · intro stands
    obtain ⟨rows, columns⟩ := inside _ (Places.mem_items.2 stands)
    refine ⟨⟨p.row, ⟨rows.1, Nat.lt_one_add_iff.2 rows.2⟩, rfl, columns, ?_⟩, ?_⟩
    · rw [found, stands, Option.getD_some]
    · rintro rfl
      exact solid p stands

/-- One meets them row by row. -/
theorem met_rectangle :
    met ((List.range' 1 lastRow).map (rowCells lastColumn at_)) = places.rows := by
  have flat : (met ((List.range' 1 lastRow).map (rowCells lastColumn at_))).flatten =
      ((List.range' 1 lastRow).flatMap (rowCells lastColumn at_)).filter isSolid := by
    rw [met, List.flatten_filter_not_isEmpty, ← List.filter_flatten, List.flatMap_def]
  have rowOf (row : List (Place × Content))
      (member : row ∈ met ((List.range' 1 lastRow).map (rowCells lastColumn at_))) :
      ∃ n ∈ List.range' 1 lastRow, row = (rowCells lastColumn at_ n).filter isSolid := by
    have member := (List.mem_filter.1 member).1
    simpa [eq_comm] using member
  refine (Places.rows_eq (flat.trans (filter_rectangle solid found inside)) ?_ ?_ ?_).symm
  · intro empty
    simpa using (List.mem_filter.1 empty).2
  · intro row member x left y right
    obtain ⟨n, -, rfl⟩ := rowOf row member
    rw [(mem_rowCells.1 (List.mem_of_mem_filter left)).1,
      (mem_rowCells.1 (List.mem_of_mem_filter right)).1]
  · refine List.Pairwise.sublist List.filter_sublist ?_
    rw [List.map_map, List.pairwise_map]
    refine (List.pairwise_lt_range' 1).imp fun less x inUpper y inLower => ?_
    rw [(mem_rowCells.1 (List.mem_of_mem_filter inUpper)).1,
      (mem_rowCells.1 (List.mem_of_mem_filter inLower)).1]
    exact Nat.ne_of_lt less

end Met

/-- What is read of every cell is what is read of those in which something stands. -/
theorem read_ofRectangle (title : Text) {places : Places Content}
    (solid : ∀ p, places.find? p ≠ some .blank)
    (inside : ∀ x ∈ places.items, (1 ≤ x.1.row ∧ x.1.row ≤ lastRow) ∧
      1 ≤ x.1.column ∧ x.1.column ≤ lastColumn) (result : Place → Value) :
    (ofRectangle title lastRow lastColumn fun p => (places.find? p).getD .blank :
      Worksheet ε).read result = (ofPlaces title places : Worksheet ε).read result := by
  rw [read_ofPlaces title solid]
  exact read_eq rfl (met_rectangle solid (fun _ => rfl) inside) result

end Worksheet

/-! ## Filled workbooks -/

namespace SheetDraft

/-- Every assignment is made to a place that sheets have. -/
def IsPlaced (s : SheetDraft) : Prop :=
  ∀ x ∈ s.assignments, 1 ≤ x.1.row ∧ 1 ≤ x.1.column

/-- The last row to which something was assigned. -/
def lastRow (s : SheetDraft) : Nat := (s.assignments.map (·.1.row)).max?.getD 0

def lastColumn (s : SheetDraft) : Nat := (s.assignments.map (·.1.column)).max?.getD 0

/-- The sheet with every cell up to the last row and the last column. -/
def walked (s : SheetDraft) : Worksheet DraftError :=
  .ofRectangle s.name s.lastRow s.lastColumn fun p => ((s.contents p).map (·.content)).getD .blank

theorem at_loaded (s : SheetDraft) : s.loaded.at_ = s.walked.at_ := by
  funext p
  show (s.cells.find? p).getD .blank = _
  rw [find?_cells]
  rfl

theorem read_walked {s : SheetDraft} (placed : s.IsPlaced) (result : Place → Value) :
    s.walked.read result = s.loaded.read result := by
  have inside (x : Place × Content) (stands : x ∈ s.cells.items) :
      (1 ≤ x.1.row ∧ x.1.row ≤ s.lastRow) ∧ 1 ≤ x.1.column ∧ x.1.column ≤ s.lastColumn := by
    obtain ⟨p, c⟩ := x
    rw [Places.mem_items, find?_cells] at stands
    obtain ⟨a, inForce, -⟩ := Option.map_eq_some_iff.1 stands
    obtain ⟨x, last, -⟩ := Option.bind_eq_some_iff.1 inForce
    obtain ⟨assigned, here⟩ := List.mem_filter.1 (List.mem_of_getLast? last)
    obtain rfl : x.1 = p := of_decide_eq_true here
    have place := placed x assigned
    exact ⟨⟨place.1, List.le_max?_getD_of_mem (List.mem_map_of_mem assigned)⟩, place.2,
      List.le_max?_getD_of_mem (List.mem_map_of_mem assigned)⟩
  have same : s.walked =
      .ofRectangle s.name s.lastRow s.lastColumn fun p => (s.cells.find? p).getD .blank := by
    simp only [walked, find?_cells]
  rw [same]
  exact Worksheet.read_ofRectangle s.name s.find?_cells_ne_blank inside result

end SheetDraft

namespace BookDraft

/-- The workbook with every cell of its sheets. -/
def walked (d : BookDraft) : Workbook DraftError := ⟨d.sheets.map (·.walked)⟩

theorem resultsOn_walked (results : Option BookDraft) (title : Text) :
    Workbook.resultsOn .noResults (results.map loaded) title =
      Workbook.resultsOn .noResults (results.map walked) title := by
  cases results with
  | none => rfl
  | some r =>
    have onLoaded : (r.sheets.map (·.loaded)).find? (·.title = title) =
        (r.sheets.find? (·.name = title)).map (·.loaded) := List.find?_map ..
    have onWalked : (r.sheets.map (·.walked)).find? (·.title = title) =
        (r.sheets.find? (·.name = title)).map (·.walked) := List.find?_map ..
    simp only [Workbook.resultsOn, Option.map_some, loaded, walked, onLoaded, onWalked]
    cases r.sheets.find? (·.name = title) with
    | none => rfl
    | some s => simp only [Option.map_some, s.at_loaded]

/-- A filled workbook is read as one reads it going through every cell of its sheets. -/
theorem book_eq_walked {d : BookDraft} {results : Option BookDraft} (valid : d.IsValid)
    (resultsValid : ∀ r ∈ results, r.IsValid) (placed : ∀ s ∈ d.sheets, s.IsPlaced) :
    d.book results = Book.ofWorkbook .noResults d.walked (results.map walked) := by
  have each (s : SheetDraft) (member : s ∈ d.sheets) :
      Workbook.readSheet .noResults (results.map loaded) s.loaded =
        Workbook.readSheet .noResults (results.map walked) s.walked := by
    rw [Workbook.readSheet, Workbook.readSheet, show s.loaded.title = s.walked.title from rfl,
      resultsOn_walked]
    congr 1
    funext result
    exact (SheetDraft.read_walked (placed s member) result).symm
  unfold book
  rw [workbook_of_isValid valid, mapM_workbook_of_isValid resultsValid]
  show Book.ofWorkbook .noResults d.loaded (results.map loaded) = _
  simp only [Book.ofWorkbook, loaded, walked, List.mapM_map, Function.comp_def,
    Except.mapM_congr each]

end BookDraft
end CellGraph
