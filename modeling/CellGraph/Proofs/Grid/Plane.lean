import CellGraph.Proofs.Grid.Labels
import Mathlib.Data.List.Nodup
import Mathlib.Data.List.Perm.Subperm

/-!
# Cells in the plane

Each sheet of a workbook starts behind the widest column so far, so no two of them meet
(`standsAt_right`). Joining labels drops cells, and a cell whose key came before takes the place of
the earlier one in the list; neither makes a new cell out of nothing (`subperm_addRows`). So no two
cells of a grid stand in one place (`nodup_places_build`).
-/

namespace CellGraph

namespace Grid

/-! ## Columns of sheets -/

/-- The widest column is the least bound of the columns so far and of those of the sheet. -/
theorem widest_le_iff {offset reached n : Int} {rows : List (List BookCell)} :
    widest offset rows reached ≤ n ↔ reached ≤ n ∧ ∀ d ∈ rows.flatten, d.column + offset ≤ n := by
  unfold widest
  induction rows.flatten generalizing reached with
  | nil => simp
  | cons d ds ih => rw [List.foldl_cons, ih, Int.max_le, List.forall_mem_cons, and_assoc]

theorem le_widest (offset : Int) (rows : List (List BookCell)) (reached : Int) :
    reached ≤ widest offset rows reached :=
  (widest_le_iff.1 (Int.le_refl _)).1

/-- A sheet whose cells all end in front of the column from which another one is moved. -/
def InFront (p q : Sheet × Int) : Prop := ∀ d ∈ p.1.rows.flatten, d.column + p.2 < q.2

theorem lt_offset_of_offsetsAfter {reached : Int} {ss : List Sheet} {q : Sheet × Int}
    (member : q ∈ offsetsAfter reached ss) : reached < q.2 := by
  induction ss generalizing reached with
  | nil => cases member
  | cons s ss ih =>
    rcases List.mem_cons.1 member with rfl | later
    · exact Int.lt_succ reached
    · exact Int.lt_of_le_of_lt (le_widest _ s.rows reached) (ih later)

/-- A sheet stands in front of all that come after its widest column. -/
theorem inFront_of_offsetsAfter {s : Sheet} {offset reached : Int} {ss : List Sheet}
    {q : Sheet × Int} (member : q ∈ offsetsAfter (widest offset s.rows reached) ss) :
    InFront (s, offset) q := by
  intro d inSheet
  refine Int.lt_of_le_of_lt ?_ (lt_offset_of_offsetsAfter member)
  exact (widest_le_iff.1 (Int.le_refl _)).2 d inSheet

theorem pairwise_offsetsAfter (reached : Int) (ss : List Sheet) :
    (offsetsAfter reached ss).Pairwise InFront := by
  induction ss generalizing reached with
  | nil => exact .nil
  | cons s ss ih => exact .cons (fun q member => inFront_of_offsetsAfter member) (ih _)

/-- Every sheet stands in front of all later ones. -/
theorem pairwise_offsets (ss : List Sheet) : (offsets ss).Pairwise InFront := by
  cases ss with
  | nil => exact .nil
  | cons s ss =>
    exact .cons (fun q member => inFront_of_offsetsAfter member) (pairwise_offsetsAfter _ ss)

theorem offset_nonneg {ss : List Sheet} {q : Sheet × Int} (member : q ∈ offsets ss) : 0 ≤ q.2 := by
  cases ss with
  | nil => cases member
  | cons s ss =>
    rcases List.mem_cons.1 member with rfl | later
    · exact Int.le_refl _
    · exact Int.le_trans (le_widest 0 s.rows 0) (Int.le_of_lt (lt_offset_of_offsetsAfter later))

/-! ## Places of cells -/

/-- A cell of the sheet with a number, counted from zero, and its column in the plane. -/
def StandsAt (b : Book) (i : Nat) (d : BookCell) (column : Int) : Prop :=
  ∃ s offset, (offsets b.sheets)[i]? = some (s, offset) ∧ d ∈ s.rows.flatten ∧
    column = d.column + offset

/-- Between the cells of two sheets at least one column stays empty. -/
theorem standsAt_right {b : Book} {i j : Nat} {c d : BookCell} {p q : Int} (earlier : i < j)
    (first : StandsAt b i c p) (second : StandsAt b j d q) (counted : 1 ≤ d.column) :
    p + 2 ≤ q := by
  obtain ⟨s, o, found, inSheet, rfl⟩ := first
  obtain ⟨t, o', found', -, rfl⟩ := second
  obtain ⟨hi, foundAt⟩ := List.getElem?_eq_some_iff.1 found
  obtain ⟨hj, foundAt'⟩ := List.getElem?_eq_some_iff.1 found'
  have front := List.pairwise_iff_getElem.1 (pairwise_offsets b.sheets) i j hi hj earlier
  rw [foundAt, foundAt'] at front
  have ends := front c inSheet
  dsimp only at ends
  omega

theorem mem_sheets_of_mem_offsets {b : Book} {s : Sheet} {offset : Int}
    (member : (s, offset) ∈ offsets b.sheets) : s ∈ b.sheets := by
  rw [← fst_offsets b.sheets]
  exact List.mem_map_of_mem member

/-- The places of the cells of a workbook, if it counts rows and columns from one. -/
theorem nodup_placedRows {b : Book}
    (apart : ∀ s ∈ b.sheets, (s.rows.flatten.map fun d => (d.row, d.column)).Nodup)
    (counted : ∀ d ∈ b.cells, 1 ≤ d.column) :
    ((placedRows b).flatten.map fun p => (p.1.row, p.2)).Nodup := by
  have bySheet : (placedRows b).flatten.map (fun p => (p.1.row, p.2)) =
      (offsets b.sheets).flatMap fun q =>
        q.1.rows.flatten.map fun d => (d.row, d.column + q.2) := by
    rw [placedRows]
    induction offsets b.sheets with
    | nil => rfl
    | cons q qs ih => simp [List.flatMap_cons, ih, List.map_flatten, Function.comp_def]
  rw [bySheet, List.nodup_flatMap]
  constructor
  · rintro ⟨s, offset⟩ member
    -- moving a sheet as a whole keeps its cells apart
    have moved := (apart s (mem_sheets_of_mem_offsets member)).map
      (f := fun place : Int × Int => (place.1, place.2 + offset)) ?_
    · simpa [Function.comp_def] using moved
    · rintro ⟨r, c⟩ ⟨r', c'⟩ same
      simpa using same
  · refine (pairwise_offsets b.sheets).imp_of_mem ?_
    rintro ⟨s, o⟩ ⟨t, o'⟩ - member front place inFirst inSecond
    obtain ⟨c, inSheet, rfl⟩ := List.mem_map.1 inFirst
    obtain ⟨d, inSheet', same⟩ := List.mem_map.1 inSecond
    have ends := front c inSheet
    have starts : 1 ≤ d.column := by
      refine counted d (List.mem_flatMap.2 ⟨t, ?_, inSheet'⟩)
      exact mem_sheets_of_mem_offsets member
    simp only [Prod.mk.injEq] at same ends
    omega

/-! ## No cell out of nothing -/

/-- A cell apart from its description, which is all that a label changes. -/
def bare (c : Cell) : Cell := { c with description := [] }

theorem subperm_putCell (c : Cell) (cells : List Cell) :
    (putCell c cells).Subperm (c :: cells) := by
  induction cells with
  | nil => exact .refl _
  | cons d ds ih =>
    rw [putCell]
    split
    · exact ((List.sublist_cons_self d ds).cons_cons c).subperm
    · exact ((List.subperm_cons d).2 ih).trans (List.Perm.swap c d ds).subperm

theorem subperm_map {α β : Type} (f : α → β) {xs ys : List α} (sub : xs.Subperm ys) :
    (xs.map f).Subperm (ys.map f) := by
  obtain ⟨zs, perm, sublist⟩ := sub
  exact ⟨zs.map f, perm.map f, sublist.map f⟩

theorem nodup_of_subperm {α : Type} {xs ys : List α} (sub : xs.Subperm ys) (nodup : ys.Nodup) :
    xs.Nodup := by
  obtain ⟨zs, perm, sublist⟩ := sub
  exact perm.nodup_iff.1 (nodup.sublist sublist)

/-- Putting a cell into a grid brings in no other one. -/
theorem subperm_put {g : Grid} {c d : Cell} {cs : List Cell} (same : bare d = bare c)
    (sub : (g.cells.map bare).Subperm cs) : ((g.put d).cells.map bare).Subperm (bare c :: cs) := by
  rw [← same]
  exact (subperm_map bare (subperm_putCell d g.cells)).trans ((List.subperm_cons _).2 sub)

theorem subperm_erase (g : Grid) (key : Text) :
    ((g.erase key).cells.map bare).Subperm (g.cells.map bare) :=
  (List.filter_sublist.map bare).subperm

/-- A row adds no cell but its own, whatever cell stood before it. -/
theorem subperm_addAfter (g : Grid) (previous : Option Cell) (row : List Cell) :
    ((addAfter g previous row).cells.map bare).Subperm (g.cells.map bare ++ row.map bare) := by
  induction row generalizing g previous with
  | nil => simpa [addAfter] using List.Subperm.refl _
  | cons c row ih =>
    have moved : (bare c :: g.cells.map bare ++ row.map bare).Perm
        (g.cells.map bare ++ (c :: row).map bare) := List.perm_middle.symm
    unfold addAfter
    split
    · next label _ =>
      have added := subperm_put (c := c) (d := { c with description := label.description }) rfl
        (subperm_erase g label.key)
      exact (ih _ _).trans (((List.subperm_append_right _).2 added).trans moved.subperm)
    · have added := subperm_put (c := c) (d := c) rfl (List.Subperm.refl (g.cells.map bare))
      exact (ih _ _).trans (((List.subperm_append_right _).2 added).trans moved.subperm)

theorem subperm_addRows (g : Grid) (rows : List (List Cell)) :
    ((rows.foldl addRow g).cells.map bare).Subperm
      (g.cells.map bare ++ rows.flatten.map bare) := by
  induction rows generalizing g with
  | nil => simpa using List.Subperm.refl _
  | cons row rows ih =>
    have added := subperm_addAfter g none row
    have first := (List.subperm_append_right (rows.flatten.map bare)).2 added
    rw [List.foldl_cons, List.flatten_cons, List.map_append, ← List.append_assoc]
    exact (ih _).trans first

/-! ## The grid of a workbook -/

theorem Reads.places {b : Book} {rows : List (List Cell)} (reads : Reads b rows) :
    rows.flatten.map (fun c => (c.row, c.column)) =
      (placedRows b).flatten.map fun p => (p.1.row, p.2) := by
  have each := List.rel_flatten reads
  generalize (placedRows b).flatten = ds, rows.flatten = cs at each
  induction each with
  | nil => rfl
  | cons first _ ih =>
    obtain ⟨-, row, column⟩ := place_of_ofBook first
    simp [ih, row, column]

/-- No two cells of a grid stand in one place, if none of the workbook do. -/
theorem nodup_places_build {b : Book} {built : Built} (ok : build b = .ok built)
    (apart : ∀ s ∈ b.sheets, (s.rows.flatten.map fun d => (d.row, d.column)).Nodup)
    (counted : ∀ d ∈ b.cells, 1 ≤ d.column) :
    (built.grid.cells.map fun c => (c.row, c.column)).Nodup := by
  obtain ⟨rows, read, ok⟩ := Except.bind_eq_ok.1 ok
  cases ok
  have known := subperm_map (fun c => (c.row, c.column)) (subperm_addRows (empty b.sheetNames) rows)
  have whole := (reads_of_readRows read).places ▸ nodup_placedRows apart counted
  refine nodup_of_subperm ?_ whole
  simpa [empty, bare, Function.comp_def] using known

/-- Every cell of a grid stands where its cell of the workbook stands. -/
theorem exists_standsAt {b : Book} {built : Built} (ok : build b = .ok built) {c : Cell}
    (member : c ∈ built.grid.cells) :
    ∃ i d, StandsAt b i d c.column ∧ d ∈ b.cells ∧ c.row = d.row ∧
      c.key = SheetKeys.keyAt ⟨b.sheetNames⟩ d.coordinate d.sheet := by
  obtain ⟨d, s, offset, placed, ⟨row, inSheet, inRow⟩, label, read⟩ := stems_of_build ok member
  obtain ⟨key, row', column⟩ := place_of_ofBook read
  obtain ⟨i, found⟩ := List.mem_iff_getElem?.1 placed
  have inside : d ∈ s.rows.flatten := List.mem_flatten.2 ⟨row, inSheet, inRow⟩
  refine ⟨i, d, ⟨s, offset, found, inside, column⟩, ?_, row', key⟩
  exact List.mem_flatMap.2 ⟨s, mem_sheets_of_mem_offsets placed, inside⟩

end Grid
end CellGraph
