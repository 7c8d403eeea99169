import CellGraph.Grid.Layout
import CellGraph.Proofs.Expr.Tree

/-!
# Cells of a grid

Laying out a workbook only moves cells, drops labels and changes descriptions: every cell of the
grid stems from one cell of the workbook (`stems_of_build`), and no two cells have one key
(`nodup_keys_build`).
-/

namespace CellGraph

namespace Grid

/-! ## What is read -/

/-- Where a cell stands that is read in a column of the plane. -/
theorem place_of_ofBook {k : SheetKeys} {column : Int} {d : BookCell} {c : Cell}
    (read : Cell.ofBook k column d = .ok c) :
    c.key = k.keyAt d.coordinate d.sheet ∧ c.row = d.row ∧ c.column = column := by
  obtain ⟨text, -, read⟩ := Except.bind_eq_ok.1 read
  obtain ⟨formula, -, read⟩ := Except.bind_eq_ok.1 read
  cases read
  exact ⟨rfl, rfl, rfl⟩

/-- The rows of a workbook, each cell with its column in the plane. -/
def placedRows (b : Book) : List (List (BookCell × Int)) :=
  (offsets b.sheets).flatMap fun (s, offset) =>
    s.rows.map fun row => row.map fun d => (d, d.column + offset)

/-- Rows of the plane that hold what the cells of a workbook are read as, one by one. -/
def Reads (b : Book) (rows : List (List Cell)) : Prop :=
  List.Forall₂ (List.Forall₂ fun d c => Cell.ofBook ⟨b.sheetNames⟩ d.2 d.1 = .ok c)
    (placedRows b) rows

theorem reads_of_readRows {b : Book} {rows : List (List Cell)}
    (read : readRows ⟨b.sheetNames⟩ b = .ok rows) : Reads b rows := by
  obtain ⟨sheets, found, read⟩ := Except.bind_eq_ok.1 read
  cases read
  rw [Reads, placedRows, List.flatMap_def]
  refine List.rel_flatten (List.forall₂_map_left_iff.2 ((Except.forall₂_of_mapM found).imp ?_))
  intro placed sheet sheetFound
  refine List.forall₂_map_left_iff.2 ((Except.forall₂_of_mapM sheetFound).imp ?_)
  intro bookRow row rowFound
  exact List.forall₂_map_left_iff.2 (Except.forall₂_of_mapM rowFound)

/-! ## Where cells come from -/

/-- A cell of a grid that is a cell of the workbook as it is read in its place, but for the
description, which may come from a label. -/
def Stems (b : Book) (c : Cell) (d : BookCell) : Prop :=
  ∃ s offset, (s, offset) ∈ offsets b.sheets ∧ (∃ row ∈ s.rows, d ∈ row) ∧
    ∃ label, Cell.ofBook ⟨b.sheetNames⟩ (d.column + offset) d = .ok { c with description := label }

theorem Reads.stems {b : Book} {rows : List (List Cell)} (reads : Reads b rows) {row : List Cell}
    (inRows : row ∈ rows) {c : Cell} (inRow : c ∈ row) : ∃ d, Stems b c d := by
  obtain ⟨placedRow, inPlaced, rowFound⟩ := exists_of_forall₂ reads inRows
  obtain ⟨⟨s, offset⟩, placed, inSheet⟩ := List.mem_flatMap.1 inPlaced
  obtain ⟨bookRow, inBook, rfl⟩ := List.mem_map.1 inSheet
  obtain ⟨_, inPlacedRow, cellFound⟩ := exists_of_forall₂ rowFound inRow
  obtain ⟨d, inBookRow, rfl⟩ := List.mem_map.1 inPlacedRow
  exact ⟨d, s, offset, placed, ⟨bookRow, inBook, inBookRow⟩, c.description, cellFound⟩

/-- A label changes nothing that matters for where a cell comes from. -/
theorem Stems.labelled {b : Book} {c : Cell} {d : BookCell} (stems : Stems b c d) (text : Text) :
    Stems b { c with description := text } d := stems

/-! ## Steps of the layout -/

theorem mem_putCell {c d : Cell} {cells : List Cell} (member : d ∈ putCell c cells) :
    d = c ∨ d ∈ cells := by
  induction cells with
  | nil => exact .inl (List.mem_singleton.1 member)
  | cons e cells ih =>
    unfold putCell at member
    split at member
    · rcases List.mem_cons.1 member with same | later
      · exact .inl same
      · exact .inr (List.mem_cons_of_mem _ later)
    · rcases List.mem_cons.1 member with rfl | later
      · exact .inr (by simp)
      · rcases ih later with same | inside
        · exact .inl same
        · exact .inr (List.mem_cons_of_mem _ inside)

/-- What putting and erasing cells keeps: keys that differ, and a property of all cells that labels
do not change. -/
structure Kept (P : Cell → Prop) (g : Grid) : Prop where
  nodup : g.keys.Nodup
  all : ∀ c ∈ g.cells, P c

variable {P : Cell → Prop} {g : Grid}

theorem Kept.put (kept : Kept P g) {c : Cell} (holds : P c) : Kept P (g.put c) where
  nodup := nodup_keys_put kept.nodup c
  all := by
    intro d member
    rcases mem_putCell member with rfl | inside
    · exact holds
    · exact kept.all d inside

theorem Kept.erase (kept : Kept P g) (key : Text) : Kept P (g.erase key) where
  nodup := kept.nodup.sublist (List.filter_sublist.map _)
  all := fun c member => kept.all c (List.mem_filter.1 member).1

/-- A row keeps what a single cell keeps, whatever cell stood before it. -/
theorem Kept.addAfter (labelled : ∀ {c : Cell}, P c → ∀ text, P { c with description := text })
    (kept : Kept P g) (previous : Option Cell) {row : List Cell} (holds : ∀ c ∈ row, P c) :
    Kept P (addAfter g previous row) := by
  induction row generalizing g previous with
  | nil => exact kept
  | cons c row ih =>
    have first := holds c (by simp)
    have rest : ∀ d ∈ row, P d := fun d member => holds d (by simp [member])
    unfold Grid.addAfter
    split
    · exact ih ((kept.erase _).put (labelled first _)) _ rest
    · exact ih (kept.put first) _ rest

/-- Rows one after another keep what single cells keep. -/
theorem Kept.addRows (labelled : ∀ {c : Cell}, P c → ∀ text, P { c with description := text })
    (kept : Kept P g) {rows : List (List Cell)} (holds : ∀ row ∈ rows, ∀ c ∈ row, P c) :
    Kept P (rows.foldl addRow g) := by
  induction rows generalizing g with
  | nil => exact kept
  | cons row rows ih =>
    exact ih (kept.addAfter labelled none (holds row (by simp)))
      fun r member => holds r (by simp [member])

/-! ## The grid of a workbook -/

theorem kept_build {b : Book} {built : Built} (ok : build b = .ok built) :
    Kept (fun c => ∃ d, Stems b c d) built.grid := by
  obtain ⟨rows, read, ok⟩ := Except.bind_eq_ok.1 ok
  cases ok
  refine Kept.addRows ?_ ⟨by simp [keys, empty], by simp [empty]⟩
    fun row inRows c inRow => (reads_of_readRows read).stems inRows inRow
  rintro c ⟨d, stems⟩ text
  exact ⟨d, stems.labelled text⟩

/-- Every cell of the grid of a workbook stems from a cell of the workbook. -/
theorem stems_of_build {b : Book} {built : Built} (ok : build b = .ok built) {c : Cell}
    (member : c ∈ built.grid.cells) : ∃ d, Stems b c d :=
  (kept_build ok).all c member

/-- No two cells of the grid of a workbook have one key. -/
theorem nodup_keys_build {b : Book} {built : Built} (ok : build b = .ok built) :
    built.grid.keys.Nodup :=
  (kept_build ok).nodup

end Grid
end CellGraph
