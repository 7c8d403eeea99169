import CellGraph.Grid.Reading

/-!
# Laying out a workbook

The sheets of a workbook are laid out from left to right, one empty column apart, and their cells
are collected row by row. A plain text directly left of a value or a formula is its label: it
becomes the description of that cell and disappears as a cell of its own.
-/

namespace CellGraph

/-- Whether a cell is the label of the cell after it in a row. -/
def Cell.isLabelOf (label c : Cell) : Bool :=
  (c.value ≠ [] || c.formula ≠ []) && label.column = c.column - 1 && label.formula = [] &&
    label.description ≠ [] && label.value = []

namespace Grid

/-- The widest column that a sheet reaches when its columns are moved by `offset`, given the
widest so far. -/
def widest (offset : Int) (rows : List (List BookCell)) (reached : Int) : Int :=
  rows.flatten.foldl (fun reached c => max reached (c.column + offset)) reached

/-- The sheets after the first with the offsets of their columns. -/
def offsetsAfter (reached : Int) : List Sheet → List (Sheet × Int)
  | [] => []
  | s :: ss =>
    let offset := reached + 1
    (s, offset) :: offsetsAfter (widest offset s.rows reached) ss

/-- The sheets with the offsets of their columns; the first is not moved. -/
def offsets : List Sheet → List (Sheet × Int)
  | [] => []
  | s :: ss => (s, 0) :: offsetsAfter (widest 0 s.rows 0) ss

/-- The rows of a workbook in the plane, before labels are joined to cells. -/
def readRows (k : SheetKeys) (b : Book) : Except NumberError (List (List Cell)) := do
  let sheets ← (offsets b.sheets).mapM fun (s, offset) =>
    s.rows.mapM fun row => row.mapM fun c => Cell.ofBook k (c.column + offset) c
  return sheets.flatten

/-- Adds the cells of a row, given the cell before them. -/
def addAfter (g : Grid) (previous : Option Cell) : List Cell → Grid
  | [] => g
  | c :: cs =>
    match previous.filter (·.isLabelOf c) with
    | some label =>
      let labelled := { c with description := label.description }
      addAfter ((g.erase label.key).put labelled) (some labelled) cs
    | none => addAfter (g.put c) (some c) cs

def addRow (g : Grid) (row : List Cell) : Grid := addAfter g none row

/-- A grid and the warnings given while it was built. -/
structure Built where
  grid : Grid
  warnings : List Text
  deriving DecidableEq, Repr

def build (b : Book) : Except NumberError Built := do
  let k : SheetKeys := ⟨b.sheetNames⟩
  let rows ← readRows k b
  return ⟨rows.foldl addRow (empty b.sheetNames),
    k.collisions.map (·.message) ++ rows.flatten.filterMap Cell.warning?⟩

end Grid
end CellGraph
