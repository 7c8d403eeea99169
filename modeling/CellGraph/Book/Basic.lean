import CellGraph.Book.Value

/-!
# Workbooks

A workbook as it is read: sheets of rows of occupied cells.
-/

namespace CellGraph

/-- An occupied cell. `value` is the literal value, or the last result of the formula; `formula`
has no equals sign in front. A cell whose text cannot be shown is not `readable`. -/
structure BookCell where
  sheet : Text
  coordinate : Text
  row : Int
  column : Int
  value : Value
  formula : Option Text
  readable : Bool := true
  deriving DecidableEq, Repr, Inhabited

/-- A sheet: its occupied cells row by row. -/
structure Sheet where
  name : Text
  rows : List (List BookCell)
  deriving DecidableEq, Repr, Inhabited

structure Book where
  sheets : List Sheet
  deriving DecidableEq, Repr, Inhabited

/-- The address of a cell with the name of its sheet. -/
def BookCell.fullAddress (c : BookCell) : Text := c.sheet ++ '!' :: c.coordinate

/-- The names of the sheets in order. -/
def Book.sheetNames (b : Book) : List Text := b.sheets.map (·.name)

end CellGraph
