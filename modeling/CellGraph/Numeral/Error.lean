import CellGraph.Text.Quoted

/-!
# Failures of numbers

The two ways in which a number in a workbook cannot be worked with, and how they are reported.
-/

namespace CellGraph

/-- Why a number has no binary form. -/
inductive NumberError where
  /-- An integer beyond the largest number. -/
  | tooLarge
  /-- A text that is no number. -/
  | unreadable (text : Text)
  deriving DecidableEq, Repr

def NumberError.message : NumberError → Text
  | .tooLarge => "int too large to convert to float"
  | .unreadable t => "could not convert string to float: " ++ Text.quoted t

end CellGraph
