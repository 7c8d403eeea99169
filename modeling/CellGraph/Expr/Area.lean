import CellGraph.Expr.Tree
import CellGraph.Text.Digit

/-!
# Areas

The rectangle of cells between two corners. Columns are numbered by their letters, `A` being the
first and `ZZZ` the last; cells are listed column by column, each column from top to bottom. An
area whose second corner lies left of or above the first has no cells.
-/

namespace CellGraph

/-- The place of a cell on its sheet. Columns and rows count from 1. -/
structure Place where
  column : Nat
  row : Nat
  deriving DecidableEq, Repr

namespace Area

/-- The number of a column letter, `A` being 1 in either case. -/
def letterValue (c : Char) : Nat := c.toUpper.toNat - 64

def columnOfLetters (letters : Text) : Nat := letters.foldl (fun n c => 26 * n + letterValue c) 0

def lettersOfColumn (n : Nat) : Text :=
  if n = 0 then [] else lettersOfColumn ((n - 1) / 26) ++ [Char.ofNat (65 + (n - 1) % 26)]

/-- A row with more digits than this is not read as a number. -/
def rowDigitLimit : Nat := 4300

/-- An address: one to three letters in either case and digits of any script, with optional dollar
signs. `atEnd` decides which rests may follow. -/
def placeThen? (atEnd : Text → Bool) (address : Text) : Option Place :=
  let t := (Ref.scanMarker address).2
  let column := t.takeWhile Char.isAlpha
  let t := (Ref.scanMarker (t.dropWhile Char.isAlpha)).2
  let row := t.takeWhile Text.isDecimal
  if column ≠ [] ∧ column.length ≤ 3 ∧ row ≠ [] ∧ row.length ≤ rowDigitLimit ∧
      atEnd (t.dropWhile Text.isDecimal) then
    some ⟨columnOfLetters column, Text.natOfDigits row⟩
  else none

/-- The addresses of the rectangle between two corners. -/
def between (first last : Place) : List Text :=
  (List.range' first.column (last.column + 1 - first.column)).flatMap fun column =>
    (List.range' first.row (last.row + 1 - first.row)).map fun row =>
      lettersOfColumn column ++ Text.ofNat row

/-- The addresses between two written corners; none if one of them is no address. A line feed
after the second corner is ignored. -/
def cells (first last : Text) : List Text :=
  match placeThen? (· = []) first, placeThen? (fun t => t = [] || t = ['\n']) last with
  | some a, some b => between a b
  | _, _ => []

/-- The sheet of a range: that of its first end, else that of its last. -/
def sheetOf (first last : Ref) : Option Text := first.sheet.or last.sheet

def refs (first last : Ref) : List Ref :=
  (cells first.address last.address).map fun address => Ref.make address (sheetOf first last)

example : cells "Z1" "AA2" = [("Z1" : Text), ("Z2" : Text), ("AA1" : Text), ("AA2" : Text)] := by
  decide +kernel
example : cells "B1" "A2" = [] := by decide +kernel

end Area
end CellGraph
