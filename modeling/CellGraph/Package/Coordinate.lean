import CellGraph.Expr.Area
import CellGraph.Numeral.Integer
import CellGraph.Package.Basic

/-!
# Coordinates in packages

How the parts of a package write places and ranges: column letters and a row number, and two of
these with a colon. A range may leave out its rows or its columns.
-/

namespace CellGraph.Package

/-- Characters outside ASCII with ASCII letters in their capital forms. -/
def capitalForms : List (Char × Text) := [
  ('ß', "SS"), ('ı', "I"), ('ŉ', "ʼN"), ('ſ', "S"), ('ǰ', "J\u030c"), ('ẖ', "H\u0331"),
  ('ẗ', "T\u0308"), ('ẘ', "W\u030a"), ('ẙ', "Y\u030a"), ('ẚ', "Aʾ"), ('ﬀ', "FF"), ('ﬁ', "FI"),
  ('ﬂ', "FL"), ('ﬃ', "FFI"), ('ﬄ', "FFL"), ('ﬅ', "ST"), ('ﬆ', "ST")]

/-- A text with its letters as capitals, as far as these are ASCII. -/
def capitals (t : Text) : Text := t.flatMap fun c => (capitalForms.lookup c).getD [c.toUpper]

/-- The number of a column by one to three characters; of their capital forms the last three
count. -/
def columnNumber? (t : Text) : Option Nat :=
  let letters := (capitals t).reverse.take 3
  if t ≠ [] ∧ t.length ≤ 3 ∧ letters.all Char.isAlpha then
    some (Area.columnOfLetters letters.reverse)
  else none

/-- The column and the row of a coordinate. -/
def coordinate? (t : Text) : Option (Nat × Int) := do
  let letters := t.takeWhile (!·.isDigit)
  let letters := if letters.length = t.length then letters.dropLast else letters
  return (← columnNumber? letters, ← Integer.read? (t.drop letters.length))

/-- What a range says of its first and last columns and rows. -/
structure Bounds where
  firstColumn : Option Nat
  firstRow : Option Nat
  lastColumn : Option Nat
  lastRow : Option Nat
  deriving DecidableEq, Repr

namespace Bounds

/-- A corner: a column and a row, each of which may be missing, and what follows it. -/
def scanCorner (t : Text) : Option Nat × Text × Text :=
  let t := (Ref.scanMarker t).2
  let letters := t.takeWhile Char.isAlpha
  let t := (Ref.scanMarker (t.drop letters.length)).2
  let digits := t.takeWhile Text.isDecimal
  (if letters = [] ∨ 3 < letters.length then none else some (Area.columnOfLetters letters),
    digits, t.drop digits.length)

/-- The number in a run of digits, if there are any. -/
def rowOf (digits : Text) : Option Nat :=
  if digits = [] then none else some (Text.natOfDigits digits)

/-- Whether a text starts with more letters than the number of a column may have. -/
def hasLongLetters (t : Text) : Bool :=
  3 < ((Ref.scanMarker t).2.takeWhile Char.isAlpha).length

/-- Reads a range. Both corners must have the same parts; a single corner is both. -/
def read? (t : Text) : Option Bounds :=
  let (column, digits, rest) := scanCorner t
  let isRead := !hasLongLetters t && digits.length ≤ Integer.digitLimit
  match rest with
  | [] | ['\n'] =>
    if isRead then some ⟨column, rowOf digits, column, rowOf digits⟩ else none
  | ':' :: t =>
    let (lastColumn, lastDigits, rest) := scanCorner t
    let bounds : Bounds := ⟨column, rowOf digits, lastColumn, rowOf lastDigits⟩
    if isRead && !hasLongLetters t && lastDigits.length ≤ Integer.digitLimit &&
        (rest = [] || rest = ['\n']) && column.isSome = lastColumn.isSome &&
        digits.isEmpty = lastDigits.isEmpty && (column.isSome || !digits.isEmpty) then
      some bounds
    else none
  | _ => none

end Bounds

/-- A rectangle of cells on a sheet. -/
structure Rectangle where
  first : Place
  last : Place
  deriving DecidableEq, Repr

namespace Rectangle

/-- A number that must be given and must lie between one and a limit. -/
def bounded (limit : Nat) : Option Nat → Except FileError Nat
  | none => .error (.flaw .mistyped)
  | some n => if 1 ≤ n ∧ n ≤ limit then .ok n else .error .malformed

/-- Reads a rectangle, with the name of a sheet in front or without. -/
def read (t : Text) : Except FileError Rectangle := do
  let t := if t.contains '!' then (t.reverse.takeWhile (· ≠ '!')).reverse else t
  let b ← orMalformed (Bounds.read? t)
  let firstColumn ← bounded columnLimit b.firstColumn
  let firstRow ← bounded rowLimit b.firstRow
  let lastColumn ← bounded columnLimit b.lastColumn
  let lastRow ← bounded rowLimit b.lastRow
  if firstColumn ≤ lastColumn ∧ firstRow ≤ lastRow then
    return ⟨⟨firstColumn, firstRow⟩, ⟨lastColumn, lastRow⟩⟩
  else throw .malformed

/-- Whether a place lies in a rectangle. -/
def contains (r : Rectangle) (p : Place) : Bool :=
  r.first.column ≤ p.column && p.column ≤ r.last.column && r.first.row ≤ p.row &&
    p.row ≤ r.last.row

end Rectangle

example : coordinate? "b12" = some (2, 12) ∧ coordinate? "12" = none := by decide +kernel
example : columnNumber? "ß" = some 513 ∧ columnNumber? "é" = none := by decide +kernel
example : Bounds.read? "$A$1:B" = none ∧
    Bounds.read? "A:B" = some ⟨some 1, none, some 2, none⟩ := by decide +kernel

end CellGraph.Package
