import CellGraph.Book.Basic
import CellGraph.Book.Keys
import CellGraph.Dialect.Convert
import CellGraph.Grid.Basic

/-!
# Reading cells

What a cell of a workbook becomes in a grid. Its text is brought to one form: numbers are
written plainly, percentages become fractions, and a decimal comma becomes a point. A text that is
then a number, or empty, is a value; any other text is a description. A formula is converted to the
modelling dialect, with placeholders for its references.
-/

namespace CellGraph

namespace CellText

/-- The end of a text, or one line feed before it. -/
def atEnd (t : Text) : Bool := t = [] || t = ['\n']

/-- Whether a text is a number, with or without a sign; an empty cell counts as one. -/
def isNumber (t : Text) : Bool :=
  t = [] || match Literal.scan Text.isDecimal (Binary64.scanSign t).2 with
    | some (_, rest) => atEnd rest
    | none => false

/-- Whether a text is a percentage: a minus sign, one white space, digits with at most one point,
and a percent sign. The minus sign and the white space may be missing. -/
def isPercentage (t : Text) : Bool :=
  let t := if t.head? = some '-' then t.tail else t
  let t := if t.head?.any Text.isBlank then t.tail else t
  let rest := t.dropWhile Text.isDecimal
  let rest := if rest.head? = some '.' then rest.tail.dropWhile Text.isDecimal else rest
  t.head?.any Text.isDecimal && rest.head? = some '%' && atEnd rest.tail

/-- The fraction that a percentage stands for. Plain spaces are ignored; any other white space
makes the number unreadable. -/
def fraction (percentage : Text) : Except NumberError Text :=
  let number := Text.without ' ' percentage.dropLast
  match Binary64.read? number with
  | some x => .ok (x.div (Literal.value false ⟨"100", none, none⟩)).plainText
  | none => .error (.unreadable number)

/-- The text of a number that is stored as one. -/
def ofNumber : Value → Option (Except NumberError Text)
  | .int n => some (match Binary64.ofInt? n with
    | some _ => .ok (Text.ofInt n)
    | none => .error .tooLarge)
  | .float x => some (.ok x.plainText)
  | _ => none

/-- A text without outer white space, percentages and decimal commas. -/
def normalize (t : Text) : Except NumberError Text := do
  let t := Text.trim t
  let t ← if isPercentage t then fraction t else .ok t
  let pointed := Text.swap ',' '.' t
  return if isNumber pointed then pointed else t

/-- The text of a cell in its one form. -/
def ofCell (c : BookCell) : Except NumberError Text := do
  let shown ← (ofNumber c.value).getD (.ok (if c.readable then c.value.display else []))
  normalize shown

end CellText

namespace CellFormula

/-- Whether a character is a given letter once capitalised. Besides the small ASCII letters only
the dotless `ı` has an ASCII capital that matters here. -/
def capitalises (letter c : Char) : Bool := c.toUpper = letter || (letter = 'I' && c = 'ı')

/-- Whether a formula is a link, which has no meaning in a model. -/
def isLink (formula : Text) : Bool :=
  let word : Text := "HYPERLINK"
  word.length ≤ formula.length &&
    (word.zip formula).all fun (letter, c) => capitalises letter c

/-- The formula of a cell in the dialect and the functions left in it; empty if the cell has none
or only a link. Dollar signs are dropped before anything else. -/
def ofCell (k : SheetKeys) (c : BookCell) : Except NumberError Dialect.Converted :=
  match c.formula with
  | none | some [] => .ok ⟨[], []⟩
  | some formula =>
    if isLink formula then .ok ⟨[], []⟩
    else do
      let tree := Parser.parse (Text.without '$' ('=' :: formula))
      let converted ← Dialect.convertTree tree
      return ⟨k.writeTree c.sheet converted.nodes, converted.unresolved⟩

end CellFormula

namespace Cell

/-- The cell of a grid for a cell of a workbook, in a given column of the plane. -/
def ofBook (k : SheetKeys) (column : Int) (c : BookCell) : Except NumberError Cell := do
  let text ← CellText.ofCell c
  let formula ← CellFormula.ofCell k c
  let numeric := CellText.isNumber text
  return {
    key := k.keyAt c.coordinate c.sheet
    value := if numeric then text else []
    description := if numeric then [] else text
    formula := formula.formula
    row := c.row
    column := column
    unresolved := formula.unresolved }

/-- The warning about a cell with functions left in its formula. -/
def warning? (c : Cell) : Option Text :=
  if c.unresolved = [] then none
  else some (c.key ++ ": left " ++ List.intercalate ", " c.unresolved ++ " unresolved in " ++
    c.formula)

end Cell
end CellGraph
