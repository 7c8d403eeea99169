import CellGraph.Book.Draft
import CellGraph.Package.Moment
import CellGraph.Package.SharedFormula
import CellGraph.Package.Strings

/-!
# The cells of a sheet in a package

A sheet lists its rows and their cells. A row or cell without a place of its own follows the one
before it. A cell has a formula with its last result, or a value; the cell's type says how to read
the result or the value. A package is read once for its formulas and once for their results.
-/

namespace CellGraph.Package

/-- The content of a cell, if it is not blank. -/
def occupied? (c : Content) : Option Content := if c = .blank then none else some c

/-- The content of a cell to which a text is assigned. -/
def contentOfText (t : Text) : Content :=
  (Assignment.value (.text (t.take Assignment.textLimit))).content

/-- The formula of a cell, which is written without its equals sign. -/
def contentOfFormula (t : Text) : Content := .formula ('=' :: t)

/-- What reading the cells of a package depends on: its shared strings, the numbers of its styles
and of its conditional styles, and whether the results of formulas are read or the formulas. -/
structure SheetReader where
  strings : Array Value
  styles : Nat
  conditionalStyles : Nat
  results : Bool

/-- A cell as read. A style may be written and yet be none. -/
structure ReadCell where
  column : Nat
  row : Int
  style : Option Int
  content : Content

abbrev SharedFormulas := List (Option Text × SharedFormula)

/-- The flaw of a formula as an error of the file. -/
def orFlaw {α : Type} : Except PartFlaw α → Except FileError α
  | .ok a => .ok a
  | .error f => .error (.flaw f)

/-- The number of a row; a binary number without a fraction will do. -/
def rowNumber? (t : Text) : Option Int := (Integer.read? t).or ((float? t).bind (·.toInt?))

/-- A number, which is a binary one if it is written with a point or an exponent. -/
def readNumber (t : Text) : Except FileError Value :=
  if t.any fun d => d = '.' || d = 'e' || d = 'E' then do return .float (← orMalformed (float? t))
  else do return .int (← orMalformed (Integer.read? t))

/-- The value of a cell, or the last result of its formula, whatever the style of the cell is. -/
def readValue (strings : Array Value) (type : Text) (x : Xml) : Except FileError Value :=
  if type = "inlineStr" then
    match sheetChild? x "is" with
    | some s => readString s
    | none => .ok .blank
  else match ((sheetChild? x "v").map (·.text)).filter (· ≠ []) with
    | none => .ok .blank
    | some t =>
      if type = "n" then readNumber t
      else if type = "s" then do sharedString strings (← orMalformed (Integer.read? t))
      else if type = "b" then do return .bool ((← orMalformed (Integer.read? t)) ≠ 0)
      else if type = "d" then Moment.read t
      else .ok (.text t)

/-- What the formula of a cell gives, with the shared formulas so far. The first cell of those with
one formula has its text, and must have a place of its own. A formula for several cells and a table
of data are objects, and nothing is shown for these but their kind. -/
def readFormula (shared : SharedFormulas) (coordinate : Option (Nat × Int)) (unplaced : PartFlaw)
    (x : Xml) : Except FileError (Content × SharedFormulas) := do
  let type := (x.plainAttribute? "t").getD []
  if type = "shared" then
    let id := x.plainAttribute? "si"
    match shared.lookup id with
    | some f =>
      let (column, row) := coordinate.getD (f.column, f.row)
      return (contentOfFormula (← orFlaw (f.at_ column row)), shared)
    | none =>
      if x.text = [] then return (contentOfFormula [], shared)
      match coordinate with
      | some (column, row) =>
        let master ← orFlaw (SharedFormula.read column row x.text)
        return (contentOfFormula x.text, (id, master) :: shared)
      | none => throw (.flaw unplaced)
  else if type = "dataTable" then
    if (x.plainAttribute? "ref").isNone then throw (.flaw .mistyped)
    return (.value (.text "DataTableFormula"), shared)
  else if type = "array" then return (.area (some ('=' :: x.text)) "ArrayFormula", shared)
  else return (contentOfFormula x.text, shared)

/-- Reads the cell of a row that follows a column. -/
def readCell (r : SheetReader) (shared : SharedFormulas) (row : Int) (before : Nat) (x : Xml) :
    Except FileError (ReadCell × SharedFormulas) := do
  let style ← match x.plainAttribute? "s" with
    | none => pure (some 0)
    | some [] => pure none
    | some t => pure (some (← orMalformed (Integer.read? t)))
  let place := x.plainAttribute? "r"
  let coordinate ← match place with
    | none | some [] => pure none
    | some t => pure (some (← orMalformed (coordinate? t)))
  let (column, row) := coordinate.getD (before + 1, row)
  match (sheetChild? x "f").filter fun _ => !r.results with
  | some f =>
    let unplaced := if place.isSome then .blankPlace else .mistyped
    let (content, shared) ← readFormula shared coordinate unplaced f
    return (⟨column, row, style, content⟩, shared)
  | none =>
    let value ← readValue r.strings ((x.plainAttribute? "t").getD "n") x
    return (⟨column, row, style, .value value⟩, shared)

/-- The cells of a row as far as it has been read, the last first. -/
structure RowScan where
  column : Nat
  cells : List ReadCell
  shared : SharedFormulas

def readCells (r : SheetReader) (shared : SharedFormulas) (row : Int) (xs : List Xml) :
    Except FileError RowScan :=
  xs.foldlM (fun s x => do
    let (cell, shared) ← readCell r s.shared row s.column x
    return ⟨cell.column, cell :: s.cells, shared⟩) ⟨0, [], shared⟩

/-- A style must be one of a number of them. -/
def checkStyle (styles : Nat) : Option Int → Except FileError Unit
  | none => .error (.flaw .mistyped)
  | some s => if isIndex styles s then .ok () else .error (.flaw .noEntry)

end CellGraph.Package
