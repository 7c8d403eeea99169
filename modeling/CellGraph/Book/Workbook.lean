import CellGraph.Book.Basic
import CellGraph.Book.Places

/-!
# Loaded workbooks

A workbook as a loader of workbook files hands it over: sheets of cells, blank ones among them. The
last results of formulas come in a second workbook, which is loaded from the same file.
`Book.ofWorkbook` goes through the two and keeps what is not blank. `ε` is what may go wrong.
-/

namespace CellGraph

/-- What a cell of a loaded workbook holds: a value, a formula with its equals sign, or a formula
that fills several cells at once. That is an object of its own, and `shown` is its text. -/
inductive Content where
  | value (v : Value)
  | formula (t : Text)
  | area (formula : Option Text) (shown : Text)
  deriving DecidableEq, Repr

/-- What a cell is read as: a value, or a formula without its equals sign and its last result. -/
structure Entry where
  value : Value
  formula : Option Text
  deriving DecidableEq, Repr

namespace Content

def blank : Content := .value .blank

/-- A formula without an equals sign in front, if there is one. -/
def bare : Text → Text
  | '=' :: t => t
  | t => t

def formula? : Content → Option Text
  | .value _ => none
  | .formula t => some (bare t)
  | .area t _ => some (bare (t.getD []))

/-- What a cell holds as a value; a formula counts as its text. -/
def literal : Content → Value
  | .value v => v
  | .formula t => .text t
  | .area _ shown => .text shown

/-- What a cell is read as, given the result of its formula. -/
def entry (c : Content) (result : Value) : Entry :=
  match c.formula? with
  | some f => ⟨result, some f⟩
  | none => ⟨c.literal, none⟩

end Content

/-- The cell of a sheet with an entry at a place. -/
def BookCell.ofEntry (name : Text) (x : Place × Entry) : BookCell where
  sheet := name
  coordinate := Area.lettersOfColumn x.1.column ++ Text.ofNat x.1.row
  row := x.1.row
  column := x.1.column
  value := x.2.value
  formula := x.2.formula

/-- A sheet of a loaded workbook: the cells that one goes through row by row, which may fail, and
what stands at each place. -/
structure Worksheet (ε : Type) where
  title : Text
  rows : Except ε (List (List (Place × Content)))
  at_ : Place → Content

structure Workbook (ε : Type) where
  sheets : List (Worksheet ε)

variable {ε δ : Type}

namespace Worksheet

/-- A sheet that gives just the cells in which something stands. -/
def ofPlaces (title : Text) (s : Places Content) : Worksheet ε where
  title := title
  rows := .ok s.rows
  at_ p := (s.find? p).getD .blank

def mapError (f : ε → δ) (s : Worksheet ε) : Worksheet δ := ⟨s.title, s.rows.mapError f, s.at_⟩

/-- The cells of a row that are not blank. -/
def occupied (title : Text) (result : Place → Value) (row : List (Place × Content)) :
    List BookCell :=
  row.filterMap fun (p, c) =>
    if c = .blank then none else some (.ofEntry title (p, c.entry (result p)))

/-- The sheet without blank cells and without rows of nothing else, given the results of formulas. -/
def read (s : Worksheet ε) (result : Place → Value) : Except ε Sheet := do
  return ⟨s.title, ((← s.rows).map (occupied s.title result)).filter fun row => !row.isEmpty⟩

end Worksheet

namespace Workbook

def mapError (f : ε → δ) (w : Workbook ε) : Workbook δ := ⟨w.sheets.map (·.mapError f)⟩

/-- The results on the sheet with a title; all are blank if there is no workbook with results. -/
def resultsOn (noResults : Text → ε) (results : Option (Workbook ε)) (title : Text) :
    Except ε (Place → Value) :=
  match results with
  | none => .ok fun _ => .blank
  | some w =>
    match w.sheets.find? (·.title = title) with
    | some s => .ok fun p => (s.at_ p).literal
    | none => .error (noResults title)

/-- A sheet, read with the results of its formulas. -/
def readSheet (noResults : Text → ε) (results : Option (Workbook ε)) (s : Worksheet ε) :
    Except ε Sheet := do
  s.read (← resultsOn noResults results s.title)

end Workbook

/-- The workbook that is read, with the results of its formulas if there are any. -/
def Book.ofWorkbook (noResults : Text → ε) (w : Workbook ε) (results : Option (Workbook ε)) :
    Except ε Book := do
  return ⟨← w.sheets.mapM (Workbook.readSheet noResults results)⟩

/-! ## Other errors -/

theorem Worksheet.read_mapError (f : ε → δ) (s : Worksheet ε) (result : Place → Value) :
    (s.mapError f).read result = (s.read result).mapError f := by
  unfold Worksheet.read Worksheet.mapError
  cases s.rows <;> rfl

theorem Workbook.resultsOn_mapError (f : ε → δ) (noResults : Text → ε)
    (results : Option (Workbook ε)) (title : Text) :
    resultsOn (f ∘ noResults) (results.map (·.mapError f)) title =
      (resultsOn noResults results title).mapError f := by
  cases results with
  | none => rfl
  | some w =>
    have found : (w.mapError f).sheets.find? (·.title = title) =
        (w.sheets.find? (·.title = title)).map (·.mapError f) := List.find?_map ..
    simp only [Option.map_some, resultsOn, found]
    cases w.sheets.find? (·.title = title) <;> rfl

theorem Workbook.readSheet_mapError (f : ε → δ) (noResults : Text → ε)
    (results : Option (Workbook ε)) (s : Worksheet ε) :
    readSheet (f ∘ noResults) (results.map (·.mapError f)) (s.mapError f) =
      (readSheet noResults results s).mapError f := by
  unfold readSheet
  rw [show (s.mapError f).title = s.title from rfl, resultsOn_mapError]
  cases resultsOn noResults results s.title with
  | error e => rfl
  | ok result => exact s.read_mapError f result

/-- What is read does not depend on what errors are called. -/
theorem Book.ofWorkbook_mapError (f : ε → δ) (noResults : Text → ε) (w : Workbook ε)
    (results : Option (Workbook ε)) :
    ofWorkbook (f ∘ noResults) (w.mapError f) (results.map (·.mapError f)) =
      (ofWorkbook noResults w results).mapError f := by
  have sheets (l : List (Worksheet ε)) :
      (l.map (·.mapError f)).mapM (Workbook.readSheet (f ∘ noResults) (results.map (·.mapError f))) =
        (l.mapM (Workbook.readSheet noResults results)).mapError f := by
    induction l with
    | nil => rfl
    | cons s l ih =>
      rw [List.map_cons, List.mapM_cons, List.mapM_cons, Workbook.readSheet_mapError, ih]
      cases Workbook.readSheet noResults results s with
      | error e => rfl
      | ok t => cases l.mapM (Workbook.readSheet noResults results) <;> rfl
  unfold ofWorkbook
  rw [Workbook.mapError, sheets]
  cases w.sheets.mapM (Workbook.readSheet noResults results) <;> rfl

end CellGraph
