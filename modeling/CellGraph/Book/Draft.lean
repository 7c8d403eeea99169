import CellGraph.Book.Workbook

/-!
# Filling in a workbook

A workbook may be given by assignments to the cells of its sheets. A text of more than one
character that starts with an equals sign is a formula. The last results of formulas come from a
second workbook with the same sheets, if there is one.
-/

namespace CellGraph

/-- What is assigned to a cell. An `area` formula fills several cells at once and stands in the
first of them; it is an object, and `shown` is its text. -/
inductive Assignment where
  | value (v : Value)
  | area (formula : Option Text) (shown : Text := [])
  deriving DecidableEq, Repr

inductive DraftError where
  /-- A text holds a control character. -/
  | controlCharacter
  /-- There are results, but none for a sheet. -/
  | noResults (sheet : Text)
  deriving DecidableEq, Repr

/-- A sheet and the assignments to its cells in order. -/
structure SheetDraft where
  name : Text
  assignments : List (Place × Assignment)
  deriving DecidableEq, Repr

/-- A workbook that is being filled in. -/
structure BookDraft where
  sheets : List SheetDraft
  deriving DecidableEq, Repr

namespace Assignment

def textLimit : Nat := 32767

/-- The control characters that no cell may hold: those of ASCII that are not white space. -/
def isControl (c : Char) : Bool := c.toNat < 0x20 && c ≠ '\t' && c ≠ '\n' && c ≠ '\r'

/-- What is kept of an assignment; a blank value clears the cell. -/
def kept : Assignment → Except DraftError (Option Assignment)
  | .value .blank => .ok none
  | .value (.text t) =>
    if (t.take textLimit).any isControl then .error .controlCharacter
    else .ok (some (.value (.text (t.take textLimit))))
  | a => .ok (some a)

/-- What a cell holds to which something is assigned. -/
def content : Assignment → Content
  | .value (.text ('=' :: c :: t)) => .formula ('=' :: c :: t)
  | .value v => .value v
  | .area formula shown => .area formula shown

end Assignment

/-- The assignments in force on a sheet. -/
def SheetDraft.places (s : SheetDraft) : Except DraftError (Places Assignment) := do
  return .ofAssignments (← s.assignments.mapM fun (p, a) => do return (p, ← a.kept))

namespace BookDraft

def workbook (d : BookDraft) : Except DraftError (Workbook DraftError) := do
  return ⟨← d.sheets.mapM fun s => do
    return .ofPlaces s.name ((← s.places).map fun _ a => a.content)⟩

/-- The workbook as it is read, with the results of its formulas if there are any. -/
def book (d : BookDraft) (results : Option BookDraft) : Except DraftError Book := do
  let w ← d.workbook
  Book.ofWorkbook .noResults w (← results.mapM workbook)

end BookDraft
end CellGraph
