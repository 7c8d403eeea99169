import CellGraph.Package.ChartSchema
import CellGraph.Package.Contents
import CellGraph.Package.Title
import CellGraph.Package.WorkbookSchema

/-!
# Reading a workbook from its package

The workbook part lists the sheets and the relations that lead to their parts. Sheets without a
relation or without a part are left out, and chart sheets have a title but no cells. A package is
read as a whole for its formulas and as a whole for their results.
-/

namespace CellGraph.Package

/-- A sheet as the workbook lists it. -/
structure ListedSheet where
  title : Text
  relation : Text
  deriving DecidableEq, Repr

/-- What the workbook part says: its sheets, and the relations to other workbooks. -/
structure Listed where
  sheets : List ListedSheet
  outside : List (Option Text)
  deriving DecidableEq, Repr

def childrenIn (x : Xml) (word : Text) : List Xml :=
  ((x.lastChildCalled? word).map (·.children)).getD []

def readListed (book : Xml) : Except FileError Listed := do
  WorkbookSchema.workbook.check book
  return {
    sheets := (childrenIn book "sheets").filterMap fun s =>
      ((relationOf? s).filter (· ≠ [])).map (⟨(field? s "name").getD [], ·⟩)
    outside := (childrenIn book "externalReferences").map relationOf? }

def lastRelation (relations : List Relation) (id : Option Text) : Except FileError Relation :=
  orMalformed (relations.reverse.find? (·.id = id))

/-- The part that a workbook draws values from is there, and so is a relation of it. -/
def checkOutside (p : Package) (relations : List Relation) (id : Option Text) :
    Except FileError Unit := do
  let target := (← lastRelation relations id).target
  let _ ← p.document target
  if (← p.relations target) = [] then throw (.flaw .noEntry)

/-- Parts that a package may have, which need only be documents. -/
def looseParts : List Text := ["docProps/core.xml", "docProps/custom.xml", "xl/styles.xml"]

/-- The number of grandchildren with given names. -/
def count (x : Xml) (list word : Text) : Nat :=
  ((x.lastChildCalled? list).map fun c => (c.childrenCalled word).length).getD 0

/-- The numbers of styles and conditional styles, which are all that is read of these. Without a list
there is one style. -/
def readStyles (p : Package) : Except FileError (Nat × Nat) :=
  if p.has "xl/styles.xml" then do
    let x ← p.document "xl/styles.xml"
    let styles := count x "cellXfs" "xf"
    return if styles = 0 then (1, 0) else (styles, count x "dxfs" "dxf")
  else return (1, 0)

/-- Parts must be there and be documents. -/
def checkParts (p : Package) (names : List Text) : Except FileError Unit :=
  names.forM fun name => do let _ ← p.document name

structure ReadSheet where
  title : Text
  contents : Contents

/-- Reads a chart sheet, and gives its title. It must list its relations. -/
def readChart (p : Package) (taken : List Text) (s : ListedSheet) (target : Text) :
    Except FileError Text := do
  let relations ← p.relationsIfAny target
  ChartSchema.chartSheet.check (← p.document target)
  if s.title = [] then throw .malformed
  let title ← Title.read taken s.title
  match relations with
  | none => throw (.flaw .misplaced)
  | some relations => p.checkParts (targetsFor relations "drawing")
  return title

/-- Reads a sheet with cells. A sheet without a title has a usual one. -/
def readSheet (p : Package) (r : SheetReader) (taken : List Text) (s : ListedSheet)
    (target : Text) : Except FileError ReadSheet := do
  let relations := (← p.relationsIfAny target).getD []
  let title ← Title.read taken (if s.title = [] then "Sheet" else s.title)
  let (contents, tables) ← Contents.read r relations (← p.reading target)
  p.checkParts (targetsFor relations "comments" ++ tables ++ targetsFor relations "drawing" ++
    targetsFor relations "pivotTable")
  return ⟨title, contents⟩

/-- Reads the sheets that the workbook lists, given the titles before them. -/
def readSheets (p : Package) (r : SheetReader) (relations : List Relation) (taken : List Text) :
    List ListedSheet → Except FileError (List ReadSheet)
  | [] => .ok []
  | s :: ss => do
    let relation ← lastRelation relations (some s.relation)
    if !p.has relation.target then readSheets p r relations taken ss
    else if Text.occurs "chartsheet" relation.kind then
      let title ← p.readChart taken s relation.target
      readSheets p r relations (taken ++ [title]) ss
    else
      let sheet ← p.readSheet r taken s relation.target
      return sheet :: (← readSheets p r relations (taken ++ [sheet.title]) ss)

/-- The sheets of a package with formulas or with their results. -/
def sheets (p : Package) (results : Bool) : Except FileError (List ReadSheet) := do
  let types ← p.types
  let strings ← p.sharedStrings types
  let name ← workbookPart types
  let listed ← readListed (← p.document name)
  let relations ← if listed.sheets = [] ∧ listed.outside = [] then pure [] else p.relations name
  listed.outside.forM (p.checkOutside relations)
  p.checkParts (looseParts.filter p.has)
  let (styles, conditionalStyles) ← p.readStyles
  p.readSheets ⟨strings, styles, conditionalStyles, results⟩ relations [] listed.sheets

def workbook (p : Package) (results : Bool) : Except FileError (Workbook FileError) := do
  return ⟨(← p.sheets results).map fun s => s.contents.worksheet s.title⟩

end CellGraph.Package
