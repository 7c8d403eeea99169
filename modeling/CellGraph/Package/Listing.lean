import CellGraph.Package.Cells
import CellGraph.Package.SheetSchema
import Std.Data.HashSet

/-!
# What a sheet lists

A sheet is read element by element: its rows, the formats of rows and columns, what is merged and
linked, and much that leaves no trace in the cells but must have the fields of its schema.
-/

namespace CellGraph.Package

abbrev Attributes := List (XmlName × Text)

/-- A link from a range, to another part or to a place. -/
structure Link where
  range : Text
  relation : Option Text
  target : Option Text
  location : Option Text
  deriving DecidableEq, Repr

/-- What a sheet lists: the number of its last row, and its cells, formats, merged rectangles, links
and tables. Cells and formats stand backwards. -/
structure Listing where
  row : Int := 0
  cells : List ReadCell := []
  shared : SharedFormulas := []
  rowFormats : List (Int × Attributes) := []
  columnFormats : List (Int × Attributes) := []
  merged : List Rectangle := []
  links : List Link := []
  conditionalFormats : List Int := []
  tables : List (Option Text) := []

namespace Listing

/-- The value of an attribute without a name space. -/
def plain? (a : Attributes) (word : Text) : Option Text := a.lookup ⟨[], word⟩

/-- Whether a row says more than its number and its extent. -/
def isFormatted (a : Attributes) : Bool :=
  a.any fun (n, _) => n.space = [] && n.word ≠ "r" && n.word ≠ "spans"

/-- The number of a row behind another. -/
def rowOf (row : Int) (a : Attributes) : Except FileError Int :=
  match plain? a "r" with
  | none => .ok (row + 1)
  | some t => orMalformed (rowNumber? t)

def addRow (r : SheetReader) (s : Listing) (x : Xml) : Except FileError Listing := do
  let row ← rowOf s.row x.attributes
  let scan ← readCells r s.shared row x.children
  scan.cells.reverse.forM fun c => checkStyle r.styles c.style
  return { s with
    row := row
    cells := scan.cells ++ s.cells
    shared := scan.shared
    rowFormats := if isFormatted x.attributes then (row, x.attributes) :: s.rowFormats
      else s.rowFormats }

def addColumns (s : Listing) (x : Xml) : Except FileError Listing := do
  let first ← orMalformed ((plain? x.attributes "min").bind Integer.read?)
  if first < 1 ∨ columnLimit < first then throw .malformed
  return { s with columnFormats := (first, x.attributes) :: s.columnFormats }

def styleOfRule (x : Xml) : Option Int := (field? x "dxfId").bind Integer.read?

/-- Adds conditional formats. One with an unexpected field is left out. -/
def addConditional (s : Listing) (x : Xml) : Except FileError Listing :=
  match SheetSchema.conditionalFormat.check x with
  | .ok () => .ok { s with conditionalFormats :=
      s.conditionalFormats ++ (x.childrenCalled "cfRule").filterMap styleOfRule }
  | .error (.flaw _) => .ok s
  | .error e => .error e

/-- Adds a part that has a schema. -/
def addPart (s : Listing) (word : Text) (schema : Schema) (x : Xml) : Except FileError Listing := do
  schema.check x
  if word = "mergeCells" then
    return { s with merged := ← (x.childrenCalled "mergeCell").mapM fun m =>
      Rectangle.read ((field? m "ref").getD []) }
  else if word = "hyperlinks" then
    return { s with links := (x.childrenCalled "hyperlink").map fun l =>
      ⟨(field? l "ref").getD [], relationOf? l, field? l "target", field? l "location"⟩ }
  else if word = "tableParts" then
    return { s with tables := (x.childrenCalled "tablePart").map relationOf? }
  else return s

/-- The words of the parts of a sheet that have no schema of their own. -/
def freeParts : List Text := ["row", "col", "conditionalFormatting", "customSheetViews"]

/-- Whether a name is that of a part of a sheet. -/
def isPart (n : XmlName) : Bool :=
  n.space = sheetSpace && (freeParts.contains n.word ||
    SheetSchema.parts.any (·.1.toList = n.word))

def add (r : SheetReader) (s : Listing) (x : Xml) : Except FileError Listing :=
  let word := x.name.word
  if word = "row" then s.addRow r x
  else if word = "col" then s.addColumns x
  else if word = "conditionalFormatting" then s.addConditional x
  else match SheetSchema.parts.find? (·.1.toList = word) with
    | some (_, schema) => s.addPart word schema x
    | none => .ok s

def read (r : SheetReader) (reading : XmlReading) : Except FileError Listing := do
  let s ← (Xml.allCalled isPart reading.elements).foldlM (add r) {}
  whole reading
  return s

/-- The last entry for each number among entries that stand backwards, in order. -/
def lastOfEach (entries : List (Int × Attributes)) : List Attributes :=
  let start : Std.HashSet Int × List Attributes := ({}, [])
  (entries.foldl (fun (seen, kept) (n, a) =>
    if seen.contains n then (seen, kept) else (seen.insert n, a :: kept)) start).2

/-- The style of a format must be one of a number of them. -/
def checkFormatStyle (styles : Nat) (style : Option Text) : Except FileError Unit :=
  match style with
  | none => .ok ()
  | some t => do checkStyle styles (some (← orMalformed (Integer.read? t)))

/-- Values must be numbers of some kind, as far as there are any. -/
def checkNumbers (values : List (ValueKind × Option Text)) : Except FileError Unit :=
  values.forM fun
    | (k, some t) => k.check t
    | (_, none) => .ok ()

/-- The attributes that the format of some columns may have. -/
def columnWords : List Text := [
  "index", "width", "bestFit", "hidden", "outlineLevel", "outline_level", "collapsed", "style",
  "min", "max", "customWidth", "visible", "auto_size"]

def checkColumns (styles : Nat) (a : Attributes) : Except FileError Unit := do
  checkFormatStyle styles (plain? a "style")
  if a.any fun (n, _) => n.space ≠ [] || !columnWords.contains n.word then
    throw (.flaw .mistyped)
  checkNumbers [(.real, plain? a "width"), (.integer, plain? a "max"),
    (.integer, (plain? a "outline_level").or (plain? a "outlineLevel"))]

def checkRow (styles : Nat) (a : Attributes) : Except FileError Unit := do
  checkFormatStyle styles (plain? a "s")
  checkNumbers [(.real, (plain? a "height").or (plain? a "ht")),
    (.integer, (plain? a "r").or (plain? a "index")),
    (.integer, (plain? a "outline_level").or (plain? a "outlineLevel"))]

def checkFormats (r : SheetReader) (s : Listing) : Except FileError Unit := do
  s.conditionalFormats.forM fun n => checkStyle r.conditionalStyles (some n)
  (lastOfEach s.columnFormats).forM (checkColumns r.styles)
  (lastOfEach s.rowFormats).forM (checkRow r.styles)

end Listing
end CellGraph.Package
