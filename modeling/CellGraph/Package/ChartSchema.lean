import CellGraph.Package.SheetSchema

/-!
# The schema of chart sheets

The fields of a sheet that holds a chart and no cells.
-/

namespace CellGraph.Package.ChartSchema

open PackageSchema (extensions)

def properties : Schema := .record (
  optional .flag ["published"] ++
  optional .text ["codeName"] ++
  element .color ["tabColor"])

def view : Schema := .record (
  optional .flag ["tabSelected"] ++
  optional .integer ["zoomScale", "workbookViewId"] ++
  optional .flag ["zoomToFit"] ++
  element extensions ["extLst"])

def views : Schema := .record (
  elements view ["sheetView"] ++
  element extensions ["extLst"])

/-- What of a chart sheet is protected. -/
def protection : Schema := .record (
  optional .flag ["content", "objects"] ++
  optional .base64 ["hashValue"] ++
  optional .integer ["spinCount"] ++
  optional .base64 ["saltValue"] ++
  optional .text ["algorithmName", "password"])

/-- A window of a chart sheet that a user has saved. -/
def customView : Schema := .record (
  needed .guid ["guid"] ++
  needed .integer ["scale"] ++
  optional (.exactly ["visible", "hidden", "veryHidden"]) ["state"] ++
  optional .flag ["zoomToFit"] ++
  element SheetSchema.margins ["pageMargins"] ++
  element SheetSchema.pageSetup ["pageSetup"] ++
  element SheetSchema.headerFooter ["headerFooter"])

/-- The windows of a chart sheet that users have saved. -/
def customViews : Schema := .record (
  elements customView ["customSheetView"])

def picture : Schema := .record (
  needed .relation ["id"])

def drawing : Schema := .record (
  optional .relation ["id"])

/-- The drawings above and below a printed page. -/
def headerDrawing : Schema := .record (
  optional .relation ["id"] ++
  optional .integer ["lho", "lhe", "lhf", "cho", "che", "chf", "rho", "rhe", "rhf", "lfo", "lfe",
    "lff", "cfo", "cfe", "cff", "rfo", "rfe", "rff"])

def webItem : Schema := .record (
  needed .integer ["id"] ++
  needed .text ["divId"] ++
  needed (.exactly ["sheet", "printArea", "autoFilter", "range", "chart", "pivotTable", "query",
    "label"]) ["sourceType"] ++
  needed .text ["sourceRef"] ++
  optional .text ["sourceObject"] ++
  needed .text ["destinationFile"] ++
  optional .text ["title"] ++
  optional .flag ["autoRepublish"])

def webItems : Schema := .record (
  optional .integer ["count"] ++
  elements webItem ["webPublishItem"])

def chartSheet : Schema := .record (
  element properties ["sheetPr"] ++
  element views ["sheetViews"] ++
  element protection ["sheetProtection"] ++
  element customViews ["customSheetViews"] ++
  element SheetSchema.margins ["pageMargins"] ++
  element SheetSchema.pageSetup ["pageSetup"] ++
  element SheetSchema.headerFooter ["headerFooter"] ++
  element drawing ["drawing"] ++
  element headerDrawing ["drawingHF"] ++
  element picture ["picture"] ++
  element webItems ["webPublishItems"] ++
  element extensions ["extLst"] ++
  optional .text ["title"] ++
  optional (.exactly ["visible", "hidden", "veryHidden"]) ["sheet_state"])

end CellGraph.Package.ChartSchema
