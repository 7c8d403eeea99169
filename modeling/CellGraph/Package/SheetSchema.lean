import CellGraph.Package.PackageSchema

/-!
# The schema of sheets

The fields of what a sheet says besides its rows: how it is shown, printed, filtered and
protected, and what its cells are linked with.
-/

namespace CellGraph.Package.SheetSchema

open PackageSchema (extensions)

def margins : Schema := .record (
  optional .real ["left", "right", "top", "bottom", "header", "footer"])

def printOptions : Schema := .record (
  optional .flag ["horizontalCentered", "verticalCentered", "headings", "gridLines",
    "gridLinesSet"])

def pageSetup : Schema := .record (
  optional (.oneOf ["default", "portrait", "landscape"]) ["orientation"] ++
  optional .integer ["paperSize", "scale", "fitToHeight", "fitToWidth", "firstPageNumber"] ++
  optional .flag ["useFirstPageNumber"] ++
  optional .measure ["paperHeight", "paperWidth"] ++
  optional (.oneOf ["downThenOver", "overThenDown"]) ["pageOrder"] ++
  optional .flag ["usePrinterDefaults", "blackAndWhite", "draft"] ++
  optional (.oneOf ["asDisplayed", "atEnd"]) ["cellComments"] ++
  optional (.oneOf ["displayed", "blank", "dash", "NA"]) ["errors"] ++
  optional .integer ["horizontalDpi", "verticalDpi", "copies"] ++
  optional .relation ["id"])

/-- The lines above and below a printed page. -/
def headerFooter : Schema := .record (
  optional .flag ["differentOddEven", "differentFirst", "scaleWithDoc", "alignWithMargins"] ++
  element .any ["oddHeader", "oddFooter", "evenHeader", "evenFooter", "firstHeader",
    "firstFooter"])

def sortCondition : Schema := .record (
  optional .area ["ref"] ++
  optional .flag ["descending"] ++
  optional (.oneOf ["value", "cellColor", "fontColor", "icon"]) ["sortBy"] ++
  optional .text ["customList"] ++
  optional .integer ["dxfId"] ++
  optional (.oneOf ["3Arrows", "3ArrowsGray", "3Flags", "3TrafficLights1", "3TrafficLights2",
    "3Signs", "3Symbols", "3Symbols2", "4Arrows", "4ArrowsGray", "4RedToBlack", "4Rating",
    "4TrafficLights", "5Arrows", "5ArrowsGray", "5Rating", "5Quarters"]) ["iconSet"] ++
  optional .integer ["iconId"])

def sortState : Schema := .record (
  optional .flag ["columnSort", "caseSensitive"] ++
  optional (.oneOf ["stroke", "pinYin"]) ["sortMethod"] ++
  optional .area ["ref"] ++
  elements sortCondition ["sortCondition"] ++
  element extensions ["extLst"])

def iconFilter : Schema := .record (
  needed (.exactly ["3Arrows", "3ArrowsGray", "3Flags", "3TrafficLights1", "3TrafficLights2",
    "3Signs", "3Symbols", "3Symbols2", "4Arrows", "4ArrowsGray", "4RedToBlack", "4Rating",
    "4TrafficLights", "5Arrows", "5ArrowsGray", "5Rating", "5Quarters"]) ["iconSet"] ++
  optional .integer ["iconId"])

def colorFilter : Schema := .record (
  optional .integer ["dxfId"] ++
  optional .flag ["cellColor"])

/-- A filter by the present state of a range. -/
def dynamicFilter : Schema := .record (
  needed (.exactly ["null", "aboveAverage", "belowAverage", "tomorrow", "today", "yesterday",
    "nextWeek", "thisWeek", "lastWeek", "nextMonth", "thisMonth", "lastMonth", "nextQuarter",
    "thisQuarter", "lastQuarter", "nextYear", "thisYear", "lastYear", "yearToDate", "Q1", "Q2",
    "Q3", "Q4", "M1", "M2", "M3", "M4", "M5", "M6", "M7", "M8", "M9", "M10", "M11", "M12"])
    ["type"] ++
  optional .real ["val"] ++
  optional .text ["valIso"] ++
  optional .real ["maxVal"] ++
  optional .text ["maxValIso"])

def customFilter : Schema := .record (
  optional (.exactly ["equal", "lessThan", "lessThanOrEqual", "notEqual", "greaterThanOrEqual",
    "greaterThan"]) ["operator"] ++
  needed .text ["val"])

def customFilters : Schema := .record (
  elements customFilter ["customFilter"] ++
  optional .flag ["and"])

def topFilter : Schema := .record (
  optional .flag ["top", "percent"] ++
  needed .real ["val"] ++
  optional .real ["filterVal"])

def dateGroup : Schema := .record (
  needed .integer ["year"] ++
  optional (.within 1 12) ["month"] ++
  optional (.within 1 31) ["day"] ++
  optional (.within 0 23) ["hour"] ++
  optional (.within 0 59) ["minute"] ++
  optional .integer ["second"] ++
  needed (.exactly ["year", "month", "day", "hour", "minute", "second"]) ["dateTimeGrouping"])

def filters : Schema := .record (
  optional .flag ["blank"] ++
  optional (.oneOf ["gregorian", "gregorianUs", "gregorianMeFrench", "gregorianArabic", "hijri",
    "hebrew", "taiwan", "japan", "thai", "korea", "saka", "gregorianXlitEnglish",
    "gregorianXlitFrench"]) ["calendarType"] ++
  elements .any ["filter"] ++
  elements dateGroup ["dateGroupItem"])

def filterColumn : Schema := .record (
  needed .integer ["colId"] ++
  optional .flag ["hiddenButton", "showButton"] ++
  element filters ["filters"] ++
  element topFilter ["top10"] ++
  element customFilters ["customFilters"] ++
  element dynamicFilter ["dynamicFilter"] ++
  element colorFilter ["colorFilter"] ++
  element iconFilter ["iconFilter"] ++
  element extensions ["extLst"] ++
  optional .text ["blank", "vals"])

def autoFilter : Schema := .record (
  optional .area ["ref"] ++
  elements filterColumn ["filterColumn"] ++
  element sortState ["sortState"] ++
  element extensions ["extLst"])

def validation : Schema := .record (
  optional (.oneOf ["whole", "decimal", "list", "date", "time", "textLength", "custom"]) ["type"] ++
  content ["formula1", "formula2"] ++
  optional .flag ["showErrorMessage", "showInputMessage", "showDropDown", "allowBlank"] ++
  optional .areas ["sqref"] ++
  optional .text ["promptTitle"] ++
  optional (.oneOf ["stop", "warning", "information"]) ["errorStyle"] ++
  optional .text ["error", "prompt", "errorTitle"] ++
  optional (.oneOf ["noControl", "off", "on", "disabled", "hiragana", "fullKatakana",
    "halfKatakana", "fullAlpha", "halfAlpha", "fullHangul", "halfHangul"]) ["imeMode"] ++
  optional (.oneOf ["between", "notBetween", "equal", "notEqual", "lessThan", "lessThanOrEqual",
    "greaterThan", "greaterThanOrEqual"]) ["operator"] ++
  optional .flag ["allow_blank"])

/-- Which values the cells of a sheet may have. -/
def validations : Schema := .record (
  optional .flag ["disablePrompts"] ++
  optional .integer ["xWindow", "yWindow"] ++
  optional .text ["count"] ++
  elements validation ["dataValidation"])

/-- How groups of rows and columns are shown. -/
def outline : Schema := .record (
  optional .flag ["applyStyles", "summaryBelow", "summaryRight", "showOutlineSymbols"])

def pageSetupProperties : Schema := .record (
  optional .flag ["autoPageBreaks", "fitToPage"])

def properties : Schema := .record (
  optional .text ["codeName"] ++
  optional .flag ["enableFormatConditionsCalculation", "filterMode", "published",
    "syncHorizontal"] ++
  optional .text ["syncRef"] ++
  optional .flag ["syncVertical", "transitionEvaluation", "transitionEntry"] ++
  element .color ["tabColor"] ++
  element outline ["outlinePr"] ++
  element pageSetupProperties ["pageSetUpPr"])

def pane : Schema := .record (
  optional .real ["xSplit", "ySplit"] ++
  optional .text ["topLeftCell"] ++
  optional (.exactly ["bottomRight", "topRight", "bottomLeft", "topLeft"]) ["activePane"] ++
  optional (.exactly ["split", "frozen", "frozenSplit"]) ["state"])

def selection : Schema := .record (
  optional (.oneOf ["bottomRight", "topRight", "bottomLeft", "topLeft"]) ["pane"] ++
  optional .text ["activeCell"] ++
  optional .integer ["activeCellId"] ++
  optional .text ["sqref"])

def view : Schema := .record (
  optional .flag ["windowProtection", "showFormulas", "showGridLines", "showRowColHeaders",
    "showZeros", "rightToLeft", "tabSelected", "showRuler", "showOutlineSymbols",
    "defaultGridColor", "showWhiteSpace"] ++
  optional (.oneOf ["normal", "pageBreakPreview", "pageLayout"]) ["view"] ++
  optional .text ["topLeftCell"] ++
  optional .integer ["colorId", "zoomScale", "zoomScaleNormal", "zoomScaleSheetLayoutView",
    "zoomScalePageLayoutView"] ++
  optional .flag ["zoomToFit"] ++
  optional .integer ["workbookViewId"] ++
  elements selection ["selection"] ++
  element pane ["pane"])

def views : Schema := .record (
  elements view ["sheetView"] ++
  element extensions ["extLst"])

def format : Schema := .record (
  optional .integer ["baseColWidth"] ++
  optional .real ["defaultColWidth", "defaultRowHeight"] ++
  optional .flag ["customHeight", "zeroHeight", "thickTop", "thickBottom"] ++
  optional .integer ["outlineLevelRow", "outlineLevelCol"])

def inputCells : Schema := .record (
  needed .text ["r"] ++
  optional .flag ["deleted", "undone"] ++
  needed .text ["val"] ++
  optional .integer ["numFmtId"])

def scenario : Schema := .record (
  elements inputCells ["inputCells"] ++
  needed .text ["name"] ++
  optional .flag ["locked", "hidden"] ++
  optional .text ["count", "user", "comment"])

def scenarios : Schema := .record (
  elements scenario ["scenario"] ++
  optional .integer ["current", "show"] ++
  optional .areas ["sqref"])

def related : Schema := .record (
  optional .relation ["id"])

def tables : Schema := .record (
  optional .text ["count"] ++
  elements related ["tablePart"])

def link : Schema := .record (
  needed .text ["ref"] ++
  optional .text ["location", "tooltip", "display"] ++
  optional .relation ["id"] ++
  optional .text ["target"])

def links : Schema := .record (
  elements link ["hyperlink"])

def merge : Schema := .record (
  needed .rectangle ["ref"])

def merges : Schema := .record (
  optional .text ["count"] ++
  elements merge ["mergeCell"])

def break_ : Schema := .record (
  optional .integer ["id", "min", "max"] ++
  optional .flag ["man", "pt"])

def breaks : Schema := .record (
  optional .text ["count", "manualBreakCount"] ++
  elements break_ ["brk"])

def protection : Schema := .record (
  optional .flag ["sheet", "objects", "scenarios", "formatCells", "formatRows", "formatColumns",
    "insertColumns", "insertRows", "insertHyperlinks", "deleteColumns", "deleteRows",
    "selectLockedCells", "selectUnlockedCells", "sort", "autoFilter", "pivotTables"] ++
  optional .text ["password", "algorithmName"] ++
  optional .base64 ["saltValue"] ++
  optional .integer ["spinCount"] ++
  optional .base64 ["hashValue"])

def threshold : Schema := .record (
  required (.exactly ["num", "percent", "max", "min", "formula", "percentile"]) ["type"] ++
  optional .text ["val"] ++
  optional .flag ["gte"] ++
  element extensions ["extLst"])

def colorScale : Schema := .record (
  elements threshold ["cfvo"] ++
  elements .color ["color"])

def dataBar : Schema := .record (
  optional .integer ["minLength", "maxLength"] ++
  optional .flag ["showValue"] ++
  elements threshold ["cfvo"] ++
  element .color ["color"])

def iconSet : Schema := .record (
  optional (.oneOf ["3Arrows", "3ArrowsGray", "3Flags", "3TrafficLights1", "3TrafficLights2",
    "3Signs", "3Symbols", "3Symbols2", "4Arrows", "4ArrowsGray", "4RedToBlack", "4Rating",
    "4TrafficLights", "5Arrows", "5ArrowsGray", "5Rating", "5Quarters"]) ["iconSet"] ++
  optional .flag ["showValue", "percent", "reverse"] ++
  elements threshold ["cfvo"])

def formatRule : Schema := .record (
  required (.exactly ["expression", "cellIs", "colorScale", "dataBar", "iconSet", "top10",
    "uniqueValues", "duplicateValues", "containsText", "notContainsText", "beginsWith",
    "endsWith", "containsBlanks", "notContainsBlanks", "containsErrors", "notContainsErrors",
    "timePeriod", "aboveAverage"]) ["type"] ++
  optional .integer ["dxfId", "priority"] ++
  optional .flag ["stopIfTrue", "aboveAverage", "percent", "bottom"] ++
  optional (.oneOf ["lessThan", "lessThanOrEqual", "equal", "notEqual", "greaterThanOrEqual",
    "greaterThan", "between", "notBetween", "containsText", "notContains", "beginsWith",
    "endsWith"]) ["operator"] ++
  optional .text ["text"] ++
  optional (.oneOf ["today", "yesterday", "tomorrow", "last7Days", "thisMonth", "lastMonth",
    "nextMonth", "thisWeek", "lastWeek", "nextWeek"]) ["timePeriod"] ++
  optional .integer ["rank", "stdDev"] ++
  optional .flag ["equalAverage"] ++
  elements .any ["formula"] ++
  element colorScale ["colorScale"] ++
  element dataBar ["dataBar"] ++
  element iconSet ["iconSet"] ++
  element extensions ["extLst"] ++
  element .any ["dxf"])

def conditionalFormat : Schema := .record (
  optional .areas ["sqref"] ++
  optional .flag ["pivot"] ++
  elements formatRule ["cfRule"] ++
  optional .text ["extLst"])

/-- The schemas of the parts of a sheet by their names. Conditional formats stand apart: one with an
unexpected field is left out. -/
def parts : List (String × Schema) := [
  ("printOptions", printOptions), ("pageMargins", margins), ("pageSetup", pageSetup),
  ("headerFooter", headerFooter), ("autoFilter", autoFilter), ("dataValidations", validations),
  ("sheetPr", properties), ("sheetViews", views), ("sheetFormatPr", format),
  ("scenarios", scenarios), ("tableParts", tables), ("hyperlinks", links),
  ("mergeCells", merges), ("sheetProtection", protection), ("extLst", extensions),
  ("legacyDrawing", related), ("rowBreaks", breaks), ("colBreaks", breaks)]

end CellGraph.Package.SheetSchema
