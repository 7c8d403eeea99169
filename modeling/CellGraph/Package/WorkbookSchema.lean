import CellGraph.Package.PackageSchema

/-!
# The schema of workbooks

The fields of the part that lists the sheets of a workbook.
-/

namespace CellGraph.Package.WorkbookSchema

open PackageSchema (extensions)

def fileVersion : Schema := .record (
  optional .text ["appName", "lastEdited", "lowestEdited", "rupBuild"] ++
  optional .guid ["codeName"])

/-- Whether a workbook is offered for reading only. -/
def fileSharing : Schema := .record (
  optional .flag ["readOnlyRecommended"] ++
  optional .text ["userName"] ++
  optional .hexadecimal ["reservationPassword"] ++
  optional .text ["algorithmName"] ++
  optional .base64 ["hashValue", "saltValue"] ++
  optional .integer ["spinCount"])

def properties : Schema := .record (
  optional .flag ["date1904", "dateCompatibility"] ++
  optional (.oneOf ["all", "placeholders"]) ["showObjects"] ++
  optional .flag ["showBorderUnselectedTables", "filterPrivacy", "promptedSolutions",
    "showInkAnnotation", "backupFile", "saveExternalLinkValues"] ++
  optional (.oneOf ["userSet", "never", "always"]) ["updateLinks"] ++
  optional .text ["codeName"] ++
  optional .flag ["hidePivotFieldList", "showPivotChartFilter", "allowRefreshQuery",
    "publishItems", "checkCompatibility", "autoCompressPictures", "refreshAllConnections"] ++
  optional .integer ["defaultThemeVersion"])

def protection : Schema := .record (
  optional .text ["workbookPassword", "workbookPasswordCharacterSet", "revisionsPassword",
    "revisionsPasswordCharacterSet"] ++
  optional .flag ["lockStructure", "lockWindows", "lockRevision"] ++
  optional .text ["revisionsAlgorithmName"] ++
  optional .base64 ["revisionsHashValue", "revisionsSaltValue"] ++
  optional .integer ["revisionsSpinCount"] ++
  optional .text ["workbookAlgorithmName"] ++
  optional .base64 ["workbookHashValue", "workbookSaltValue"] ++
  optional .integer ["workbookSpinCount"])

def view : Schema := .record (
  optional (.oneOf ["visible", "hidden", "veryHidden"]) ["visibility"] ++
  optional .flag ["minimized", "showHorizontalScroll", "showVerticalScroll", "showSheetTabs"] ++
  optional .integer ["xWindow", "yWindow", "windowWidth", "windowHeight", "tabRatio",
    "firstSheet", "activeTab"] ++
  optional .flag ["autoFilterDateGrouping"] ++
  element extensions ["extLst"])

/-- A sheet as the workbook lists it. -/
def listedSheet : Schema := .record (
  needed .text ["name"] ++
  needed .integer ["sheetId"] ++
  optional (.oneOf ["visible", "hidden", "veryHidden"]) ["state"] ++
  optional .relation ["id"])

def functionGroup : Schema := .record (
  needed .text ["name"])

def functionGroups : Schema := .record (
  optional .integer ["builtInGroupCount"] ++
  elements functionGroup ["functionGroup"])

def externalReference : Schema := .record (
  needed .relation ["id"])

/-- A name with a meaning in formulas. -/
def definedName : Schema := .record (
  needed .text ["name"] ++
  optional .text ["comment", "customMenu", "description", "help", "statusBar"] ++
  optional .integer ["localSheetId"] ++
  optional .flag ["hidden", "function", "vbProcedure", "xlm"] ++
  optional .integer ["functionGroupId"] ++
  optional .text ["shortcutKey"] ++
  optional .flag ["publishToServer", "workbookParameter"])

/-- The names with a meaning in formulas. -/
def definedNames : Schema := .record (
  elements definedName ["definedName"])

def calculation : Schema := .record (
  optional .integer ["calcId"] ++
  optional (.oneOf ["manual", "auto", "autoNoTable"]) ["calcMode"] ++
  optional .flag ["fullCalcOnLoad"] ++
  optional (.oneOf ["A1", "R1C1"]) ["refMode"] ++
  optional .flag ["iterate"] ++
  optional .integer ["iterateCount"] ++
  optional .real ["iterateDelta"] ++
  optional .flag ["fullPrecision", "calcCompleted", "calcOnSave", "concurrentCalc"] ++
  optional .integer ["concurrentManualCount"] ++
  optional .flag ["forceFullCalc"])

/-- A window of a workbook that a user has saved. -/
def customView : Schema := .record (
  needed .text ["name"] ++
  needed .guid ["guid"] ++
  optional .flag ["autoUpdate"] ++
  optional .integer ["mergeInterval"] ++
  optional .flag ["changesSavedWin", "onlySync", "personalView", "includePrintSettings",
    "includeHiddenRowCol", "maximized", "minimized", "showHorizontalScroll",
    "showVerticalScroll", "showSheetTabs"] ++
  needed .integer ["xWindow", "yWindow", "windowWidth", "windowHeight"] ++
  optional .integer ["tabRatio"] ++
  needed .integer ["activeSheetId"] ++
  optional .flag ["showFormulaBar", "showStatusbar"] ++
  optional (.oneOf ["commNone", "commIndicator", "commIndAndComment"]) ["showComments"] ++
  optional (.oneOf ["all", "placeholders"]) ["showObjects"] ++
  element extensions ["extLst"])

def pivotCache : Schema := .record (
  needed .integer ["cacheId"] ++
  optional .relation ["id"])

def smartTagProperties : Schema := .record (
  optional .flag ["embed"] ++
  optional (.oneOf ["all", "noIndicator"]) ["show"])

def smartTag : Schema := .record (
  optional .text ["namespaceUri", "name", "url"])

def smartTags : Schema := .record (
  elements smartTag ["smartTagType"])

def webPublishing : Schema := .record (
  optional .flag ["css", "thicket", "longFileNames", "vml", "allowPng"] ++
  optional (.oneOf ["544x376", "640x480", "720x512", "800x600", "1024x768", "1152x882",
    "1152x900", "1280x1024", "1600x1200", "1800x1440", "1920x1200"]) ["targetScreenSize"] ++
  optional .integer ["dpi", "codePage"] ++
  optional .text ["characterSet"])

def recovery : Schema := .record (
  optional .flag ["autoRecover", "crashSave", "dataExtractLoad", "repairLoad"])

def webObject : Schema := .record (
  needed .integer ["id"] ++
  needed .text ["divId"] ++
  optional .text ["sourceObject"] ++
  needed .text ["destinationFile"] ++
  optional .text ["title"] ++
  optional .flag ["autoRepublish"])

def webObjects : Schema := .record (
  optional .text ["count"] ++
  elements webObject ["webPublishObject"])

def workbook : Schema := .record (
  optional (.oneOf ["strict", "transitional"]) ["conformance"] ++
  element fileVersion ["fileVersion"] ++
  element fileSharing ["fileSharing"] ++
  element properties ["workbookPr"] ++
  element protection ["workbookProtection"] ++
  list view ["bookViews"] ++
  list listedSheet ["sheets"] ++
  element functionGroups ["functionGroups"] ++
  list externalReference ["externalReferences"] ++
  element definedNames ["definedNames"] ++
  element calculation ["calcPr"] ++
  wrapped .text ["oleSize"] ++
  list customView ["customWorkbookViews"] ++
  list pivotCache ["pivotCaches"] ++
  element smartTagProperties ["smartTagPr"] ++
  element smartTags ["smartTagTypes"] ++
  element webPublishing ["webPublishing"] ++
  element recovery ["fileRecoveryPr"] ++
  element webObjects ["webPublishObjects"] ++
  element extensions ["extLst"] ++
  wrapped .text ["Ignorable"])

end CellGraph.Package.WorkbookSchema
