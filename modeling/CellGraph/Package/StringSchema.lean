import CellGraph.Package.Schema

/-!
# The schema of strings

The fields of a string: its text, or runs of text with formats, and how it is spoken.
-/

namespace CellGraph.Package.StringSchema

def format : Schema := .record (
  wrapped .text ["rFont"] ++
  wrapped .integer ["charset"] ++
  wrapped (.within 0 14) ["family"] ++
  wrapped .flag ["b", "i", "strike", "outline", "shadow", "condense", "extend"] ++
  element .color ["color"] ++
  wrapped .real ["sz"] ++
  wrapped (.oneOf ["single", "double", "singleAccounting", "doubleAccounting"]) ["u"] ++
  wrapped (.oneOf ["superscript", "subscript", "baseline"]) ["vertAlign"] ++
  wrapped (.oneOf ["major", "minor"]) ["scheme"] ++
  forbidden ["name"])

def run : Schema := .record (
  element format ["rPr"] ++
  content ["t"])

def phoneticProperties : Schema := .record (
  needed .integer ["fontId"] ++
  optional (.oneOf ["halfwidthKatakana", "fullwidthKatakana", "Hiragana", "noConversion"])
    ["type"] ++
  optional (.oneOf ["noControl", "left", "center", "distributed"]) ["alignment"])

def phoneticRun : Schema := .record (
  needed .integer ["sb", "eb"] ++
  content ["t"])

def text : Schema := .record (
  content ["t"] ++
  elements run ["r"] ++
  elements phoneticRun ["rPh"] ++
  element phoneticProperties ["phoneticPr"])

end CellGraph.Package.StringSchema
