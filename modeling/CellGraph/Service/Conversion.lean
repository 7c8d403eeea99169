import CellGraph.Book.Loader
import CellGraph.Diagram.Flowchart
import CellGraph.Grid.Layout
import CellGraph.Model.Script
import CellGraph.Text.Path

/-!
# Conversions

From a workbook file to its grid, whatever loads the file, and from a grid to the three files that
are written for it: the payload that fills a model space, the console script that sends it, and the
flowchart.
-/

namespace CellGraph

/-- Why a workbook file has no grid. -/
inductive ConversionError where
  | read (e : ReadError)
  | number (e : NumberError)
  deriving DecidableEq, Repr

namespace ConversionError

/-- The error as shown, if it is one that is told to the user. -/
def shown? : ConversionError → Option Text
  | .read (.document message) => some message
  | .read (.failure _) => none
  | .number _ => none

end ConversionError

namespace Conversion

def ofBook (b : Except ReadError Book) : Except ConversionError Grid :=
  match b with
  | .error e => .error (.read e)
  | .ok b =>
    match Grid.build b with
    | .error e => .error (.number e)
    | .ok built => .ok built.grid

/-- The grid of a file that has been handed over. -/
def ofFile {F : Type} [Loader F] (f : F) : Except ConversionError Grid := ofBook (Book.load (.file f))

end Conversion

/-- The paths of the files that are written for a grid. -/
structure Outputs where
  json : Text
  script : Text
  flowchart : Text
  deriving DecidableEq, Repr

namespace Outputs

/-- The paths in a folder; `stem` is the name of the files in front of their endings. -/
def paths (folder stem : Text) : Outputs :=
  let path (ending : String) := Path.plain (Path.within folder (stem ++ ending))
  ⟨path ".json", path ".js", path ".mmd"⟩

/-- The kinds of files with their paths. -/
def listed (o : Outputs) : List (Text × Text) :=
  [("json", o.json), ("script", o.script), ("mermaid", o.flowchart)]

def files (o : Outputs) (s : Settings) (g : Grid) : List (Text × Text) :=
  let m := Model.ofGrid g
  [(o.json, m.payload.text .indented), (o.script, m.script s),
    (o.flowchart, Flowchart.ofGrid g ++ ['\n'])]

end Outputs
end CellGraph
