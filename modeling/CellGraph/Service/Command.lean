import CellGraph.Package.File
import CellGraph.Service.Arguments
import CellGraph.Service.App
import CellGraph.Service.Watch

/-!
# Commands

The plan of each command of the program, which comes with a loader of workbook files. A workbook
that cannot be read ends a command before it has done anything.
-/

namespace CellGraph

/-- How a command ends: with an exit code, by serving requests, or by waiting for changes. -/
inductive Ending where
  | exit (code : Nat)
  | serving (title host : Text) (port : Int)
  | waiting (w : Watch)
  deriving DecidableEq, Repr

namespace Command

/-- A command that needs the grid of a workbook. -/
def withGrid (path : Text) (use : Grid → Plan Ending) : Plan Ending := do
  match ← Plan.grid path with
  | .ok g => use g
  | .error e =>
    match e.shown? with
    | some message => do
      Plan.warn ("❌  " ++ message)
      return .exit 1
    | none => .fail

/-- Writes the files for a workbook, and tells which functions are left in formulas. -/
def convertPlan (s : Settings) (workbook folder : Text) : Plan Ending :=
  withGrid workbook fun g => do
    let outputs ← Plan.saveOutputs s folder (Path.stem workbook) g
    outputs.listed.forM fun (kind, path) =>
      Plan.say ("✅  " ++ Text.padRight 8 kind ++ ' ' :: path)
    g.unresolved.forM fun c =>
      Plan.warn ("⚠️  " ++ c.key ++ ": " ++ Text.join ", " c.unresolved ++ " left as-is")
    return .exit 0

/-- Shows the flowchart of a workbook or a link to it, and writes a page and an image of it if they
are asked for. -/
def diagramPlan (s : Settings) (workbook : Text) (page image : Option Text) (asLink : Bool) :
    Plan Ending :=
  withGrid workbook fun g => do
    let flowchart := Flowchart.ofGrid g
    Plan.say (if asLink then Link.url s "img" flowchart else flowchart)
    (page.filter (· ≠ [])).forM fun path => do
      Plan.save path (.page (Network.page g Network.pageHeight))
      Plan.warn ("✅  Wrote " ++ path)
    match image.filter (· ≠ []) with
    | none => return .exit 0
    | some path =>
      let request := Request.image s "img" flowchart
      match (← Plan.ask request).accepted request.url with
      | .ok r => do
        Plan.save path (.text r.content)
        Plan.warn ("✅  Wrote " ++ path)
        return .exit 0
      | .error e => do
        Plan.warn ("❌  Rendering failed: " ++ e.message)
        return .exit 1

/-- Replaces the contents of a model space with a workbook. -/
def pushPlan (s : Settings) (workbook space : Text) (token : Option Text) : Plan Ending :=
  withGrid workbook fun g => do
    let m := Model.ofGrid g
    if (token.filter (· ≠ [])).getD s.token = [] then
      Plan.warn "❌  No token: pass --token or set GUESSTIMATE_TOKEN"
      return .exit 1
    else
      let request := Request.push s m space token
      match (← Plan.ask request).accepted request.url with
      | .ok _ => do
        let count := Text.ofNat m.metrics.length
        Plan.say ("✅  Space " ++ space ++ " updated (" ++ count ++ " metrics)")
        return .exit 0
      | .error e => do
        Plan.warn ("❌  Push failed: " ++ e.message)
        return .exit 1

/-- Converts a workbook now and at every change. -/
def watchPlan (s : Settings) (current workbook folder : Text) (notifies : Bool) : Plan Ending := do
  let w : Watch := ⟨Path.resolve current workbook, folder, s, notifies⟩
  let _ ← w.sync
  Plan.say ("👀  Watching `" ++ w.path ++ "` for edits (Ctrl-C to exit)")
  return .waiting w

/-- The plan of a command; `current` is the current folder. -/
def plan (s : Settings) (current : Text) : Command → Plan Ending
  | .help => return .exit 0
  | .convert workbook folder => convertPlan s workbook folder
  | .diagram workbook page image asLink => diagramPlan s workbook page image asLink
  | .push workbook space token => pushPlan s workbook space token
  | .watch workbook folder notifies => watchPlan s current workbook folder notifies
  | .serve host port => return .serving App.title host port

/-- A file that is no workbook, for the loader of the program. -/
example :
    let w : World := ⟨"/home", [("/home/notes.xlsx", WorkbookFile.other)], fun _ => .failure []⟩
    (((Command.push "notes.xlsx" "7" none).plan {} []).run w {}).1.complaints =
      ["❌  Cannot read workbook: File is not a zip file".toList] := by decide +kernel

end Command
end CellGraph
