import CellGraph.Service.Plan

/-!
# Watching a workbook

Every change to a watched workbook converts it again and hands it to the local service. A workbook
that cannot be read leaves everything as it was: a file that is just being saved is often broken,
and the next change follows soon.
-/

namespace CellGraph

/-- A workbook that is watched, by its resolved path, and where its conversions go. -/
structure Watch where
  path : Text
  folder : Text
  settings : Settings
  notifies : Bool
  deriving DecidableEq, Repr

namespace Watch

/-- Converts the workbook; the result tells where, unless it cannot be read. -/
def sync (w : Watch) : Plan (Option Outputs) := do
  let name := Path.name w.path
  match ← Plan.grid w.path with
  | .error e =>
    match e.shown? with
    | some message => do
      Plan.say ("⚠️  " ++ name ++ ": " ++ message)
      return none
    | none => .fail
  | .ok g => do
    let outputs ← Plan.saveOutputs w.settings w.folder (Path.stem w.path) g
    if w.notifies then
      match ← Plan.ask (.notify w.settings name) with
      | .response _ => pure ()
      | .failure why =>
        Plan.say ("❌  API not reachable at " ++ w.settings.serviceUrl ++ ": " ++ why)
    return some outputs

/-- What a change to the file at a path brings about; `current` is the current folder. -/
def onChange (w : Watch) (current path : Text) : Plan Unit := do
  if Path.resolve current path = w.path then
    Plan.say ("🔄  " ++ Path.name w.path ++ " changed – reconverting…")
    if (← w.sync).isSome then
      Plan.say ("✅  Outputs written to " ++ Path.plain w.folder)

end Watch
end CellGraph
