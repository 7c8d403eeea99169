import CellGraph.Diagram.Page
import CellGraph.Package.File
import CellGraph.Service.Command

/-!
# The program

Carries out the plans of commands on real files. No network is at hand: requests fail as if no
connection could be made, and the local service cannot listen.
-/

namespace CellGraph

/-- What the program's surroundings say about its settings. -/
def settingsFromSurroundings : IO Settings := do
  let d : Settings := {}
  let get (name : String) (default : Text) : IO Text := do
    return ((← IO.getEnv name).map String.toList).getD default
  return {
    spacesUrl := ← get "GUESSTIMATE_API_URL" d.spacesUrl
    referrer := ← get "GUESSTIMATE_REFERRER" d.referrer
    tokenKey := ← get "GUESSTIMATE_TOKEN_KEY" d.tokenKey
    token := ← get "GUESSTIMATE_TOKEN" d.token
    imageUrl := ← get "MERMAID_INK_URL" d.imageUrl
    serviceUrl := ← get "API_URL" d.serviceUrl }

/-- The text of what is written into a file. -/
def FileContent.written : FileContent → Text
  | .text t => t
  | .page p => p.html

/-- The bytes of the file at a path, if there is one. -/
def bytesAt (path : Text) : IO (Option (List UInt8)) := do
  try return some (← IO.FS.readBinFile (String.ofList path)).toList
  catch _ => return none

/-- Carries out a plan; none if an error ends it. -/
def Plan.carryOut {α : Type} : Plan α → IO (Option α)
  | .done a => return some a
  | .fail => return none
  | .show_ line next => do
    IO.println (String.ofList line)
    (← IO.getStdout).flush
    next.carryOut
  | .complain line next => do
    IO.eprintln (String.ofList line)
    next.carryOut
  | .load path next => do
    let file := (← bytesAt path).map WorkbookFile.ofBytes
    (next (Book.load (.path path file))).carryOut
  | .makeFolder path next => do
    IO.FS.createDirAll (String.ofList path)
    next.carryOut
  | .write path content next => do
    IO.FS.writeFile (String.ofList path) (String.ofList content.written)
    next.carryOut
  | .send _ next => (next (.failure "no network")).carryOut

/-- Waits for changes of a workbook. -/
partial def keepWatching (w : Watch) (current : Text) (last : Option (List UInt8)) : IO Unit := do
  IO.sleep 1000
  let now ← bytesAt w.path
  if now ≠ last then
    let _ ← (w.onChange current w.path).carryOut
  keepWatching w current now

/-- Runs the program with the words of its command line. -/
def runProgram (words : List String) : IO UInt32 := do
  let current := (toString (← IO.currentDir)).toList
  let settings ← settingsFromSurroundings
  match Command.read? (words.map String.toList) with
  | none =>
    IO.eprintln "Usage: convert | diagram | push | watch | api, with options and arguments"
    return 2
  | some command =>
    match ← (command.plan settings current).carryOut with
    | some (.exit code) => return code.toUInt32
    | some (.waiting w) =>
      keepWatching w current (← bytesAt w.path)
      return 0
    | some (.serving ..) =>
      IO.eprintln "No network is at hand to listen on"
      return 1
    | none => return 1

end CellGraph

def main (words : List String) : IO UInt32 :=
  try CellGraph.runProgram words
  catch e => do
    IO.eprintln s!"error: {e}"
    return 1
