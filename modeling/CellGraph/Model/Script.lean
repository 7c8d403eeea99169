import CellGraph.Json.Printer
import CellGraph.Model.Basic
import CellGraph.Settings

/-!
# Console scripts

A script for the console of a browser in which a model space is open: it replaces the contents of
that space, with the token of the user who is logged in. All texts in it are JSON strings.
-/

namespace CellGraph.Model

def literal (t : Text) : Text := (Json.string t).text .spaced

/-- The fixed pieces of the script; between them stand the token's entry, the referrer, the
payload and the address of the spaces. -/
def scriptPieces : Text × Text × Text × Text × Text :=
  ("const modelId = window.location.pathname.split('/')[2];\n" ++
    "const authorization = \"Bearer \" + JSON.parse(localStorage.getItem(",
  ")).token;\nconst payload = \x7b\n  headers: \x7b\n" ++
    "    accept: \"application/json, text/javascript, */*; q=0.01\",\n" ++
    "    authorization: authorization,\n    \"cache-control\": \"no-cache\",\n" ++
    "    \"content-type\": \"application/json\",\n  \x7d,\n  referrer: ",
  ",\n  referrerPolicy: \"strict-origin-when-cross-origin\",\n  body: JSON.stringify(",
  "),\n  method: \"PATCH\",\n\x7d;\nfetch(",
  " + \"/\" + modelId, payload).then(() => location.reload());")

def script (m : Model) (s : Settings) : Text :=
  let (a, b, c, d, e) := scriptPieces
  a ++ literal s.tokenKey ++ b ++ literal s.referrer ++ c ++ m.payload.text .tight ++ d ++
    literal (withoutSlashes s.spacesUrl) ++ e

end CellGraph.Model
