import CellGraph.Diagram.Network
import CellGraph.Json.Printer

/-!
# Pages

The text of an interactive page: the data sets of a network, and a script that hands them to the
drawing library, which stands beside the page.
-/

namespace CellGraph.NetworkPage

/-- A JSON text that cannot end the script it stands in. -/
def embedded (j : Json) : Text :=
  (j.text .spaced).flatMap fun c => if c = '<' then "\\u003c" else [c]

/-- The script that loads the page again when the service says so. -/
def reloadScript : Text :=
  "<script>\n  const es = new EventSource(\"/events\");\n" ++
    "  es.onmessage = () => window.location.reload();\n</script>\n"

def html (p : NetworkPage) : Text :=
  "<!DOCTYPE html>\n<html>\n<head>\n<meta charset=\"utf-8\">\n" ++
    "<script src=\"vis-network.min.js\"></script>\n</head>\n<body>\n" ++
    "<div id=\"network\" style=\"height: " ++ p.height ++ "\"></div>\n<script>\n" ++
    "const nodes = new vis.DataSet(" ++ embedded p.nodesJson ++ ");\n" ++
    "const edges = new vis.DataSet(" ++ embedded p.edgesJson ++ ");\n" ++
    "new vis.Network(document.getElementById(\"network\"), \x7bnodes, edges\x7d, \x7b\x7d);\n" ++
    "</script>\n" ++ (if p.reloads then reloadScript else []) ++ "</body>\n</html>\n"

end CellGraph.NetworkPage
