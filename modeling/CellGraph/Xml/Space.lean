import CellGraph.Text.Basic

/-!
# Name spaces

A name space is an address. Two of them belong to XML itself: that of the names whose first word is
`xml`, and that of the declarations of name spaces.
-/

namespace CellGraph

/-- The address of a page of the web by the labels of its host and by its path. -/
def webAddress (host : List String) (path : Text) : Text :=
  "http" ++ "://" ++ Text.join ['.'] (host.map String.toList) ++ '/' :: path

namespace XmlSpace

/-- The host of the name spaces of XML. -/
def host : List String := ["www", "w3", "org"]

/-- The name space of `xml`. -/
def xml : Text := webAddress host "XML/1998/namespace"

def declarations : Text := webAddress host "2000/xmlns/"

end XmlSpace
end CellGraph
