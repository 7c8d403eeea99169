import CellGraph.Text.Basic

/-!
# XML documents

A document is its root element. Of the text inside an element only the part in front of the first
child is kept: the documents that are read here put no meaning anywhere else.
-/

namespace CellGraph

/-- A name and the name space it belongs to; an empty text stands for no name space. -/
structure XmlName where
  space : Text
  word : Text
  deriving DecidableEq, Repr, Inhabited

inductive Xml where
  | element (name : XmlName) (attributes : List (XmlName × Text)) (text : Text)
      (children : List Xml)
  deriving Repr, Inhabited

namespace Xml

def name : Xml → XmlName
  | .element n _ _ _ => n

def attributes : Xml → List (XmlName × Text)
  | .element _ a _ _ => a

def text : Xml → Text
  | .element _ _ t _ => t

def children : Xml → List Xml
  | .element _ _ _ c => c

/-- The value of the first attribute with a name of some kind. -/
def attribute? (isCalled : XmlName → Bool) (x : Xml) : Option Text :=
  (x.attributes.find? fun (n, _) => isCalled n).map (·.2)

/-- The value of an attribute without a name space. -/
def plainAttribute? (x : Xml) (word : Text) : Option Text := x.attributes.lookup ⟨[], word⟩

/-- The children with a name, whatever its name space. -/
def childrenCalled (x : Xml) (word : Text) : List Xml := x.children.filter (·.name.word = word)

/-- The last child with a name, whatever its name space. -/
def lastChildCalled? (x : Xml) (word : Text) : Option Xml := (x.childrenCalled word).getLast?

/-- The first child with a name of some kind. -/
def child? (isCalled : XmlName → Bool) (x : Xml) : Option Xml :=
  x.children.find? fun c => isCalled c.name

mutual
/-- The element with all elements inside it that have a name of some kind taken out, and those that
were taken, in the order of their ends and behind those taken before, all backwards. Where an
element is taken out its name stays. -/
def take (isCalled : XmlName → Bool) (taken : List Xml) : Xml → Xml × List Xml
  | .element n a t c =>
    let (children, taken) := takeEach isCalled [] taken c
    if isCalled n then (.element n [] [] [], .element n a t children :: taken)
    else (.element n a t children, taken)

/-- `take` for the elements of a list behind some others, which are given backwards. -/
def takeEach (isCalled : XmlName → Bool) (before taken : List Xml) : List Xml → List Xml × List Xml
  | [] => (before.reverse, taken)
  | x :: xs =>
    let (x, taken) := take isCalled taken x
    takeEach isCalled (x :: before) taken xs
end

/-- The elements with a name of some kind among some elements and inside them, in the order of their
ends. One inside another is only there by its name. -/
def allCalled (isCalled : XmlName → Bool) (xs : List Xml) : List Xml :=
  (takeEach isCalled [] [] xs).2.reverse

end Xml
end CellGraph
