import CellGraph.Xml.Basic
import CellGraph.Xml.Space
import CellGraph.Xml.Subset

/-!
# Reading XML

The pieces of a text become a tree: a stack holds the elements that are still open, the innermost
first. Prefixes of names are looked up among the name spaces declared so far. The text of an entity
is read where the entity is named, and opens no element that it does not close. Where a document
breaks off, the elements that were closed before are still known.
-/

namespace CellGraph

/-- What was read of a document: the root, or the outermost elements that were closed before the
document broke off, in the order of their ends. -/
structure XmlReading where
  elements : List Xml
  fault : Option XmlFault
  deriving Repr

namespace Xml

open Markup

/-- Name spaces by the prefixes that stand for them, the innermost declaration first; the empty
prefix is that of plain element names. -/
abbrev Scope := List (Text × Text)

/-- The scope of the root element: the prefix `xml` needs no declaration. -/
def rootScope : Scope := [("xml", XmlSpace.xml)]

/-- An open element: its name as written, and what has been read of it, text and children
backwards. -/
structure Open where
  written : Text
  name : XmlName
  scope : Scope
  attributes : List (XmlName × Text)
  text : Text
  children : List Xml

namespace Open

def element (o : Open) : Xml := .element o.name o.attributes o.text.reverse o.children.reverse

def addChild (o : Open) (x : Xml) : Open := { o with children := x :: o.children }

/-- Adds character data; behind a child it is left out. -/
def addText (o : Open) (t : Text) : Open :=
  if o.children.isEmpty then { o with text := t.reverseAux o.text } else o

end Open

/-- Adds the name space that a prefix is declared to stand for. Only `xml` has the name space of
`xml`, nothing has that of declarations, and only the empty prefix may stand for no name space. -/
def bind? (scope : Scope) (word address : Text) : Option Scope :=
  if (word = "xml") ≠ (address = XmlSpace.xml) ∨ word = "xmlns" ∨
      address = XmlSpace.declarations ∨ (address = [] ∧ word ≠ []) ∨ address.contains '\x7d' then
    none
  else some ((word, address) :: scope)

def bound? (written : Text) : Option Text :=
  if written = "xmlns" then some []
  else
    let (before, word) := words written
    if before = "xmlns" then some word else none

/-- The name spaces that attributes declare, added to a scope. -/
def declare? (scope : Scope) : List (Text × Text) → Option Scope
  | [] => some scope
  | (written, value) :: rest => do
    match bound? written with
    | some word => declare? (← bind? scope word value) rest
    | none => declare? scope rest

/-- A written element name in a scope. -/
def elementName? (scope : Scope) (written : Text) : Option XmlName := do
  let (before, word) := words written
  if before = [] then return ⟨(scope.lookup []).getD [], word⟩
  else return ⟨← scope.lookup before, word⟩

/-- A written attribute name in a scope. Without a prefix it belongs to no name space. -/
def attributeName? (scope : Scope) (written : Text) : Option XmlName := do
  let (before, word) := words written
  if before = [] then return ⟨[], word⟩ else return ⟨← scope.lookup before, word⟩

/-- The values of the written attributes of an element, and what is left of the room. -/
def values? (d : Doctype) (element : Text) (room : Nat) :
    List (Text × List Part) → Option (List (Text × Text) × Nat)
  | [] => some ([], room)
  | (name, parts) :: rest => do
    let isWords := (d.rule? element name).any (·.isWords)
    let (value, room) ← d.expand? room isWords parts
    let (others, room) ← values? d element room rest
    return ((name, value) :: others, room)

/-- The element that a start tag opens, and what is left of the room. No attribute may occur
twice. -/
def open? (d : Doctype) (room : Nat) (scope : Scope) (written : Text)
    (attributes : List (Text × List Part)) : Option (Open × Nat) := do
  let (values, room) ← values? d written room attributes
  if ¬ (values.map (·.1)).Nodup then none
  let values := values ++ d.unwritten written (values.map (·.1))
  let scope ← declare? scope values
  let name ← elementName? scope written
  let named ← (values.filter fun (a, _) => (bound? a).isNone).mapM fun (a, value) => do
    return (← attributeName? scope a, value)
  if (named.map (·.1)).Nodup then return (⟨written, name, scope, named, [], []⟩, room) else none

/-- How far a document has been read: the open elements, the innermost first, their number, the
root once it is closed, and the room that is left for the texts of entities. -/
structure Progress where
  stack : List Open
  depth : Nat
  root : Option Xml
  room : Nat

namespace Progress

def addElement (p : Progress) (x : Xml) : Progress :=
  match p.stack with
  | [] => { p with root := some x }
  | top :: others => { p with stack := top.addChild x :: others }

/-- The closed elements that are no part of a closed element, in the order of their ends. -/
def elements (p : Progress) : List Xml :=
  p.root.toList ++ p.stack.reverse.flatMap fun o => o.children.reverse

/-- Reads a piece that is no reference. The elements below `floor` stay open. -/
def next? (d : Doctype) (floor : Nat) (p : Progress) : Piece → Option Progress
  | .open_ written attributes closed => do
    if p.stack.isEmpty && p.root.isSome then none
    let scope := (p.stack.head?.map (·.scope)).getD rootScope
    let (o, room) ← open? d p.room scope written attributes
    return if closed then { p with room := room }.addElement o.element
      else { p with stack := o :: p.stack, depth := p.depth + 1, room := room }
  | .close written =>
    match p.stack with
    | [] => none
    | top :: others =>
      if written = top.written ∧ floor < p.depth then
        some ({ p with stack := others, depth := p.depth - 1 }.addElement top.element)
      else none
  | .data t plain =>
    match p.stack with
    | [] => if plain then some p else none
    | top :: others => some { p with stack := top.addText t :: others }
  | .comment | .instruction => some p
  | .reference _ | .doctype _ | .broken => none

end Progress

/-- Reads pieces, and gives how far they could be read if they break off. The `open_` entities are
those whose texts are not being read already. -/
def readPieces (d : Doctype) (open_ : List (Text × Option Text)) (floor : Nat) (p : Progress)
    (pieces : List Piece) : Except Progress Progress :=
  match pieces with
  | [] => .ok p
  | .reference name :: pieces =>
    match _h : open_.lookup name with
    | some (some text) =>
      if p.stack.isEmpty ∨ p.room < text.length then .error p
      else
        match readPieces d (Doctype.without name open_) p.depth
            { p with room := p.room - text.length } (Markup.pieces text) with
        | .error p => .error p
        | .ok inner =>
          if inner.depth = p.depth then readPieces d open_ floor inner pieces else .error inner
    | _ => .error p
  | piece :: pieces =>
    match p.next? d floor piece with
    | some p => readPieces d open_ floor p pieces
    | none => .error p
termination_by (open_.length, pieces.length)
decreasing_by
  all_goals
    simp only [Prod.lex_def, List.length_cons]
    first
      | exact Or.inl (Doctype.length_without ‹_›)
      | exact Or.inr ⟨trivial, Nat.lt_succ_self _⟩

/-- Reads the pieces in front of the root element, and gives those that follow. One document type
declaration may stand there. -/
def prolog? (d : Doctype) (declared : Bool) : List Piece → Option (Doctype × List Piece)
  | [] => none
  | .open_ written attributes closed :: ps => some (d, .open_ written attributes closed :: ps)
  | .comment :: ps | .instruction :: ps => prolog? d declared ps
  | .data _ plain :: ps => if plain then prolog? d declared ps else none
  | .doctype t :: ps => do
    if declared then none
    prolog? (← doctype? d.standalone t) true ps
  | .close _ :: _ | .reference _ :: _ | .broken :: _ => none

def readSource (s : XmlSource) : XmlReading :=
  let ps := pieces s.text
  match prolog? ⟨s.standalone, [], [], false, true⟩ false
      (if s.whole then ps else ps ++ [.broken]) with
  | none => ⟨[], some .malformed⟩
  | some (d, ps) =>
    match readPieces d d.entities 0 ⟨[], 0, none, Doctype.room s.text.length⟩ ps with
    | .error p => ⟨p.elements, some .malformed⟩
    | .ok p => ⟨p.elements, if p.root.isSome then none else some .malformed⟩

def read (bytes : List UInt8) : XmlReading :=
  match XmlSource.ofBytes bytes with
  | .ok s => readSource s
  | .error fault => ⟨[], some fault⟩

end Xml

/-- The root of a document that does not break off. -/
def XmlReading.root (r : XmlReading) : Except XmlFault Xml :=
  match r.fault, r.elements with
  | some fault, _ => .error fault
  | none, root :: _ => .ok root
  | none, [] => .error .malformed

end CellGraph
