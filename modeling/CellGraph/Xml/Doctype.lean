import CellGraph.Xml.Markup

/-!
# Document types

What a document type declaration says: which texts entities stand for, and which attributes
elements have though they are not written. Of several declarations of one name the first counts.
-/

namespace CellGraph

/-- What is declared of an attribute of an element. -/
structure AttributeRule where
  element : Text
  name : Text
  /-- Whether the value is a list of words, with one space between each two. -/
  isWords : Bool
  value : Option Text
  deriving DecidableEq, Repr

/-- A document type. An entity without a text lies outside the document. -/
structure Doctype where
  standalone : Bool
  entities : List (Text × Option Text) := []
  rules : List AttributeRule := []
  /-- Whether there may be declarations outside the document. -/
  isPart : Bool := false
  /-- Whether declarations still count. -/
  isHeeded : Bool := true
  deriving DecidableEq, Repr

namespace Doctype

open Markup

def addEntity (d : Doctype) (name : Text) (text : Option Text) : Doctype :=
  if !d.isHeeded || (d.entities.lookup name).isSome then d
  else { d with entities := d.entities ++ [(name, text)] }

def rule? (d : Doctype) (element name : Text) : Option AttributeRule :=
  d.rules.find? fun r => r.element = element && r.name = name

def addRule (d : Doctype) (r : AttributeRule) : Doctype :=
  if !d.isHeeded || (d.rule? r.element r.name).isSome then d
  else { d with rules := d.rules ++ [r] }

/-- After a reference to declarations elsewhere nothing is known for certain. -/
def addElsewhere (d : Doctype) : Doctype :=
  { d with isPart := true, isHeeded := d.isHeeded && d.standalone }

def without (name : Text) (entities : List (Text × Option Text)) : List (Text × Option Text) :=
  entities.filter (·.1 ≠ name)

theorem length_without {name : Text} {entities : List (Text × Option Text)} {text : Option Text}
    (h : entities.lookup name = some text) :
    (without name entities).length < entities.length := by
  unfold without
  rw [List.length_filter_lt_length_iff_exists]
  induction entities with
  | nil => simp at h
  | cons e es ih =>
    by_cases same : name = e.1
    · exact ⟨e, by simp, by simp [same]⟩
    · rw [List.lookup_cons, beq_false_of_ne same] at h
      obtain ⟨x, mem, hx⟩ := ih h
      exact ⟨x, by simp [mem], hx⟩

/-- The characters of a value behind those in `done`, which are backwards, and what is left of the
room for the texts of entities. The `open_` entities are those that are not being read already: an
entity must not stand for a text with itself in it. An entity that may be declared elsewhere stands
for nothing. -/
def expandAfter? (d : Doctype) (open_ : List (Text × Option Text)) (room : Nat) (done : Text)
    (parts : List Part) : Option (Text × Nat) :=
  match parts with
  | [] => some (done, room)
  | .char c :: parts => expandAfter? d open_ room (c :: done) parts
  | .entity name :: parts =>
    match _h : open_.lookup name with
    | some (some text) =>
      if room < text.length then none
      else
        match value? text with
        | some inner =>
          match expandAfter? d (without name open_) (room - text.length) done inner with
          | some (done, room) => expandAfter? d open_ room done parts
          | none => none
        | none => none
    | some none => none
    | none =>
      if (d.entities.lookup name).isNone ∧ d.isPart ∧ ¬ d.standalone then
        expandAfter? d open_ room done parts
      else none
termination_by (open_.length, parts.length)
decreasing_by
  all_goals
    simp only [Prod.lex_def, List.length_cons]
    first
      | exact Or.inl (length_without ‹_›)
      | exact Or.inr ⟨trivial, Nat.lt_succ_self _⟩

/-- A text with one space between each two words. -/
def spaced (t : Text) : Text := Text.join [' '] ((Text.split ' ' t).filter (· ≠ []))

/-- The value of an attribute by its parts, and what is left of the room. -/
def expand? (d : Doctype) (room : Nat) (isWords : Bool) (parts : List Part) : Option (Text × Nat) :=
  (expandAfter? d d.entities room [] parts).map fun (t, room) =>
    (if isWords then spaced t.reverse else t.reverse, room)

/-- What an element has without its being written, given the names of its written attributes. -/
def unwritten (d : Doctype) (element : Text) (written : List Text) : List (Text × Text) :=
  d.rules.filterMap fun r =>
    if r.element = element && !written.contains r.name then r.value.map ((r.name, ·)) else none

/-- The room for the texts of entities in a document of some length. -/
def room (length : Nat) : Nat := max 8388608 (100 * length)

end Doctype
end CellGraph
