import CellGraph.Diagram.Flowchart
import CellGraph.Proofs.Diagram.Dependencies
import CellGraph.Proofs.Grid.Plane
import CellGraph.Proofs.Keys.Collisions
import CellGraph.Proofs.Text.Parts
import Mathlib.Data.List.Basic

/-!
# Reading flowcharts

A flowchart is a text of lines, and each line but the first declares a cell or draws an edge. Keys
are made of word characters and exclamation marks, labels of safe characters; so no line is broken
and none can be read in two ways (`eq_of_text_eq`). `lines_of_build` says what the lines of a
workbook's flowchart are.
-/

namespace CellGraph

/-! ## Lines of a text -/

/-- Lines without line breaks in them are found again. -/
theorem Text.split_lines {separator : Char} {first : Text} {others : List Text}
    (noBreak : ∀ t ∈ first :: others, separator ∉ t) :
    split separator (first ++ others.flatMap (separator :: ·)) = first :: others := by
  induction others generalizing first with
  | nil => simpa using split_of_not_mem (noBreak first (by simp))
  | cons t others ih =>
    have rest := ih fun u member => noBreak u (List.mem_cons_of_mem _ member)
    rw [List.flatMap_cons, List.cons_append, split_append (noBreak first (by simp)), rest]

namespace Flowchart

/-- A line of a flowchart below the first. -/
inductive Line where
  | declaration (key label : Text)
  | edge (e : Edge)
  deriving DecidableEq, Repr

namespace Line

def text : Line → Text
  | declaration key label => key ++ '[' :: label ++ [']']
  | edge e => e.source ++ " --> " ++ e.target

/-- The edge that a line draws. -/
def edge? : Line → Option Edge
  | declaration .. => none
  | edge e => some e

/-- The key that a line declares. -/
def declared? : Line → Option Text
  | declaration key _ => some key
  | edge _ => none

end Line

/-! ## Lines for edges -/

/-- The declaration of a cell, if it has a label and has not been seen. -/
def declarations (g : Grid) (seen : List Text) (key : Text) : List Line :=
  if seen.contains key || labelAt g key = [] then [] else [.declaration key (labelAt g key)]

/-- The lines for edges, given the cells that have been seen. -/
def entries (g : Grid) (seen : List Text) : List Edge → List Line
  | [] => []
  | e :: es =>
    declarations g seen e.source ++ declarations g (e.source :: seen) e.target ++
      .edge e :: entries g (e.target :: e.source :: seen) es

variable {g : Grid} {seen : List Text} {es : List Edge} {key t : Text} {l : Line}

theorem declaration_eq (g : Grid) (seen : List Text) (key : Text) :
    declaration g seen key = (declarations g seen key).map Line.text := by
  unfold declaration declarations
  split <;> rfl

theorem lines_eq (g : Grid) (seen : List Text) (es : List Edge) :
    lines g seen es = (entries g seen es).map Line.text := by
  induction es generalizing seen with
  | nil => rfl
  | cons e es ih => simp [lines, entries, declaration_eq, ih, Line.text]

theorem mem_declarations : l ∈ declarations g seen key ↔
    key ∉ seen ∧ labelAt g key ≠ [] ∧ l = .declaration key (labelAt g key) := by
  unfold declarations
  by_cases known : key ∈ seen
  · simp [known]
  · by_cases unlabelled : labelAt g key = [] <;> simp [known, unlabelled]

/-- Endpoints of edges. -/
def Meets (es : List Edge) (key : Text) : Prop := ∃ e ∈ es, key = e.source ∨ key = e.target

/-- A cell is declared if an edge meets it, unless it has been seen or has no label. -/
theorem declaration_mem_entries : .declaration key t ∈ entries g seen es ↔
    key ∉ seen ∧ Meets es key ∧ t = labelAt g key ∧ t ≠ [] := by
  induction es generalizing seen with
  | nil => simp [entries, Meets]
  | cons e es ih =>
    have first : ∀ seen other, Line.declaration key t ∈ declarations g seen other ↔
        other ∉ seen ∧ key = other ∧ t = labelAt g other ∧ t ≠ [] := by
      intro seen other
      rw [mem_declarations, Line.declaration.injEq]
      constructor
      · rintro ⟨unseen, labelled, rfl, rfl⟩
        exact ⟨unseen, rfl, rfl, labelled⟩
      · rintro ⟨unseen, rfl, rfl, labelled⟩
        exact ⟨unseen, labelled, rfl, rfl⟩
    simp only [entries, List.mem_append, List.mem_cons, first, ih, reduceCtorEq, false_or, Meets,
      exists_eq_or_imp, not_or]
    constructor
    · rintro ((⟨unseen, rfl, rest⟩ | ⟨unseen, rfl, rest⟩) | ⟨unseen, met, rest⟩)
      · exact ⟨unseen, .inl (.inl rfl), rest⟩
      · exact ⟨unseen.2, .inl (.inr rfl), rest⟩
      · exact ⟨unseen.2.2, .inr met, rest⟩
    · rintro ⟨unseen, met, rest⟩
      by_cases source : key = e.source
      · subst source
        exact .inl (.inl ⟨unseen, rfl, rest⟩)
      by_cases target : key = e.target
      · subst target
        exact .inl (.inr ⟨⟨source, unseen⟩, rfl, rest⟩)
      · exact .inr ⟨⟨target, source, unseen⟩, met.resolve_left (not_or.2 ⟨source, target⟩), rest⟩

theorem edges_entries (g : Grid) (seen : List Text) (es : List Edge) :
    (entries g seen es).filterMap Line.edge? = es := by
  have noEdge : ∀ seen key, (declarations g seen key).filterMap Line.edge? = [] := by
    intro seen key
    unfold declarations
    split <;> rfl
  induction es generalizing seen with
  | nil => rfl
  | cons e es ih => simp [entries, noEdge, ih, Line.edge?]

/-- Whether a line declares a cell or draws one of its edges. -/
def Line.Names (key : Text) : Line → Prop
  | declaration key' _ => key = key'
  | edge e => key = e.source ∨ key = e.target

/-- A line in front of which no other line names the cell that it declares, if it declares one. -/
def Line.Fresh (l l' : Line) : Prop := ∀ key t, l' = .declaration key t → ¬ l.Names key

/-- A declaration is the first line that names its cell. -/
theorem pairwise_entries (g : Grid) (seen : List Text) (es : List Edge) :
    (entries g seen es).Pairwise Line.Fresh := by
  have single : ∀ seen key, (declarations g seen key).Pairwise Line.Fresh := by
    intro seen key
    unfold declarations
    split <;> simp
  induction es generalizing seen with
  | nil => exact .nil
  | cons e es ih =>
    -- the edge and the declarations for it name its two ends only, which are seen from here on
    have later : ∀ l : Line, (∀ key, l.Names key → key = e.source ∨ key = e.target) →
        ∀ l' ∈ entries g (e.target :: e.source :: seen) es, l.Fresh l' := by
      rintro l names l' member key t rfl named
      have unseen := (declaration_mem_entries.1 member).1
      simp only [List.mem_cons, not_or] at unseen
      exact (names key named).elim unseen.2.1 unseen.1
    rw [entries, List.pairwise_append, List.pairwise_append, List.pairwise_cons]
    refine ⟨⟨single _ _, single _ _, ?_⟩, ⟨later _ fun key named => named, ih _⟩, ?_⟩
    · rintro l first l' second key t rfl named
      obtain ⟨-, -, rfl⟩ := mem_declarations.1 first
      obtain ⟨unseen, -, same⟩ := mem_declarations.1 second
      cases same
      exact unseen (List.mem_cons.2 (.inl named))
    · intro l first l' second
      have ends : ∀ key, l.Names key → key = e.source ∨ key = e.target := by
        rcases List.mem_append.1 first with source | target
        · obtain ⟨-, -, rfl⟩ := mem_declarations.1 source
          exact fun key named => .inl named
        · obtain ⟨-, -, rfl⟩ := mem_declarations.1 target
          exact fun key named => .inr named
      rcases List.mem_cons.1 second with rfl | behind
      · rintro key t ⟨⟩
      · exact later l ends l' behind

theorem nodup_declared (g : Grid) (seen : List Text) (es : List Edge) :
    ((entries g seen es).filterMap Line.declared?).Nodup := by
  rw [List.Nodup, List.pairwise_filterMap]
  refine (pairwise_entries g seen es).imp ?_
  rintro (⟨key, t⟩ | e) (⟨key', t'⟩ | e') fresh k ⟨⟩ k' ⟨⟩
  exact fun same => fresh key' t' rfl same.symm

/-- A declaration stands in front of every edge of its cell. -/
theorem declaration_mem_before {before after : List Line} {e : Edge}
    (whole : entries g seen es = before ++ .edge e :: after)
    (member : .declaration key t ∈ entries g seen es) (named : key = e.source ∨ key = e.target) :
    .declaration key t ∈ before := by
  have ordered := pairwise_entries g seen es
  rw [whole] at ordered member
  rcases List.mem_append.1 member with inside | behind
  · exact inside
  · rcases List.mem_cons.1 behind with same | later
    · cases same
    · rw [List.pairwise_append, List.pairwise_cons] at ordered
      exact absurd named (ordered.2.1.1 _ later key t rfl)

/-! ## Characters of lines -/

/-- The characters of keys. -/
def isKeyChar (c : Char) : Bool := Text.isWordChar c || c == '!'

/-- The characters of labels. -/
def isLabelChar (c : Char) : Bool := isSafe c || c == '_'

theorem printable_of_isKeyChar {c : Char} (inKey : isKeyChar c) : Text.Printable c := by
  simp only [isKeyChar, Text.isWordChar, Bool.or_eq_true, beq_iff_eq] at inKey
  obtain (alphanumeric | rfl) | rfl := inKey
  · exact Text.printable_of_isAlphanum alphanumeric
  · decide
  · decide

theorem printable_of_isLabelChar {c : Char} (inLabel : isLabelChar c) : Text.Printable c := by
  simp only [isLabelChar, isSafe, Bool.or_eq_true, beq_iff_eq, List.contains_iff_mem] at inLabel
  obtain (alphanumeric | sign) | rfl := inLabel
  · exact Text.printable_of_isAlphanum alphanumeric
  · have signs : ∀ c ∈ (" ,.-$%" : Text), Text.Printable c := Text.forall_of_all (by decide)
    exact signs c sign
  · decide

/-- A line of keys and a label as they may be written. -/
def Line.Clear : Line → Prop
  | declaration key label => (∀ c ∈ key, isKeyChar c) ∧ ∀ c ∈ label, isLabelChar c
  | edge e => (∀ c ∈ e.source, isKeyChar c) ∧ ∀ c ∈ e.target, isKeyChar c

theorem not_mem_of_all {p : Char → Bool} {t : Text} (all : ∀ c ∈ t, p c) {c : Char}
    (other : p c = false) : c ∉ t := by
  intro member
  rw [all c member] at other
  cases other

theorem arrow_eq : (" --> " : Text) = [' ', '-', '-', '>', ' '] := by decide

theorem Line.Clear.printable (clear : l.Clear) : ∀ c ∈ l.text, Text.Printable c := by
  intro c member
  cases l with
  | declaration key label =>
    simp only [Line.text, List.mem_append, List.mem_cons, List.not_mem_nil, or_false] at member
    obtain (inKey | rfl | inLabel) | rfl := member
    · exact printable_of_isKeyChar (clear.1 c inKey)
    · decide
    · exact printable_of_isLabelChar (clear.2 c inLabel)
    · decide
  | edge e =>
    simp only [Line.text, List.mem_append] at member
    obtain (inSource | arrow) | inTarget := member
    · exact printable_of_isKeyChar (clear.1 c inSource)
    · have inArrow : ∀ c ∈ (" --> " : Text), Text.Printable c := Text.forall_of_all (by decide)
      exact inArrow c arrow
    · exact printable_of_isKeyChar (clear.2 c inTarget)

/-- A line can be read in one way only. -/
theorem eq_of_text_eq {l' : Line} (clear : l.Clear) (same : l'.text = l.text) : l' = l := by
  cases l with
  | declaration key label =>
    have noBracket := not_mem_of_all clear.1 (c := '[') (by decide)
    have noBracket' := not_mem_of_all clear.2 (c := '[') (by decide)
    have noAngle := not_mem_of_all clear.1 (c := '>') (by decide)
    have noAngle' := not_mem_of_all clear.2 (c := '>') (by decide)
    cases l' with
    | declaration key' label' =>
      simp only [Line.text] at same
      have inner := List.append_cancel_right same
      obtain ⟨rfl, -, rfl⟩ := (List.append_cons_inj_of_notMem noBracket noBracket').1 inner.symm
      rfl
    | edge e =>
      have angle : '>' ∈ Line.text (.edge e) := by simp [Line.text, arrow_eq]
      rw [same] at angle
      simp [Line.text, noAngle, noAngle'] at angle
  | edge e =>
    have noAngle := not_mem_of_all clear.1 (c := '>') (by decide)
    have noAngle' := not_mem_of_all clear.2 (c := '>') (by decide)
    cases l' with
    | declaration key' label' =>
      have bracket : '[' ∈ Line.text (.declaration key' label') := by simp [Line.text]
      have noBracket := not_mem_of_all clear.1 (c := '[') (by decide)
      have noBracket' := not_mem_of_all clear.2 (c := '[') (by decide)
      rw [same] at bracket
      simp [Line.text, arrow_eq, noBracket, noBracket'] at bracket
    | edge e' =>
      obtain ⟨source, target⟩ := e
      obtain ⟨source', target'⟩ := e'
      -- the arrow is cut at its point, which occurs nowhere else
      have cut : ∀ a b : Text, Line.text (.edge ⟨a, b⟩) = (a ++ " --") ++ '>' :: ' ' :: b := by
        intro a b
        simp [Line.text, arrow_eq]
      rw [cut, cut] at same
      have front : '>' ∉ source ++ (" --" : Text) := by simp [noAngle]
      have behind : '>' ∉ ' ' :: target := by simp [noAngle']
      obtain ⟨sources, -, targets⟩ := (List.append_cons_inj_of_notMem front behind).1 same.symm
      rw [List.append_cancel_right sources, (List.cons.inj targets).2]

/-! ## The flowchart of a workbook -/

theorem isLabelChar_of_mem_label (description : Text) : ∀ c ∈ label description, isLabelChar c := by
  intro c member
  obtain ⟨d, -, rfl⟩ := List.mem_map.1 member
  by_cases safe : isSafe d
  · simp [isLabelChar, safe]
  · simp [isLabelChar, safe]

theorem isKeyChar_of_mem_coordinate {address : Text} (shape : SheetKeys.IsCoordinate address) :
    ∀ c ∈ address, isKeyChar c := by
  obtain ⟨column, row, rfl, -, -, letters, digits⟩ := shape
  intro c member
  have word : Text.isWordChar c := by
    rcases List.mem_append.1 member with letter | digit
    · exact Text.isWordChar_iff.2 (.inl (letters c letter))
    · exact Text.isWordChar_iff.2 (.inr (.inl (digits c digit)))
  simp [isKeyChar, word]

theorem isKeyChar_of_mem_ofName (name : Text) : ∀ c ∈ SheetKeys.ofName name, isKeyChar c := by
  intro c member
  rcases List.mem_append.1 member with word | bang
  · simp [isKeyChar, (List.mem_filter.1 word).2]
  · obtain rfl := List.mem_singleton.1 bang
    rfl

/-- Whatever a sheet is called, the keys of its cells are plain. -/
theorem isKeyChar_of_mem_keyAt (k : SheetKeys) (sheet : Text) {address : Text}
    (shape : SheetKeys.IsCoordinate address) : ∀ c ∈ k.keyAt address sheet, isKeyChar c := by
  have inAddress := isKeyChar_of_mem_coordinate shape
  unfold SheetKeys.keyAt
  split
  · intro c member
    rcases List.mem_append.1 member with inSheet | inside
    · cases found : k.find? sheet with
      | none => exact isKeyChar_of_mem_ofName sheet c (by simpa [found] using inSheet)
      | some key =>
        obtain ⟨n, -, rfl⟩ := Option.map_eq_some_iff.1 found
        exact isKeyChar_of_mem_ofName n c (by simpa [found] using inSheet)
    · exact inAddress c inside
  · exact inAddress

/-- The label of a key is that of its cell. -/
theorem labelAt_of_mem (nodup : g.keys.Nodup) {c : Cell} (member : c ∈ g.cells) :
    labelAt g c.key = label c.description := by
  have present : (g.find? c.key).isSome := List.find?_isSome.2 ⟨c, member, by simp⟩
  obtain ⟨d, found⟩ := Option.isSome_iff_exists.1 present
  have sameKey : d.key = c.key := by simpa using List.find?_some found
  obtain rfl := List.inj_on_of_nodup_map nodup (List.mem_of_find?_eq_some found) member sameKey
  simp [labelAt, found]

theorem clear_entries (plain : ∀ key, Meets es key → ∀ c ∈ key, isKeyChar c) :
    ∀ l ∈ entries g seen es, l.Clear := by
  intro l member
  cases l with
  | declaration key t =>
    obtain ⟨-, met, rfl, -⟩ := declaration_mem_entries.1 member
    exact ⟨plain key met, isLabelChar_of_mem_label _⟩
  | edge e =>
    have drawn : e ∈ es := by
      rw [← edges_entries g seen es]
      exact List.mem_filterMap.2 ⟨_, member, rfl⟩
    exact ⟨plain _ ⟨e, drawn, .inl rfl⟩, plain _ ⟨e, drawn, .inr rfl⟩⟩

theorem ofGrid_eq (g : Grid) :
    ofGrid g = ("graph LR" : Text) ++ ((entries g [] (Edge.ofGrid g)).map
      fun l => ("  " : Text) ++ l.text).flatMap ('\n' :: ·) := by
  have lineStart : ("\n  " : Text) = '\n' :: ("  " : Text) := by decide
  unfold ofGrid
  rw [lines_eq, List.flatMap_map, List.flatMap_map, lineStart]
  rfl

/-- Where edges meet there is a cell. -/
theorem exists_cell_of_meets {key : Text} (met : Meets (Edge.ofGrid g) key) :
    ∃ c ∈ g.cells, key = c.key := by
  have known : key ∈ g.keys := by
    obtain ⟨e, drawn, rfl | rfl⟩ := met
    · exact (Edge.ends_mem_keys drawn).1
    · exact (Edge.ends_mem_keys drawn).2
  obtain ⟨c, member, same⟩ := List.mem_map.1 known
  exact ⟨c, member, same.symm⟩

theorem printable_of_mem_line {ls : List Line} (clear : ∀ l ∈ ls, l.Clear) :
    ∀ t ∈ ("graph LR" : Text) :: ls.map (fun l => ("  " : Text) ++ l.text),
      ∀ c ∈ t, Text.Printable c := by
  rw [List.forall_mem_cons, List.forall_mem_map]
  refine ⟨Text.forall_of_all (by decide), fun l member c inLine => ?_⟩
  rcases List.mem_append.1 inLine with blank | inside
  · have blanks : ∀ c ∈ ("  " : Text), Text.Printable c := Text.forall_of_all (by decide)
    exact blanks c blank
  · exact (clear l member).printable c inside

/-- The flowchart of a workbook whose cells stand at letters and digits, line by line. Behind the
first line come declarations and edges, each moved by two blanks, and none of them can be read in
another way. The edges are those of the grid in their order. A cell is declared if it is an end of
an edge and has a label, with that label, once and in front of all its edges. Line breaks apart the
text is printable ASCII, whatever the labels and the names of the sheets are. -/
theorem lines_of_build {b : Book} {built : Grid.Built} (ok : Grid.build b = .ok built)
    (coordinates : ∀ d ∈ b.cells, SheetKeys.IsCoordinate d.coordinate) :
    ∃ ls : List Line,
      Text.split '\n' (ofGrid built.grid) =
        ("graph LR" : Text) :: ls.map (fun l => ("  " : Text) ++ l.text) ∧
      (∀ l ∈ ls, ∀ l' : Line, l'.text = l.text → l' = l) ∧
      ls.filterMap Line.edge? = Edge.ofGrid built.grid ∧
      (∀ key t, .declaration key t ∈ ls ↔ ∃ c ∈ built.grid.cells, key = c.key ∧
        t = label c.description ∧ t ≠ [] ∧
        ∃ e ∈ Edge.ofGrid built.grid, key = e.source ∨ key = e.target) ∧
      (ls.filterMap Line.declared?).Nodup ∧
      (∀ before e after, ls = before ++ .edge e :: after → ∀ key t, .declaration key t ∈ ls →
        key = e.source ∨ key = e.target → .declaration key t ∈ before) ∧
      ∀ c ∈ ofGrid built.grid, c = '\n' ∨ 0x20 ≤ c.toNat ∧ c.toNat < 0x7F := by
  have nodup := Grid.nodup_keys_build ok
  have plain : ∀ key, Meets (Edge.ofGrid built.grid) key → ∀ c ∈ key, isKeyChar c := by
    intro key met
    obtain ⟨c, member, rfl⟩ := exists_cell_of_meets met
    obtain ⟨-, d, -, inBook, -, key⟩ := Grid.exists_standsAt ok member
    rw [key]
    exact isKeyChar_of_mem_keyAt _ _ (coordinates d inBook)
  have clear : ∀ l ∈ entries built.grid [] (Edge.ofGrid built.grid), l.Clear := clear_entries plain
  have printable := printable_of_mem_line clear
  refine ⟨entries built.grid [] (Edge.ofGrid built.grid), ?_, ?_, edges_entries _ _ _, ?_,
    nodup_declared _ _ _, ?_, ?_⟩
  · rw [ofGrid_eq]
    refine Text.split_lines fun t member broken => ?_
    exact absurd (printable t member _ broken) (by decide)
  · exact fun l member l' => eq_of_text_eq (clear l member)
  · intro key t
    rw [declaration_mem_entries]
    constructor
    · rintro ⟨-, met, rfl, labelled⟩
      obtain ⟨c, member, rfl⟩ := exists_cell_of_meets met
      exact ⟨c, member, rfl, labelAt_of_mem nodup member, labelled, met⟩
    · rintro ⟨c, member, rfl, rfl, labelled, met⟩
      exact ⟨by simp, met, (labelAt_of_mem nodup member).symm, labelled⟩
  · exact fun before e after whole key t member named =>
      declaration_mem_before whole member named
  · intro c member
    rw [ofGrid_eq, List.mem_append, List.mem_flatMap] at member
    obtain inFirst | ⟨t, line, inLine⟩ := member
    · exact .inr (printable _ (by simp) c inFirst)
    · rcases List.mem_cons.1 inLine with rfl | inside
      · exact .inl rfl
      · exact .inr (printable t (List.mem_cons_of_mem _ line) c inside)

/-- A label with a bracket, an arrow and a line break, on a sheet whose name has them too. -/
def bracketed : Book :=
  ⟨[⟨"x]\n --> y", [[⟨"x]\n --> y", "A1", 1, 1, .text "a]\n --> b", none, true⟩,
      ⟨"x]\n --> y", "B1", 1, 2, .int 5, none, true⟩,
      ⟨"x]\n --> y", "C1", 1, 3, .blank, some "B1*2", true⟩]]⟩, ⟨"T", []⟩]⟩

theorem lines_of_build_bracketed :
    (∃ built, Grid.build bracketed = .ok built ∧ built.warnings = [] ∧
      ofGrid built.grid = ("graph LR\n  xy!B1[a__ --_ b]\n  xy!B1 --> xy!C1" : Text) ∧
      ∃ ls : List Line, Text.split '\n' (ofGrid built.grid) =
        ("graph LR" : Text) :: ls.map (fun l => ("  " : Text) ++ l.text)) ∧
      ∀ d ∈ bracketed.cells, SheetKeys.IsCoordinate d.coordinate := by
  have coordinate : ∀ column, column.isAlpha → SheetKeys.IsCoordinate [column, '1'] :=
    fun column letter => ⟨[column], ['1'], rfl, by simp, by simp, by simpa using letter,
      Text.forall_of_all (by decide)⟩
  have coordinates : ∀ d ∈ bracketed.cells, SheetKeys.IsCoordinate d.coordinate := by
    intro d member
    simp only [bracketed, Book.cells, List.flatMap_cons, List.flatMap_nil, List.flatten_cons,
      List.flatten_nil, List.append_nil, List.mem_cons, List.not_mem_nil, or_false] at member
    obtain rfl | rfl | rfl := member
    · exact coordinate 'A' rfl
    · exact coordinate 'B' rfl
    · exact coordinate 'C' rfl
  obtain ⟨built, ok, quiet, drawn⟩ : ∃ built, Grid.build bracketed = .ok built ∧
      built.warnings = [] ∧
      ofGrid built.grid = ("graph LR\n  xy!B1[a__ --_ b]\n  xy!B1 --> xy!C1" : Text) := by
    refine ⟨⟨⟨[⟨"xy!B1", "5", "a]\n --> b", [], 1, 2, []⟩,
      ⟨"xy!C1", [], [], "=$\x7bmetric:xy!B1\x7d*2", 1, 3, []⟩], ["x]\n --> y", "T"]⟩, []⟩,
      by decide +kernel, rfl, by decide +kernel⟩
  obtain ⟨ls, split, -⟩ := lines_of_build ok coordinates
  exact ⟨⟨built, ok, quiet, drawn, ls, split⟩, coordinates⟩

end Flowchart
end CellGraph
