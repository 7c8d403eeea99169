import CellGraph.Book.Draft
import CellGraph.Diagram.Flowchart
import CellGraph.Grid.Layout
import CellGraph.Proofs.Book.Places
import CellGraph.Proofs.Expr.Tree

/-!
# Reading filled workbooks

A workbook that has been filled in is read in an order of its own: sheet by sheet, row by row, and
each row from left to right. What is read depends on what the cells hold in the end and not on the
assignments before that, whether they were overwritten, cleared or made in another order.
-/

namespace CellGraph

/-! ## Reading order -/

/-- The occupied cells of a sheet row by row, each row from left to right. -/
structure Sheet.InReadingOrder (t : Sheet) : Prop where
  noEmptyRow : [] ∉ t.rows
  rowsIncrease : t.rows.Pairwise fun upper lower => ∀ c ∈ upper, ∀ d ∈ lower, c.row < d.row
  oneRow : ∀ row ∈ t.rows, ∀ c ∈ row, ∀ d ∈ row, c.row = d.row
  columnsIncrease : ∀ row ∈ t.rows, row.Pairwise fun c d => c.column < d.column

/-- No two cells stand at one place. -/
theorem Sheet.InReadingOrder.nodup {t : Sheet} (inOrder : t.InReadingOrder) :
    (t.rows.flatten.map fun c => (c.row, c.column)).Nodup := by
  rw [List.Nodup, List.pairwise_map, List.pairwise_flatten]
  constructor
  · exact fun row member => (inOrder.columnsIncrease row member).imp fun less same =>
      Int.ne_of_lt less (congrArg Prod.snd same)
  · exact inOrder.rowsIncrease.imp fun less c inUpper d inLower same =>
      Int.ne_of_lt (less c inUpper d inLower) (congrArg Prod.fst same)

/-- The sheet with entries at their places. -/
def Sheet.ofPlaces (name : Text) (entries : Places Entry) : Sheet :=
  ⟨name, entries.rows.map (List.map (BookCell.ofEntry name))⟩

theorem Sheet.rows_ofPlaces (name : Text) (entries : Places Entry) :
    (Sheet.ofPlaces name entries).rows = entries.rows.map (List.map (BookCell.ofEntry name)) := rfl

theorem Sheet.flatten_rows_ofPlaces (name : Text) (entries : Places Entry) :
    (Sheet.ofPlaces name entries).rows.flatten = entries.items.map (BookCell.ofEntry name) := by
  rw [rows_ofPlaces, ← List.map_flatten, Places.flatten_rows]

theorem Sheet.inReadingOrder_ofPlaces (name : Text) (entries : Places Entry) :
    (Sheet.ofPlaces name entries).InReadingOrder where
  noEmptyRow := by
    simpa [rows_ofPlaces] using entries.nil_notMem_rows
  rowsIncrease := by
    rw [rows_ofPlaces, List.pairwise_map]
    refine entries.pairwise_rows.imp fun above c inUpper d inLower => ?_
    obtain ⟨x, fromUpper, rfl⟩ := List.mem_map.1 inUpper
    obtain ⟨y, fromLower, rfl⟩ := List.mem_map.1 inLower
    exact Int.ofNat_lt.2 (above.2 x fromUpper y fromLower)
  oneRow := by
    rw [rows_ofPlaces, List.forall_mem_map]
    intro row member c left d right
    obtain ⟨x, fromLeft, rfl⟩ := List.mem_map.1 left
    obtain ⟨y, fromRight, rfl⟩ := List.mem_map.1 right
    exact congrArg Int.ofNat (Places.row_eq_of_mem_rows member fromLeft fromRight)
  columnsIncrease := by
    rw [rows_ofPlaces, List.forall_mem_map]
    intro row member
    rw [List.pairwise_map]
    exact (Places.pairwise_column_of_mem_rows member).imp fun less => Int.ofNat_lt.2 less

/-! ## Going through a sheet -/

namespace Worksheet
variable {ε : Type}

/-- Whether something stands in a cell. -/
def isSolid (x : Place × Content) : Bool := x.2 ≠ .blank

/-- What one meets in rows, without the rows where one meets nothing. -/
def met (rows : List (List (Place × Content))) : List (List (Place × Content)) :=
  (rows.map (List.filter isSolid)).filter fun row => !row.isEmpty

theorem occupied_eq (title : Text) (result : Place → Value) (row : List (Place × Content)) :
    occupied title result row =
      (row.filter isSolid).map fun x => .ofEntry title (x.1, x.2.entry (result x.1)) := by
  induction row with
  | nil => rfl
  | cons x row ih =>
    rw [occupied, List.filterMap_cons, ← occupied, ih, List.filter_cons]
    by_cases isBlank : x.2 = .blank <;> simp [isSolid, isBlank]

/-- What is read of a sheet is what one meets in its rows. -/
theorem read_eq {s : Worksheet ε} {rows : List (List (Place × Content))} {places : Places Content}
    (walked : s.rows = .ok rows) (same : met rows = places.rows) (result : Place → Value) :
    s.read result = .ok (.ofPlaces s.title (places.map fun p c => c.entry (result p))) := by
  have each : occupied s.title result =
      List.map (fun x => .ofEntry s.title (x.1, x.2.entry (result x.1))) ∘ List.filter isSolid :=
    funext fun row => occupied_eq s.title result row
  have read : (rows.map (occupied s.title result)).filter (fun row => !row.isEmpty) =
      (met rows).map (List.map fun x => .ofEntry s.title (x.1, x.2.entry (result x.1))) := by
    simp [each, met, List.filter_map, Function.comp_def]
  have shown : (Sheet.ofPlaces s.title (places.map fun p c => c.entry (result p))).rows =
      (met rows).map (List.map fun x => .ofEntry s.title (x.1, x.2.entry (result x.1))) := by
    simp [Sheet.ofPlaces, Places.rows_map, same, Function.comp_def]
  rw [Worksheet.read, walked]
  simp only [bind, Except.bind, pure, Except.pure, read, ← shown]
  rfl

/-- A sheet that gives its cells only: nothing is left out. -/
theorem read_ofPlaces (title : Text) {places : Places Content}
    (solid : ∀ p, places.find? p ≠ some .blank) (result : Place → Value) :
    (ofPlaces title places : Worksheet ε).read result =
      .ok (.ofPlaces title (places.map fun p c => c.entry (result p))) := by
  refine read_eq rfl ?_ result
  have each : places.rows.map (List.filter isSolid) = places.rows := by
    conv => rhs; rw [← List.map_id places.rows]
    refine List.map_congr_left fun row member => List.filter_eq_self.2 fun x inRow => ?_
    have listed : x ∈ places.items := Places.flatten_rows places ▸
      List.mem_flatten_of_mem member inRow
    exact decide_eq_true fun isBlank => solid x.1 (isBlank ▸ Places.mem_items.1 listed)
  rw [met, each]
  refine List.filter_eq_self.2 fun row member => ?_
  have some_cell := ne_of_mem_of_not_mem member places.nil_notMem_rows
  simpa using some_cell

end Worksheet

/-! ## What cells hold -/

theorem Content.bare_eq_self {t : Text} (other : t.head? ≠ some '=') : bare t = t := by
  unfold bare
  split
  · exact absurd rfl other
  · rfl

namespace Assignment

/-- No control character is among the characters that a cell would hold. -/
def IsValid : Assignment → Prop
  | .value (.text t) => ∀ c ∈ t.take textLimit, isControl c = false
  | _ => True

/-- What a cell holds after an assignment: nothing after a blank one, and of a text only as many
characters as a cell can hold. -/
def held? : Assignment → Option Assignment
  | .value .blank => none
  | .value (.text t) => some (.value (.text (t.take textLimit)))
  | a => some a

theorem kept_eq_ok_iff {a : Assignment} : a.kept = .ok a.held? ↔ a.IsValid := by
  cases a with
  | area f shown => exact iff_of_true rfl trivial
  | value v =>
    cases v with
    | text t =>
      rw [IsValid, kept, held?]
      split
      · next control => simpa using control
      · next noControl => simpa using noControl
    | _ => exact iff_of_true rfl trivial

instance (a : Assignment) : Decidable a.IsValid := decidable_of_iff _ kept_eq_ok_iff

/-- Something stands in a cell after every assignment that does not clear it. -/
theorem content_ne_blank {a b : Assignment} (held : a.held? = some b) : b.content ≠ .blank := by
  cases a with
  | area f shown =>
    cases held
    exact Content.noConfusion
  | value v =>
    cases v with
    | blank => cases held
    | text t =>
      cases held
      unfold content
      split
      · exact Content.noConfusion
      · next same =>
        cases same
        simp [Content.blank]
      · exact Content.noConfusion
    | _ =>
      cases held
      simp [content, Content.blank]

/-- What a cell holds is a formula: a text that goes on after an equals sign, or an area formula.
One equals sign in front is no part of the formula. -/
inductive IsFormula : Assignment → Text → Prop
  | text {f : Text} (goesOn : f ≠ []) : IsFormula (.value (.text ('=' :: f))) f
  | area (f shown : Text) : IsFormula (.area (some ('=' :: f)) shown) f
  | bareArea {f : Text} (bare : f.head? ≠ some '=') (shown : Text) :
    IsFormula (.area (some f) shown) f
  | emptyArea (shown : Text) : IsFormula (.area none shown) []

theorem formula?_eq_some_iff {a : Assignment} {f : Text} :
    a.content.formula? = some f ↔ a.IsFormula f := by
  constructor
  · intro found
    unfold content at found
    split at found
    · cases found
      exact .text (List.cons_ne_nil _ _)
    · cases found
    · next t shown =>
      cases t with
      | none =>
        cases found
        exact .emptyArea shown
      | some t =>
        by_cases equals : t.head? = some '='
        · obtain ⟨t, rfl⟩ := List.head?_eq_some_iff.1 equals
          cases found
          exact .area t shown
        · rw [Content.formula?, Option.getD_some, Content.bare_eq_self equals] at found
          cases found
          exact .bareArea equals shown
  · rintro (goesOn | ⟨_, shown⟩ | ⟨bare, shown⟩ | shown)
    · obtain ⟨c, t, rfl⟩ := List.exists_cons_of_ne_nil goesOn
      rfl
    · rfl
    · exact congrArg some (Content.bare_eq_self bare)
    · rfl

/-- A value that is no formula is what is shown. -/
theorem literal_content {v : Value} (noFormula : (value v).content.formula? = none) :
    (value v).content.literal = v := by
  unfold content at noFormula ⊢
  split
  · next same =>
    cases same
    cases noFormula
  · next same =>
    cases same
    rfl
  · next same => cases same

/-- How a cell shows what it holds: a formula with its result, or else a value and no formula. -/
inductive ShownBy (name : Text) (p : Place) (result : Value) : Assignment → BookCell → Prop
  | formula {a : Assignment} {f : Text} (isFormula : a.IsFormula f) :
    ShownBy name p result a (.ofEntry name (p, ⟨result, some f⟩))
  | value {v : Value} (noFormula : ∀ f, ¬ IsFormula (.value v) f) :
    ShownBy name p result (.value v) (.ofEntry name (p, ⟨v, none⟩))

end Assignment

namespace SheetDraft

def IsValid (s : SheetDraft) : Prop := ∀ x ∈ s.assignments, x.2.IsValid

instance (s : SheetDraft) : Decidable s.IsValid :=
  inferInstanceAs (Decidable (∀ x ∈ s.assignments, x.2.IsValid))

/-- What the cell at a place holds in the end: the last assignment to it counts. -/
def contents (s : SheetDraft) (p : Place) : Option Assignment :=
  ((s.assignments.filter (·.1 = p)).getLast?).bind (·.2.held?)

/-- What the cells hold in the end, in reading order. -/
def held (s : SheetDraft) : Places Assignment :=
  .ofAssignments (s.assignments.map fun x => (x.1, x.2.held?))

theorem places_of_isValid {s : SheetDraft} (valid : s.IsValid) : s.places = .ok s.held := by
  unfold places
  rw [Except.mapM_eq_ok_map (g := fun x => (x.1, x.2.held?))]
  · rfl
  · rintro ⟨p, a⟩ member
    simp only [Assignment.kept_eq_ok_iff.2 (valid _ member)]
    rfl

theorem find?_held (s : SheetDraft) (p : Place) : s.held.find? p = s.contents p := by
  rw [held, Places.find?_ofAssignments, List.filter_map, List.getLast?_map, Option.bind_map]
  rfl

theorem held_eq_iff {s t : SheetDraft} : s.held = t.held ↔ ∀ p, s.contents p = t.contents p := by
  simp only [← find?_held]
  exact ⟨fun same p => by rw [same], Places.ext_find?⟩

/-- The cells in which something stands in the end. -/
def cells (s : SheetDraft) : Places Content := s.held.map fun _ a => a.content

/-- The sheet that is loaded. -/
def loaded (s : SheetDraft) : Worksheet DraftError := .ofPlaces s.name s.cells

theorem find?_cells (s : SheetDraft) (p : Place) :
    s.cells.find? p = (s.contents p).map (·.content) := by
  rw [cells, Places.find?_map, find?_held]

theorem find?_cells_ne_blank (s : SheetDraft) (p : Place) : s.cells.find? p ≠ some .blank := by
  rw [find?_cells]
  intro isBlank
  obtain ⟨b, inForce, isBlank⟩ := Option.map_eq_some_iff.1 isBlank
  obtain ⟨x, -, held⟩ := Option.bind_eq_some_iff.1 inForce
  exact Assignment.content_ne_blank held isBlank

end SheetDraft

namespace BookDraft

def IsValid (d : BookDraft) : Prop := ∀ s ∈ d.sheets, s.IsValid

instance (d : BookDraft) : Decidable d.IsValid :=
  inferInstanceAs (Decidable (∀ s ∈ d.sheets, s.IsValid))

/-- Two workbooks with the same sheets, the cells of which hold the same in the end. -/
def Agree (d e : BookDraft) : Prop :=
  List.Forall₂ (fun s t => s.name = t.name ∧ ∀ p, s.contents p = t.contents p) d.sheets e.sheets

/-- The workbook that is loaded. -/
def loaded (d : BookDraft) : Workbook DraftError := ⟨d.sheets.map (·.loaded)⟩

theorem workbook_of_isValid {d : BookDraft} (valid : d.IsValid) : d.workbook = .ok d.loaded := by
  rw [workbook, Except.mapM_eq_ok_map (g := (·.loaded))]
  · rfl
  · intro s member
    rw [SheetDraft.places_of_isValid (valid s member)]
    rfl

theorem agree_iff {d e : BookDraft} : d.Agree e ↔
    (d.sheets.map fun s => (s.name, s.held)) = e.sheets.map fun s => (s.name, s.held) := by
  rw [← List.forall₂_eq_eq_eq, List.forall₂_map_left_iff, List.forall₂_map_right_iff]
  simp only [Agree, Prod.mk.injEq, SheetDraft.held_eq_iff]

instance (d e : BookDraft) : Decidable (d.Agree e) := decidable_of_iff _ agree_iff.symm

/-- Filled sheets show nothing but what their cells hold in the end. -/
theorem workbook_eq_of_agree {d e : BookDraft} (valid : d.IsValid) (valid' : e.IsValid)
    (agree : d.Agree e) : d.workbook = e.workbook := by
  have sheets (d : BookDraft) : d.loaded =
      ⟨(d.sheets.map fun s => (s.name, s.held)).map fun x =>
        .ofPlaces x.1 (x.2.map fun _ a => a.content)⟩ := by
    rw [List.map_map]
    rfl
  rw [workbook_of_isValid valid, workbook_of_isValid valid', sheets, sheets, agree_iff.1 agree]

theorem book_eq_of_agree {d e : BookDraft} {results results' : Option BookDraft}
    (valid : d.IsValid) (valid' : e.IsValid) (resultsValid : ∀ r ∈ results, r.IsValid)
    (resultsValid' : ∀ r ∈ results', r.IsValid) (agree : d.Agree e)
    (resultsAgree : Option.Rel Agree results results') : d.book results = e.book results' := by
  rw [book, book, workbook_eq_of_agree valid valid' agree]
  cases resultsAgree with
  | none => rfl
  | some agree =>
    rw [Option.mapM_some, Option.mapM_some,
      workbook_eq_of_agree (resultsValid _ rfl) (resultsValid' _ rfl) agree]

/-- The sheet of results for the sheet with a name. -/
def resultsFor (results : Option BookDraft) (name : Text) : Option SheetDraft :=
  results.bind fun r => r.sheets.find? (·.name = name)

/-- The result of the formula at a place of a sheet, blank if there is none. -/
def resultAt (results : Option BookDraft) (name : Text) (p : Place) : Value :=
  (((resultsFor results name).bind (·.contents p)).map fun a => a.content.literal).getD .blank

/-- A sheet as it is read: what its cells hold in the end, in reading order. -/
structure ReadAs (results : Option BookDraft) (s : SheetDraft) (t : Sheet) : Prop where
  name : t.name = s.name
  inOrder : t.InReadingOrder
  once : (t.rows.flatten.map fun c => (c.row, c.column)).Nodup
  cells : ∀ c, c ∈ t.rows.flatten ↔
    ∃ p a, s.contents p = some a ∧ a.ShownBy s.name p (resultAt results s.name p) c

/-- The sheet that is read from assignments. -/
def sheetOf (results : Option BookDraft) (s : SheetDraft) : Sheet :=
  .ofPlaces s.name (s.cells.map fun p c => c.entry (resultAt results s.name p))

theorem mapM_workbook_of_isValid {results : Option BookDraft}
    (resultsValid : ∀ r ∈ results, r.IsValid) :
    results.mapM workbook = .ok (results.map loaded) := by
  cases results with
  | none => rfl
  | some r =>
    rw [Option.mapM_some, workbook_of_isValid (resultsValid r rfl)]
    rfl

/-- The results of a sheet are those on the sheet with its name. -/
theorem resultsOn_loaded {results : Option BookDraft} {name : Text}
    (covered : ∀ r ∈ results, name ∈ r.sheets.map (·.name)) :
    Workbook.resultsOn .noResults (results.map loaded) name = .ok (resultAt results name) := by
  cases results with
  | none => rfl
  | some r =>
    obtain ⟨t, inResults, same⟩ := List.mem_map.1 (covered r rfl)
    have isFound : (r.sheets.find? (·.name = name)).isSome :=
      List.find?_isSome.2 ⟨t, inResults, decide_eq_true same⟩
    obtain ⟨t, found⟩ := Option.isSome_iff_exists.1 isFound
    have foundLoaded : (r.sheets.map (·.loaded)).find? (·.title = name) = some t.loaded :=
      (List.find?_map ..).trans (congrArg (Option.map _) found)
    have result : (fun p => (t.loaded.at_ p).literal) = resultAt (some r) name := by
      funext p
      rw [resultAt, resultsFor, Option.bind_some, found, Option.bind_some]
      show ((t.cells.find? p).getD .blank).literal = _
      rw [SheetDraft.find?_cells]
      cases t.contents p <;> rfl
    simp only [Workbook.resultsOn, Option.map_some, loaded, foundLoaded, result]

theorem book_of_isValid {d : BookDraft} {results : Option BookDraft} (valid : d.IsValid)
    (resultsValid : ∀ r ∈ results, r.IsValid)
    (covered : ∀ r ∈ results, ∀ s ∈ d.sheets, s.name ∈ r.sheets.map (·.name)) :
    d.book results = .ok ⟨d.sheets.map (sheetOf results)⟩ := by
  have each (s : SheetDraft) (member : s ∈ d.sheets) :
      Workbook.readSheet .noResults (results.map loaded) s.loaded = .ok (sheetOf results s) := by
    have found := resultsOn_loaded fun r isResults => covered r isResults s member
    rw [Workbook.readSheet, show s.loaded.title = s.name from rfl, found]
    exact Worksheet.read_ofPlaces s.name s.find?_cells_ne_blank _
  unfold book
  rw [workbook_of_isValid valid, mapM_workbook_of_isValid resultsValid]
  show Book.ofWorkbook .noResults d.loaded (results.map loaded) = _
  simp only [Book.ofWorkbook, loaded, List.mapM_map, Function.comp_def,
    Except.mapM_eq_ok_map each]
  rfl

/-- A cell shows what it holds as the entry there. -/
theorem shownBy_iff {name : Text} {p : Place} {result : Value} {a : Assignment} {c : BookCell} :
    a.ShownBy name p result c ↔ c = .ofEntry name (p, a.content.entry result) := by
  unfold Content.entry
  cases formula : a.content.formula? with
  | some f =>
    constructor
    · intro shown
      cases shown with
      | formula isFormula =>
        cases Option.some.inj (formula.symm.trans (Assignment.formula?_eq_some_iff.2 isFormula))
        rfl
      | value noFormula => exact absurd (Assignment.formula?_eq_some_iff.1 formula) (noFormula f)
    · rintro rfl
      exact .formula (Assignment.formula?_eq_some_iff.1 formula)
  | none =>
    have noFormula : ∀ f, ¬ a.IsFormula f := fun f isFormula => by
      cases formula.symm.trans (Assignment.formula?_eq_some_iff.2 isFormula)
    constructor
    · intro shown
      cases shown with
      | formula isFormula => exact absurd isFormula (noFormula _)
      | value _ => rw [Assignment.literal_content formula]
    · rintro rfl
      cases a with
      | value v =>
        rw [Assignment.literal_content formula]
        exact .value noFormula
      | area f shown => cases formula

theorem readAs_sheetOf (results : Option BookDraft) (s : SheetDraft) :
    ReadAs results s (sheetOf results s) where
  name := rfl
  inOrder := Sheet.inReadingOrder_ofPlaces _ _
  once := (Sheet.inReadingOrder_ofPlaces _ _).nodup
  cells c := by
    simp only [shownBy_iff, sheetOf, Sheet.flatten_rows_ofPlaces, List.mem_map, Prod.exists,
      Places.mem_items, Places.find?_map, SheetDraft.find?_cells, Option.map_map,
      Option.map_eq_some_iff, Function.comp_apply]
    constructor
    · rintro ⟨p, _, ⟨a, inForce, rfl⟩, rfl⟩
      exact ⟨p, a, inForce, rfl⟩
    · rintro ⟨p, a, inForce, rfl⟩
      exact ⟨p, _, ⟨a, inForce, rfl⟩, rfl⟩

/-! ## The order of assignments -/

/-- What becomes of a filled workbook: the workbook as it is read, its grid, and the edges and the
flowchart of that. -/
def drawn (d : BookDraft) (results : Option BookDraft) :
    Except DraftError (Book × Except NumberError (Grid.Built × List Edge × Text)) :=
  (d.book results).map fun b =>
    (b, (Grid.build b).map fun g => (g, Edge.ofGrid g.grid, Flowchart.ofGrid g.grid))

/-- Cells overwritten, cleared and filled from the right: a formula over an earlier number, an
equals sign alone, and an area formula. -/
def patched : BookDraft := ⟨[
  ⟨"Main".toList, [(⟨2, 2⟩, .value (.int 1)), (⟨27, 1⟩, .value (.text "=SUM(B2:B10)".toList)),
    (⟨3, 3⟩, .value (.int 5)), (⟨4, 1⟩, .value (.text "=".toList)),
    (⟨2, 2⟩, .value (.text "=AA1".toList)), (⟨3, 3⟩, .value .blank),
    (⟨1, 10⟩, .area (some "=B2*2".toList)), (⟨2, 1⟩, .value (.text "x".toList))]⟩,
  ⟨"Data".toList, []⟩]⟩

/-- The same, filled in reading order. -/
def straight : BookDraft := ⟨[
  ⟨"Main".toList, [(⟨2, 1⟩, .value (.text "x".toList)), (⟨4, 1⟩, .value (.text "=".toList)),
    (⟨27, 1⟩, .value (.text "=SUM(B2:B10)".toList)), (⟨2, 2⟩, .value (.text "=AA1".toList)),
    (⟨1, 10⟩, .area (some "=B2*2".toList))]⟩,
  ⟨"Data".toList, []⟩]⟩

/-- Results that leave out one of the formulas. -/
def someResults : BookDraft := ⟨[⟨"Data".toList, []⟩,
  ⟨"Main".toList, [(⟨2, 2⟩, .value (.int 7)), (⟨1, 10⟩, .value (.int 14))]⟩]⟩

end BookDraft
end CellGraph
