import CellGraph.Proofs.Grid.Cells

/-!
# Labels in rows

Laying out a workbook joins labels to cells while it goes along a row, so the cell that is tried as
a label may have been changed before. That makes no difference: a cell that has taken a label has
a value or a formula and is no label itself (`isLabelOf_labelled`). So the cells of a grid are those
of the workbook, each decided on by its two neighbours alone (`cells_of_build`).
-/

namespace CellGraph

namespace Cell

/-- A cell with the text of its label as description, if it has a label. -/
def labelled (label : Option Cell) (c : Cell) : Cell :=
  match label with
  | some label => { c with description := label.description }
  | none => c

@[simp] theorem key_labelled (label : Option Cell) (c : Cell) : (c.labelled label).key = c.key := by
  cases label <;> rfl

/-- A label names a value or a formula, so what it names is no label. -/
theorem not_isLabelOf_of_isLabelOf {p c : Cell} (label : p.isLabelOf c) (d : Cell) :
    c.isLabelOf d = false := by
  unfold isLabelOf at label ⊢
  by_cases value : c.value = []
  · by_cases formula : c.formula = []
    · simp [value, formula] at label
    · simp [formula]
  · simp [value]

/-- A description does not matter for what has a value or a formula. -/
theorem isLabelOf_labelled {p c : Cell} (label : p.isLabelOf c) (d : Cell) :
    (c.labelled (some p)).isLabelOf d = false :=
  not_isLabelOf_of_isLabelOf (p := p) (c := c.labelled (some p)) label d

end Cell

namespace Grid

/-! ## Rows by neighbours -/

/-- The cells of a row, each with the cells before and behind it, given the cell before the row. -/
def withNeighbours (previous : Option Cell) : List Cell → List (Option Cell × Cell × Option Cell)
  | [] => []
  | c :: cs => (previous, c, cs.head?) :: withNeighbours (some c) cs

/-- What becomes of a cell between its neighbours: it disappears if it is the label of the next
cell, and takes the description of the cell before if that is its label. -/
def resolve? : Option Cell × Cell × Option Cell → Option Cell
  | (previous, c, next) =>
    if next.any c.isLabelOf then none else some (c.labelled (previous.filter (·.isLabelOf c)))

/-- A row with its labels joined to the cells that they name. -/
def joined (row : List Cell) : List Cell := (withNeighbours none row).filterMap resolve?

theorem filterMap_resolve?_cons (previous : Option Cell) (c : Cell) (cs : List Cell) :
    (withNeighbours previous (c :: cs)).filterMap resolve? =
      (if cs.head?.any c.isLabelOf then []
        else [c.labelled (previous.filter (·.isLabelOf c))]) ++
        (withNeighbours (some c) cs).filterMap resolve? := by
  rw [withNeighbours, List.filterMap_cons, resolve?]
  by_cases next : cs.head?.any c.isLabelOf <;> simp [next]

theorem keys_filterMap_resolve? (previous : Option Cell) (row : List Cell) :
    (((withNeighbours previous row).filterMap resolve?).map (·.key)).Sublist
      (row.map (·.key)) := by
  induction row generalizing previous with
  | nil => exact .slnil
  | cons c cs ih =>
    rw [filterMap_resolve?_cons]
    split
    · exact (ih _).cons _
    · simpa using ih (some c)

/-- Joining labels leaves cells out but brings in no keys. -/
theorem keys_joined (row : List Cell) : ((joined row).map (·.key)).Sublist (row.map (·.key)) :=
  keys_filterMap_resolve? none row

/-! ## Steps of the layout -/

theorem putCell_of_not_mem {c : Cell} {cells : List Cell} (absent : c.key ∉ cells.map (·.key)) :
    putCell c cells = cells ++ [c] := by
  induction cells with
  | nil => rfl
  | cons d ds ih =>
    simp only [List.map_cons, List.mem_cons, not_or] at absent
    rw [putCell, if_neg (Ne.symm absent.1), ih absent.2]
    rfl

theorem cells_put {g : Grid} {c : Cell} (absent : c.key ∉ g.keys) :
    (g.put c).cells = g.cells ++ [c] :=
  putCell_of_not_mem absent

theorem cells_erase_last {g : Grid} {front : List Cell} {c : Cell} (placed : g.cells = front ++ [c])
    (absent : c.key ∉ front.map (·.key)) : (g.erase c.key).cells = front := by
  have others : ∀ d ∈ front, d.key ≠ c.key := by
    rintro d member same
    exact absent (List.mem_map.2 ⟨d, member, same⟩)
  simp only [erase, placed, List.filter_append, List.filter_eq_self.2 fun d member =>
    decide_eq_true (others d member)]
  simp

theorem addAfter_of_label (g : Grid) {p c : Cell} (label : p.isLabelOf c) (cs : List Cell) :
    addAfter g (some p) (c :: cs) =
      addAfter ((g.erase p.key).put (c.labelled (some p))) (some (c.labelled (some p))) cs := by
  have kept : (some p).filter (·.isLabelOf c) = some p := by simp [Option.filter, label]
  simp only [addAfter, kept]
  rfl

theorem addAfter_of_not_label (g : Grid) {p c : Cell} (other : p.isLabelOf c = false)
    (cs : List Cell) : addAfter g (some p) (c :: cs) = addAfter (g.put c) (some c) cs := by
  have dropped : (some p).filter (·.isLabelOf c) = none := by simp [Option.filter, other]
  simp only [addAfter, dropped]

theorem addAfter_none (g : Grid) (c : Cell) (cs : List Cell) :
    addAfter g none (c :: cs) = addAfter (g.put c) (some c) cs :=
  rfl

/-- Along a row the last cell of the grid is the cell before as it stands now. It may have taken a
label; then neither it nor the cell it was is a label. -/
theorem cells_addAfter {g : Grid} {front row : List Cell} {p now : Cell}
    (placed : g.cells = front ++ [now])
    (same : now = p ∨ ∀ c, p.isLabelOf c = false ∧ now.isLabelOf c = false)
    (distinct : ((front ++ now :: row).map (·.key)).Nodup) :
    (addAfter g (some now) row).cells =
      front ++ ((if row.head?.any p.isLabelOf then [] else [now]) ++
        (withNeighbours (some p) row).filterMap resolve?) := by
  induction row generalizing g front p now with
  | nil => simpa [addAfter, withNeighbours] using placed
  | cons c cs ih =>
    obtain ⟨nowApart, apart, differ⟩ : now.key ∉ front.map (·.key) ∧ c.key ∉ front.map (·.key) ∧
        c.key ≠ now.key := by
      simp only [List.map_append, List.map_cons, List.nodup_append, List.nodup_cons] at distinct
      refine ⟨fun member => distinct.2.2 _ member _ (by simp) rfl,
        fun member => distinct.2.2 _ member _ (by simp) rfl, ?_⟩
      intro equal
      exact distinct.2.1.1 (by simp [equal])
    cases label : now.isLabelOf c with
    | true =>
      obtain rfl : now = p := by
        rcases same with same | none
        · exact same
        · simp [(none c).2] at label
      have erased := cells_erase_last placed nowApart
      have added : ((g.erase now.key).put (c.labelled (some now))).cells =
          front ++ [c.labelled (some now)] := by
        rw [cells_put, erased]
        rwa [keys, erased, Cell.key_labelled]
      have fresh : ((front ++ c.labelled (some now) :: cs).map (·.key)).Nodup := by
        refine distinct.sublist ?_
        simp
      have rest := ih added (.inr fun d =>
        ⟨Cell.not_isLabelOf_of_isLabelOf label d, Cell.isLabelOf_labelled label d⟩) fresh
      rw [addAfter_of_label g label, rest, filterMap_resolve?_cons]
      simp [label, Option.filter]
    | false =>
      have noLabel : p.isLabelOf c = false := by
        rcases same with rfl | none
        · exact label
        · exact (none c).1
      have added : (g.put c).cells = (front ++ [now]) ++ [c] := by
        rw [cells_put, placed]
        rw [keys, placed, List.map_append, List.mem_append]
        rintro (earlier | last)
        · exact apart earlier
        · exact differ (List.mem_singleton.1 last)
      have fresh : (((front ++ [now]) ++ c :: cs).map (·.key)).Nodup := by simpa using distinct
      have rest := ih added (.inl rfl) fresh
      rw [addAfter_of_not_label g label, rest, filterMap_resolve?_cons]
      simp [noLabel, Option.filter, Cell.labelled]

/-- A row adds its joined cells behind those of the grid. -/
theorem cells_addRow {g : Grid} {row : List Cell}
    (distinct : ((g.cells ++ row).map (·.key)).Nodup) :
    (addRow g row).cells = g.cells ++ joined row := by
  cases row with
  | nil => simp [addRow, addAfter, joined, withNeighbours]
  | cons c cs =>
    have absent : c.key ∉ g.keys := by
      intro member
      rw [List.map_append, List.nodup_append] at distinct
      exact distinct.2.2 _ member _ (by simp) rfl
    have rest := cells_addAfter (cells_put absent) (.inl rfl) distinct
    rw [addRow, addAfter_none, rest, joined, filterMap_resolve?_cons]
    rfl

/-- Rows one after another add their joined cells in order. -/
theorem cells_addRows {g : Grid} {rows : List (List Cell)}
    (distinct : ((g.cells ++ rows.flatten).map (·.key)).Nodup) :
    (rows.foldl addRow g).cells = g.cells ++ rows.flatMap joined := by
  induction rows generalizing g with
  | nil => simp
  | cons row rows ih =>
    have first : (addRow g row).cells = g.cells ++ joined row := by
      refine cells_addRow (distinct.sublist ?_)
      rw [List.flatten_cons, ← List.append_assoc]
      exact (List.sublist_append_left _ _).map _
    have fresh : (((addRow g row).cells ++ rows.flatten).map (·.key)).Nodup := by
      refine distinct.sublist ?_
      simp only [first, List.flatten_cons, List.map_append, List.append_assoc]
      exact (List.Sublist.refl _).append ((keys_joined row).append (List.Sublist.refl _))
    rw [List.foldl_cons, ih fresh, first, List.flatMap_cons, List.append_assoc]

/-! ## Labels that are taken out -/

/-- Takes the cell with a key out of a grid; there must be one. -/
def remove? (g : Grid) (key : Text) : Option Grid :=
  if key ∈ g.keys then some (g.erase key) else none

/-- Adds the cells of a row, and fails where a label is not there to be taken out. -/
def addAfter? (g : Grid) (previous : Option Cell) : List Cell → Option Grid
  | [] => some g
  | c :: cs =>
    match previous.filter (·.isLabelOf c) with
    | some label => do
      let rest ← g.remove? label.key
      addAfter? (rest.put (c.labelled (some label))) (some (c.labelled (some label))) cs
    | none => addAfter? (g.put c) (some c) cs

theorem key_mem_put (g : Grid) (c : Cell) : c.key ∈ (g.put c).keys := by
  simp only [keys, put, keys_putCell]
  split
  · assumption
  · simp

/-- The cell before stands in the grid, so no label is missing. -/
theorem addAfter?_eq {g : Grid} {previous : Option Cell} (placed : ∀ p ∈ previous, p.key ∈ g.keys)
    (row : List Cell) : addAfter? g previous row = some (addAfter g previous row) := by
  induction row generalizing g previous with
  | nil => rfl
  | cons c cs ih =>
    have next : ∀ (h : Grid) (d : Cell), ∀ p ∈ some d, p.key ∈ (h.put d).keys := by
      rintro h d p ⟨⟩
      exact key_mem_put h d
    unfold addAfter? addAfter
    cases tried : previous.filter (·.isLabelOf c) with
    | none => exact ih (next g c)
    | some label =>
      have present : label.key ∈ g.keys := placed label (Option.eq_some_of_filter_eq_some tried)
      simp only [remove?, if_pos present, Option.bind_eq_bind, Option.bind_some]
      exact ih (next _ _)

theorem addRows?_eq (g : Grid) (rows : List (List Cell)) :
    rows.foldlM (fun g row => addAfter? g none row) g = some (rows.foldl addRow g) := by
  induction rows generalizing g with
  | nil => rfl
  | cons row rows ih =>
    rw [List.foldlM_cons, addAfter?_eq (by simp), Option.bind_eq_bind, Option.bind_some, ih]
    rfl

end Grid

/-! ## The grid of a workbook -/

/-- The cells of a workbook in order. -/
def Book.cells (b : Book) : List BookCell := b.sheets.flatMap fun s => s.rows.flatten

namespace Grid

theorem fst_offsets (ss : List Sheet) : (offsets ss).map (·.1) = ss := by
  have after : ∀ (ss : List Sheet) (reached : Int), (offsetsAfter reached ss).map (·.1) = ss := by
    intro ss
    induction ss with
    | nil => simp [offsetsAfter]
    | cons s ss ih => simp [offsetsAfter, ih]
  cases ss with
  | nil => rfl
  | cons s ss => simp [offsets, after]

theorem flatten_placedRows (b : Book) : (placedRows b).flatten.map (·.1) = b.cells := by
  have whole : b.cells = ((offsets b.sheets).map (·.1)).flatMap fun s => s.rows.flatten := by
    rw [fst_offsets, Book.cells]
  rw [whole, placedRows]
  induction offsets b.sheets with
  | nil => rfl
  | cons placed rest ih =>
    simp [List.flatMap_cons, ih, List.map_flatten, Function.comp_def]

/-- Every cell is read under the key of its place. -/
theorem Reads.keys {b : Book} {rows : List (List Cell)} (reads : Reads b rows) :
    rows.flatten.map (·.key) =
      b.cells.map fun d => SheetKeys.keyAt ⟨b.sheetNames⟩ d.coordinate d.sheet := by
  have each := List.rel_flatten reads
  rw [← flatten_placedRows, List.map_map]
  generalize (placedRows b).flatten = ds, rows.flatten = cs at each
  induction each with
  | nil => rfl
  | cons first _ ih =>
    simp [ih, (place_of_ofBook first).1]

/-- The grid of a workbook whose cells have different keys, by neighbours. Its cells are those of
the workbook as they are read, each in its column of the plane, and in their order; from a row those
disappear that are labels of the next cell, which takes the description of its label and keeps all
else. A label that is taken out is there to be taken out, and a cell that has taken a label is
none. -/
theorem cells_of_build {b : Book} {built : Built} (ok : build b = .ok built)
    (distinct : (b.cells.map fun d =>
      SheetKeys.keyAt ⟨b.sheetNames⟩ d.coordinate d.sheet).Nodup) :
    ∃ rows, Reads b rows ∧
      built.grid.cells = rows.flatMap joined ∧
      rows.foldlM (fun g row => addAfter? g none row) (empty b.sheetNames) = some built.grid ∧
      ∀ p c d : Cell, p.isLabelOf c → (c.labelled (some p)).isLabelOf d = false := by
  obtain ⟨rows, read, ok⟩ := Except.bind_eq_ok.1 ok
  cases ok
  have reads := reads_of_readRows read
  refine ⟨rows, reads, ?_, addRows?_eq _ _, fun p c d label => Cell.isLabelOf_labelled label d⟩
  rw [← reads.keys] at distinct
  exact cells_addRows (g := empty b.sheetNames) distinct

/-- Two texts in front of a number, a text in front of a formula in the next sheet. -/
def twoLabels : Book :=
  ⟨[⟨"S", [[⟨"S", "A1", 1, 1, .text "a", none, true⟩, ⟨"S", "B1", 1, 2, .text "b", none, true⟩,
      ⟨"S", "C1", 1, 3, .int 5, none, true⟩]]⟩,
    ⟨"T", [[⟨"T", "A1", 1, 1, .text "c", none, true⟩,
      ⟨"T", "B1", 1, 2, .blank, some "S!C1*2", true⟩]]⟩]⟩

/-- The grid of the two sheets. The first text names a text, so it stays. -/
def joinedLabels : Grid :=
  ⟨[⟨"S!A1", [], "a", [], 1, 1, []⟩, ⟨"S!C1", "5", "b", [], 1, 3, []⟩,
    ⟨"T!B1", [], "c", "=$\x7bmetric:S!C1\x7d*2", 1, 6, []⟩], ["S", "T"]⟩

theorem cells_of_build_twoLabels :
    build twoLabels = .ok ⟨joinedLabels, []⟩ ∧
      (twoLabels.cells.map fun d =>
        SheetKeys.keyAt ⟨twoLabels.sheetNames⟩ d.coordinate d.sheet).Nodup ∧
      ∃ rows, Reads twoLabels rows ∧ joinedLabels.cells = rows.flatMap joined := by
  have ok : build twoLabels = .ok ⟨joinedLabels, []⟩ := by decide +kernel
  have distinct : (twoLabels.cells.map fun d =>
      SheetKeys.keyAt ⟨twoLabels.sheetNames⟩ d.coordinate d.sheet).Nodup := by decide +kernel
  obtain ⟨rows, reads, cells, -⟩ := cells_of_build ok distinct
  exact ⟨ok, distinct, rows, reads, cells⟩

end Grid
end CellGraph
