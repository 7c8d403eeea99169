import CellGraph.Proofs.Diagram.References
import CellGraph.Proofs.Grid.Cells

/-!
# Dependencies of a grid

The edges of the grid of a workbook are the references of its converted formulas: `edges_of_build`
puts together where the cells of the grid come from, what their formulas refer to, and the order in
which the edges are listed.
-/

namespace CellGraph

open Node (CleanAll)

/-! ## Formulas of cells -/

/-- The tree of a formula before its conversion: with an equals sign, without dollar signs. -/
def CellFormula.tree (formula : Text) : List Node :=
  Parser.parse (Text.without '$' ('=' :: formula))

theorem CellFormula.clean_tree (formula : Text) : CleanAll (tree formula) := by
  refine Parser.clean_parse fun member => ?_
  have kept := (List.mem_filter.1 member).2
  simp at kept

/-- A formula that is not empty is the written tree of the converted formula of a cell. -/
theorem CellFormula.exists_of_ofCell {k : SheetKeys} {d : BookCell} {c : Dialect.Converted}
    (ok : ofCell k d = .ok c) (some_char : c.formula ≠ []) :
    ∃ formula e, d.formula = some formula ∧ Dialect.convertTree (tree formula) = .ok e ∧
      c.formula = k.writeTree d.sheet e.nodes := by
  unfold ofCell at ok
  split at ok
  · cases ok
    exact absurd rfl some_char
  · cases ok
    exact absurd rfl some_char
  · next formula _ found =>
    split at ok
    · cases ok
      exact absurd rfl some_char
    · obtain ⟨e, converted, ok⟩ := Except.bind_eq_ok.1 ok
      cases ok
      exact ⟨formula, e, found, converted, rfl⟩

/-- What a cell of a grid that stems from a cell of the workbook has of it. -/
theorem Grid.Stems.formula {b : Book} {c : Cell} {d : BookCell} (stems : Stems b c d)
    (some_char : c.formula ≠ []) :
    ∃ formula e, d.formula = some formula ∧
      Dialect.convertTree (CellFormula.tree formula) = .ok e ∧
      c.formula = SheetKeys.writeTree ⟨b.sheetNames⟩ d.sheet e.nodes := by
  obtain ⟨s, offset, -, -, label, ok⟩ := stems
  obtain ⟨text, -, ok⟩ := Except.bind_eq_ok.1 ok
  obtain ⟨converted, formulaOk, ok⟩ := Except.bind_eq_ok.1 ok
  have same : converted.formula = c.formula := congrArg Cell.formula (Except.ok.inj ok)
  rw [← same] at some_char ⊢
  exact CellFormula.exists_of_ofCell formulaOk some_char

namespace Edge

/-! ## Edges of a grid -/

/-- The order in which edges are listed: by the place of the cell that depends, then by the place
of the other. -/
def Before (keys : List Text) (e f : Edge) : Prop :=
  keys.idxOf e.target < keys.idxOf f.target ∨
    e.target = f.target ∧ keys.idxOf e.source < keys.idxOf f.source

theorem references_nil : references [] = [] := by rw [references]

theorem mem_into {g : Grid} {c : Cell} {e : Edge} :
    e ∈ into g c ↔ e.target = c.key ∧ e.source ∈ references c.formula ∧ e.source ∈ g.keys ∧
      e.source ≠ c.key := by
  obtain ⟨source, target⟩ := e
  simp only [into, List.mem_map, List.mem_filter, Bool.and_eq_true, decide_eq_true_eq,
    List.contains_iff_mem, Edge.mk.injEq]
  constructor
  · rintro ⟨key, ⟨inGrid, other, inFormula⟩, rfl, rfl⟩
    exact ⟨rfl, inFormula, inGrid, other⟩
  · rintro ⟨rfl, inFormula, inGrid, other⟩
    exact ⟨source, ⟨inGrid, other, inFormula⟩, rfl, rfl⟩

theorem mem_ofGrid {g : Grid} {e : Edge} :
    e ∈ ofGrid g ↔ ∃ c ∈ g.cells, c.formula ≠ [] ∧ e.target = c.key ∧
      e.source ∈ references c.formula ∧ e.source ∈ g.keys ∧ e.source ≠ c.key := by
  simp only [ofGrid, List.mem_flatMap, mem_into]
  constructor
  · rintro ⟨c, member, target, inFormula, rest⟩
    refine ⟨c, member, ?_, target, inFormula, rest⟩
    intro empty
    rw [empty, references_nil] at inFormula
    simp at inFormula
  · rintro ⟨c, member, -, edge⟩
    exact ⟨c, member, edge⟩

/-- Edges lead from cells to cells. -/
theorem ends_mem_keys {g : Grid} {e : Edge} (drawn : e ∈ ofGrid g) :
    e.source ∈ g.keys ∧ e.target ∈ g.keys := by
  obtain ⟨c, member, -, target, -, known, -⟩ := mem_ofGrid.1 drawn
  exact ⟨known, target ▸ List.mem_map_of_mem member⟩

theorem pairwise_idxOf {keys : List Text} (nodup : keys.Nodup) :
    keys.Pairwise fun a b => keys.idxOf a < keys.idxOf b := by
  rw [List.pairwise_iff_getElem]
  intro i j hi hj less
  rwa [nodup.idxOf_getElem, nodup.idxOf_getElem]

/-- With different keys the edges stand in their order, so none stands twice. -/
theorem pairwise_ofGrid {g : Grid} (nodup : g.keys.Nodup) :
    (ofGrid g).Pairwise (Before g.keys) := by
  have ordered := pairwise_idxOf nodup
  rw [ofGrid, List.pairwise_flatMap]
  constructor
  · intro c _
    rw [into, List.pairwise_map]
    refine (ordered.sublist List.filter_sublist).imp ?_
    intro a b less
    exact .inr ⟨rfl, less⟩
  · rw [Grid.keys, List.pairwise_map] at ordered
    refine ordered.imp ?_
    intro c d less e inC f inD
    rw [mem_into] at inC inD
    left
    rw [inC.1, inD.1]
    exact less

theorem nodup_of_before {keys : List Text} {es : List Edge} (ordered : es.Pairwise (Before keys)) :
    es.Nodup := by
  refine ordered.imp ?_
  rintro e f (less | ⟨-, less⟩) rfl
  · exact lt_irrefl _ less
  · exact lt_irrefl _ less

/-- The edges of the grid of a workbook are the references of its converted formulas. Every cell
of the grid stems from a cell of the workbook; whatever cell it stems from, the keys read back from
its formula are those that the references of the converted tree mean on that cell's sheet. The edges
are all pairs of a key read back and the cell of the formula for which the key is another cell of
the grid, each pair once, by the place of the cell that depends and then of the other. -/
theorem edges_of_build {b : Book} {built : Grid.Built} (ok : Grid.build b = .ok built) :
    (∀ c ∈ built.grid.cells, ∃ d, Grid.Stems b c d) ∧
    (∀ c d, Grid.Stems b c d → c.formula ≠ [] →
      ∃ formula e, d.formula = some formula ∧
        Dialect.convertTree (CellFormula.tree formula) = .ok e ∧
        ∀ key, key ∈ references c.formula ↔
          key ∈ SheetKeys.meant ⟨b.sheetNames⟩ d.sheet e.nodes) ∧
    (∀ source target, ⟨source, target⟩ ∈ ofGrid built.grid ↔
      ∃ c ∈ built.grid.cells, c.formula ≠ [] ∧ target = c.key ∧
        source ∈ references c.formula ∧ source ∈ built.grid.keys ∧ source ≠ c.key) ∧
    (ofGrid built.grid).Nodup ∧
    (ofGrid built.grid).Pairwise (Before built.grid.keys) := by
  have ordered := pairwise_ofGrid (Grid.nodup_keys_build ok)
  refine ⟨fun c => Grid.stems_of_build ok, ?_, fun source target => mem_ofGrid,
    nodup_of_before ordered, ordered⟩
  intro c d stems some_char
  obtain ⟨formula, e, found, converted, written⟩ := stems.formula some_char
  refine ⟨formula, e, found, converted, fun key => ?_⟩
  have clean := Dialect.clean_convertTree (CellFormula.clean_tree formula) converted
  rw [written, references_writeTree _ _ clean]

/-- Two sheets with one cell each; the second cell depends on the first and names itself. -/
def twoSheets : Book :=
  ⟨[⟨"Q1", [[⟨"Q1", "A1", 1, 1, .int 1, none, true⟩]]⟩,
    ⟨"Q2", [[⟨"Q2", "B1", 1, 2, .int 3, some "q1!$A$1*2+B1", true⟩]]⟩]⟩

/-- The grid of the two sheets. -/
def twoCells : Grid :=
  ⟨[⟨"Q1!A1", "1", [], [], 1, 1, []⟩,
    ⟨"Q2!B1", "3", [], "=$\x7bmetric:Q1!A1\x7d*2+$\x7bmetric:Q2!B1\x7d", 1, 4, []⟩], ["Q1", "Q2"]⟩

theorem edges_of_build_twoSheets :
    Grid.build twoSheets = .ok ⟨twoCells, []⟩ ∧ ⟨"Q1!A1", "Q2!B1"⟩ ∈ ofGrid twoCells ∧
      ⟨"Q2!B1", "Q2!B1"⟩ ∉ ofGrid twoCells := by
  have ok : Grid.build twoSheets = .ok ⟨twoCells, []⟩ := by decide +kernel
  obtain ⟨-, -, edges, -, -⟩ := edges_of_build ok
  refine ⟨ok, (edges _ _).2 ⟨twoCells.cells[1], by decide, by decide, by decide, by decide +kernel,
    by decide, by decide⟩, ?_⟩
  intro loop
  obtain ⟨c, -, -, target, -, -, other⟩ := (edges _ _).1 loop
  exact other target

end Edge
end CellGraph
