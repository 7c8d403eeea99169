import CellGraph.Model.Basic
import CellGraph.Proofs.Grid.Plane

/-!
# Layout of models

A model has one metric and one estimate for each cell of a grid. `laidOut_of_build` says that the
model of a workbook is well laid out: every metric has its own name and its own place, sheets lie
next to each other without touching, and the two together keep the whole label of their cell.
-/

namespace CellGraph

namespace Model

/-! ## Labels -/

/-- The label that a metric and its estimate keep between them. -/
def fullLabel (x : Metric) (e : Estimate) : Text :=
  if e.description ≠ [] then e.description else x.name

theorem description_ne_nil_of_isLong {c : Cell} (long : isLong c) : c.description ≠ [] := by
  intro empty
  simp [isLong, empty] at long

/-- A name may be cut, but then the estimate keeps the label. -/
theorem fullLabel_of_cell (c : Cell) : fullLabel (metricOf c) (estimateOf c) = c.description := by
  unfold fullLabel metricOf estimateOf
  by_cases long : isLong c
  · simp [long, description_ne_nil_of_isLong long]
  · simp [long]

theorem length_shorten_le (limit : Nat) (dots : 3 ≤ limit) (t : Text) :
    (Text.shorten limit t).length ≤ limit := by
  unfold Text.shorten
  split
  · have threeDots : ("..." : Text).length = 3 := rfl
    rw [List.length_append, List.length_take, threeDots]
    omega
  · omega

/-- The name of a metric with a value is short. -/
theorem length_name_le {c : Cell} (valued : c.value ≠ []) :
    (metricOf c).name.length ≤ nameLimit := by
  unfold metricOf
  by_cases long : isLong c
  · simpa [long] using length_shorten_le nameLimit (by decide) c.description
  · have short : c.description.length ≤ nameLimit := by
      simpa [isLong, valued] using long
    simpa [long] using short

/-! ## The model of a workbook -/

theorem keys_metrics (g : Grid) : (ofGrid g).metrics.map (·.id) = g.keys := by
  simp [ofGrid, Grid.keys, metricOf, Function.comp_def]

theorem keys_estimates (g : Grid) : (ofGrid g).estimates.map (·.metric) = g.keys := by
  simp [ofGrid, Grid.keys, estimateOf, Function.comp_def]

/-- Counting places from zero keeps them apart. -/
theorem nodup_places_metrics {g : Grid} (nodup : (g.cells.map fun c => (c.row, c.column)).Nodup) :
    ((ofGrid g).metrics.map fun x => (x.row, x.column)).Nodup := by
  have moved := nodup.map (f := fun place : Int × Int => (place.1 - 1, place.2 - 1)) ?_
  · simpa [ofGrid, metricOf, Function.comp_def] using moved
  · rintro ⟨r, c⟩ ⟨r', c'⟩ same
    simp only [Prod.mk.injEq] at same ⊢
    omega

/-- The model of a workbook whose sheets have their cells in different places, counted from one.
Metrics and estimates carry the keys of the grid in order, each key once. No two metrics stand in
one place, and none has a negative row or column. Every metric stands where a cell of the workbook
with its key stands, at least two columns to the right of all cells of all earlier sheets. The
labels of the grid can be read back from the pairs, and a cell with a value has a short name. -/
theorem laidOut_of_build {b : Book} {built : Grid.Built} (ok : Grid.build b = .ok built)
    (apart : ∀ s ∈ b.sheets, (s.rows.flatten.map fun d => (d.row, d.column)).Nodup)
    (counted : ∀ d ∈ b.cells, 1 ≤ d.row ∧ 1 ≤ d.column) :
    (ofGrid built.grid).metrics.map (·.id) = built.grid.keys ∧
    (ofGrid built.grid).estimates.map (·.metric) = built.grid.keys ∧
    built.grid.keys.Nodup ∧
    ((ofGrid built.grid).metrics.map fun x => (x.row, x.column)).Nodup ∧
    (∀ x ∈ (ofGrid built.grid).metrics, 0 ≤ x.row ∧ 0 ≤ x.column) ∧
    (∀ x ∈ (ofGrid built.grid).metrics, ∃ j d, Grid.StandsAt b j d (x.column + 1) ∧
      d.row = x.row + 1 ∧ SheetKeys.keyAt ⟨b.sheetNames⟩ d.coordinate d.sheet = x.id ∧
      ∀ i < j, ∀ c p, Grid.StandsAt b i c p → p + 2 ≤ x.column + 1) ∧
    List.zipWith fullLabel (ofGrid built.grid).metrics (ofGrid built.grid).estimates =
      built.grid.cells.map (·.description) ∧
    List.Forall₂ (fun c x => c.value ≠ [] → x.name.length ≤ 20) built.grid.cells
      (ofGrid built.grid).metrics := by
  have places := Grid.nodup_places_build ok apart fun d member => (counted d member).2
  refine ⟨keys_metrics _, keys_estimates _, Grid.nodup_keys_build ok, nodup_places_metrics places,
    ?_, ?_, ?_, ?_⟩
  · intro x member
    obtain ⟨c, inGrid, rfl⟩ := List.mem_map.1 member
    obtain ⟨i, d, ⟨s, offset, found, -, column⟩, inBook, row, -⟩ := Grid.exists_standsAt ok inGrid
    have moved := Grid.offset_nonneg (List.mem_of_getElem? found)
    have atLeast := counted d inBook
    simp only [metricOf] at moved ⊢
    omega
  · intro x member
    obtain ⟨c, inGrid, rfl⟩ := List.mem_map.1 member
    obtain ⟨j, d, stands, inBook, row, key⟩ := Grid.exists_standsAt ok inGrid
    have column : (metricOf c).column + 1 = c.column := by simp [metricOf]
    rw [column]
    refine ⟨j, d, stands, by simp [metricOf, row], key.symm, ?_⟩
    intro i earlier e p first
    exact Grid.standsAt_right earlier first stands (counted d inBook).2
  · simp [ofGrid, List.zipWith_map, fullLabel_of_cell]
  · exact List.forall₂_map_right_iff.2 (List.forall₂_same.2 fun c _ => length_name_le)

/-- Three sheets, the second empty. The first and the third share the key of a cell, and in the
first a long label names a number. -/
def sharedKeys : Book :=
  ⟨[⟨"a-b", [[⟨"a-b", "A1", 1, 1, .int 1, none, true⟩],
      [⟨"a-b", "A2", 2, 1, .text "Revenue of the whole year", none, true⟩,
        ⟨"a-b", "B2", 2, 2, .int 5, none, true⟩]]⟩,
    ⟨"x", []⟩, ⟨"ab", [[⟨"ab", "A1", 1, 1, .int 7, none, true⟩]]⟩]⟩

/-- The cells of the three sheets: the last one has taken the place of the first. -/
def sharedKeysGrid : Grid :=
  ⟨[⟨"ab!A1", "7", [], [], 1, 4, []⟩,
    ⟨"ab!B2", "5", "Revenue of the whole year", [], 2, 2, []⟩], ["a-b", "x", "ab"]⟩

theorem laidOut_of_build_sharedKeys :
    (∃ built, Grid.build sharedKeys = .ok built ∧ built.grid = sharedKeysGrid) ∧
      (∀ s ∈ sharedKeys.sheets, (s.rows.flatten.map fun d => (d.row, d.column)).Nodup) ∧
      (∀ d ∈ sharedKeys.cells, 1 ≤ d.row ∧ 1 ≤ d.column) ∧
      ((ofGrid sharedKeysGrid).metrics.map fun x => (x.row, x.column)).Nodup ∧
      List.zipWith fullLabel (ofGrid sharedKeysGrid).metrics (ofGrid sharedKeysGrid).estimates =
        [[], "Revenue of the whole year"] := by
  have apart : ∀ s ∈ sharedKeys.sheets,
      (s.rows.flatten.map fun d => (d.row, d.column)).Nodup := by decide
  have counted : ∀ d ∈ sharedKeys.cells, 1 ≤ d.row ∧ 1 ≤ d.column := by decide
  obtain ⟨built, ok, grid⟩ :
      ∃ built, Grid.build sharedKeys = .ok built ∧ built.grid = sharedKeysGrid :=
    ⟨⟨sharedKeysGrid, (⟨sharedKeys.sheetNames⟩ : SheetKeys).collisions.map (·.message)⟩,
      by decide +kernel, rfl⟩
  have laidOut := laidOut_of_build ok apart counted
  rw [grid] at laidOut
  obtain ⟨-, -, -, places, -, -, labels, -⟩ := laidOut
  exact ⟨⟨built, ok, grid⟩, apart, counted, places, labels⟩

end Model
end CellGraph
