import CellGraph.Proofs.Diagram.Flowchart
import CellGraph.Proofs.Diagram.Libraries

/-!
# Views of a grid

A grid is shown as a network, as an interactive page and as a flowchart. The edges are found by the
cell that depends and regrouped by the cell that is depended on; a page lists its nodes as the edges
meet them. No cell and no edge is lost or shown twice on any of these ways, whatever lawful libraries
make them (`views_of_grid`).
-/

namespace CellGraph

section Distinct

variable {α : Type} [BEq α] [LawfulBEq α]

theorem nodup_eraseDups (xs : List α) : xs.eraseDups.Nodup := by
  match xs with
  | [] => exact .nil
  | x :: xs =>
    rw [List.eraseDups_cons, List.nodup_cons]
    refine ⟨fun again => ?_, nodup_eraseDups _⟩
    have other := List.of_mem_filter (List.mem_eraseDups.1 again)
    simp at other
termination_by xs.length
decreasing_by exact Nat.lt_succ_of_le (List.length_filter_le _ _)

theorem eraseDups_of_nodup {xs : List α} (nodup : xs.Nodup) : xs.eraseDups = xs := by
  induction xs with
  | nil => rfl
  | cons x xs ih =>
    obtain ⟨absent, nodup⟩ := List.nodup_cons.1 nodup
    have others : xs.filter (fun y => !y == x) = xs := by
      refine List.filter_eq_self.2 fun y member => ?_
      have other : y ≠ x := fun same => absent (same ▸ member)
      simpa using other
    rw [List.eraseDups_cons, others, ih nodup]

end Distinct

/-! ## Networks -/

/-- The order in which a network lists its edges: by the place of the source, then by the place of
the cell that depends. -/
def Edge.BeforeBySource (keys : List Text) (e f : Edge) : Prop :=
  keys.idxOf e.source < keys.idxOf f.source ∨
    e.source = f.source ∧ keys.idxOf e.target < keys.idxOf f.target

namespace Network

variable {g : Grid} {e : Edge} {key : Text}

/-- Within a group the edges keep their order, which is by the cell that depends. -/
theorem pairwise_edges (nodup : g.keys.Nodup) :
    (ofGrid g).edges.Pairwise (Edge.BeforeBySource g.keys) := by
  rw [ofGrid, Edge.bySource, List.pairwise_flatMap]
  constructor
  · intro key _
    refine ((Edge.pairwise_ofGrid nodup).sublist List.filter_sublist).imp_of_mem ?_
    intro e f inGroup inGroup' before
    have source : e.source = key := by simpa using List.of_mem_filter inGroup
    have source' : f.source = key := by simpa using List.of_mem_filter inGroup'
    obtain less | ⟨-, less⟩ := before
    · exact .inr ⟨source.trans source'.symm, less⟩
    · rw [source, source'] at less
      exact absurd less (lt_irrefl _)
  · refine (Edge.pairwise_idxOf nodup).imp ?_
    intro a b less e inGroup f inGroup'
    have source : e.source = a := by simpa using List.of_mem_filter inGroup
    have source' : f.source = b := by simpa using List.of_mem_filter inGroup'
    left
    rwa [source, source']

theorem nodup_edges (nodup : g.keys.Nodup) : (ofGrid g).edges.Nodup := by
  refine (pairwise_edges nodup).imp ?_
  rintro e f (less | ⟨-, less⟩) rfl
  · exact lt_irrefl _ less
  · exact lt_irrefl _ less

/-- Grouped by source and grouped by target, the edges are the same ones. -/
theorem edges_perm (nodup : g.keys.Nodup) : (Edge.ofGrid g).Perm (ofGrid g).edges :=
  (List.perm_ext_iff_of_nodup (Edge.nodup_of_before (Edge.pairwise_ofGrid nodup))
    (nodup_edges nodup)).2 fun _ => mem_edges.symm

/-! ## Pages -/

/-- The ends of all edges, edge by edge. -/
def ends (n : Network) : List Text := GraphLibrary.ends n

theorem pageOrder_keys (g : Grid) :
    (ofGrid g).pageOrder = ((ofGrid g).ends ++ g.keys).eraseDups := by
  rw [pageOrder, keys_nodes]
  rfl

/-- A page lists the ends of the edges as they come, and then the cells that no edge meets. -/
theorem pageOrder_ofGrid (nodup : g.keys.Nodup) :
    (ofGrid g).pageOrder =
      (ofGrid g).ends.eraseDups ++ g.keys.filter fun key => key ∉ (ofGrid g).ends := by
  have isolated : g.keys.removeAll (ofGrid g).ends =
      g.keys.filter fun key => key ∉ (ofGrid g).ends := by
    refine List.filter_congr fun key _ => ?_
    simp
  rw [pageOrder_keys, List.eraseDups_append, isolated, eraseDups_of_nodup (nodup.filter _)]

theorem mem_pageOrder : key ∈ (ofGrid g).pageOrder ↔ key ∈ g.keys := by
  rw [pageOrder_keys, List.mem_eraseDups, List.mem_append]
  refine or_iff_right_of_imp fun met => ?_
  rw [← keys_nodes]
  exact closed_ofGrid g key met

theorem keys_page (g : Grid) (height : Text) :
    (page g height).nodes.map (·.key) = (ofGrid g).pageOrder :=
  keys_drawn (closed_ofGrid g)

theorem nodup_keys_page (g : Grid) (height : Text) :
    ((page g height).nodes.map (·.key)).Nodup := by
  rw [keys_page]
  exact nodup_eraseDups _

/-- A page shows the nodes of the network, in another order. -/
theorem nodes_page_perm (nodup : g.keys.Nodup) (height : Text) :
    (page g height).nodes.Perm (ofGrid g).nodes := by
  rw [← keys_nodes] at nodup
  refine (List.perm_ext_iff_of_nodup (nodup_keys_page g height).of_map nodup.of_map).2
    fun node => ?_
  constructor
  · exact LawfulPageLibrary.mem_drawnNodes (ofGrid g) node
  · intro member
    have known : node.key ∈ (page g height).nodes.map (·.key) := by
      rw [keys_page, mem_pageOrder, ← keys_nodes]
      exact List.mem_map_of_mem member
    obtain ⟨found, shown, same⟩ := List.mem_map.1 known
    have member' := LawfulPageLibrary.mem_drawnNodes (ofGrid g) found shown
    exact List.inj_on_of_nodup_map nodup member' member same ▸ shown

/-! ## Agreement -/

/-- The views of a grid of cells with different keys. The network lists the edges of the grid, each
once, by the place of the source and then by the place of the cell that depends. The page shows
every cell once, the ends of its edges in front of the cells that no edge meets, and has the edges
of the network in the order of the network. The flowchart is a first line and the lines of
`Flowchart.entries`, and those of them that draw an edge draw the edges of the network in some
order. This network and this page are those that any lawful pair of libraries makes. -/
theorem views_of_grid {g : Grid} (nodup : g.keys.Nodup) (height : Text) :
    (∀ e, e ∈ (ofGrid g).edges ↔ e ∈ Edge.ofGrid g) ∧
    (ofGrid g).edges.Nodup ∧
    (ofGrid g).edges.Pairwise (Edge.BeforeBySource g.keys) ∧
    (page g height).nodes.Perm (ofGrid g).nodes ∧
    ((page g height).nodes.map (·.key)).Perm g.keys ∧
    (page g height).nodes.map (·.key) =
      (ofGrid g).ends.eraseDups ++ (g.keys.filter fun key => key ∉ (ofGrid g).ends) ∧
    (page g height).edges = (ofGrid g).edges ∧
    Flowchart.ofGrid g = ("graph LR" : Text) ++
      ((Flowchart.entries g [] (Edge.ofGrid g)).map fun l => ("  " : Text) ++ l.text).flatMap
        ('\n' :: ·) ∧
    ((Flowchart.entries g [] (Edge.ofGrid g)).filterMap Flowchart.Line.edge?).Perm
      (ofGrid g).edges ∧
    ∀ (G : Type) [GraphLibrary G] [LawfulGraphLibrary G] [PageLibrary G] [LawfulPageLibrary G],
      GraphLibrary.nodes (GraphLibrary.ofGrid G g) = (ofGrid g).nodes ∧
      GraphLibrary.edges (GraphLibrary.ofGrid G g) = (ofGrid g).edges ∧
      PageLibrary.page height (GraphLibrary.ofGrid G g) = page g height := by
  have nodes := nodes_page_perm nodup height
  refine ⟨fun e => mem_edges, nodup_edges nodup, pairwise_edges nodup, nodes, ?_, ?_, rfl,
    Flowchart.ofGrid_eq g, ?_, ?_⟩
  · rw [← keys_nodes]
    exact nodes.map _
  · rw [keys_page, pageOrder_ofGrid nodup]
  · rw [Flowchart.edges_entries]
    exact edges_perm nodup
  · intro G _ _ _ _
    obtain ⟨sameNodes, sameEdges⟩ := GraphLibrary.ofGrid_eq (G := G) nodup
    exact ⟨sameNodes, sameEdges, PageLibrary.page_ofGrid nodup height⟩

/-- Two cells that depend on each other, one that both depend on, and one by itself. -/
def ring : Grid :=
  ⟨[⟨"A1", [], "a", "=$\x7bmetric:C1\x7d+$\x7bmetric:D1\x7d", 1, 1, []⟩,
    ⟨"B1", "1", "b", [], 1, 2, []⟩,
    ⟨"C1", [], "c", "=$\x7bmetric:A1\x7d+$\x7bmetric:D1\x7d", 1, 3, []⟩,
    ⟨"D1", "2", [], [], 1, 4, []⟩], []⟩

theorem views_of_ring :
    ring.keys.Nodup ∧ (ofGrid ring).edges = [⟨"A1", "C1"⟩, ⟨"C1", "A1"⟩, ⟨"D1", "A1"⟩, ⟨"D1", "C1"⟩] ∧
      Edge.ofGrid ring = [⟨"C1", "A1"⟩, ⟨"D1", "A1"⟩, ⟨"A1", "C1"⟩, ⟨"D1", "C1"⟩] ∧
      (page ring pageHeight).nodes.map (·.key) = ["A1", "C1", "D1", "B1"] ∧
      (page ring pageHeight).edges = (ofGrid ring).edges ∧
      PageLibrary.page pageHeight (GraphLibrary.ofGrid Network ring) = page ring pageHeight := by
  have nodup : ring.keys.Nodup := by decide
  have edges : (ofGrid ring).edges = [⟨"A1", "C1"⟩, ⟨"C1", "A1"⟩, ⟨"D1", "A1"⟩, ⟨"D1", "C1"⟩] := by
    decide +kernel
  obtain ⟨-, -, -, -, -, nodes, shown, -, -, lawful⟩ := views_of_grid nodup pageHeight
  refine ⟨nodup, edges, by decide +kernel, ?_, shown, (lawful Network).2.2⟩
  rw [nodes, ends, GraphLibrary.ends, show GraphLibrary.edges (ofGrid ring) = _ from edges]
  decide +kernel

end Network
end CellGraph
