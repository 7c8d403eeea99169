import CellGraph.Diagram.Libraries
import CellGraph.Proofs.Diagram.Dependencies
import Mathlib.Data.List.Nodup

/-!
# Networks from lawful libraries

Whatever library of graphs is used, as long as it is lawful, the network of a grid has the nodes and
the edges of `Network.ofGrid`, and whatever lawful library draws it, its page is that of
`Network.page`. `Network` itself is lawful.
-/

namespace CellGraph

/-- Members of a list whose keys are different are told apart by their keys. -/
theorem eq_of_map_eq {α β : Type} {f : α → β} {all xs ys : List α} (nodup : (all.map f).Nodup)
    (among : xs ⊆ all) (among' : ys ⊆ all) (same : xs.map f = ys.map f) : xs = ys := by
  induction xs generalizing ys with
  | nil => exact (List.map_eq_nil_iff.1 same.symm).symm
  | cons x xs ih =>
    obtain ⟨y, ys, rfl, sameKey, same⟩ := List.map_eq_cons_iff.1 same.symm
    obtain ⟨member, among⟩ := List.cons_subset.1 among
    obtain ⟨member', among'⟩ := List.cons_subset.1 among'
    rw [List.inj_on_of_nodup_map nodup member member' sameKey.symm, ih among among' same.symm]

namespace Edge

variable {keys : List Text} {edges : List Edge} {e : Edge}

theorem bySource_nil : bySource keys [] = [] := by simp [bySource]

theorem mem_bySource : e ∈ bySource keys edges ↔ e ∈ edges ∧ e.source ∈ keys := by
  simp only [bySource, List.mem_flatMap, List.mem_filter, decide_eq_true_eq]
  constructor
  · rintro ⟨_, known, member, rfl⟩
    exact ⟨member, known⟩
  · rintro ⟨member, known⟩
    exact ⟨_, known, member, rfl⟩

/-- The edges of one group are those from its source. -/
theorem filter_bySource (nodup : keys.Nodup) {key : Text} (known : key ∈ keys) :
    (bySource keys edges).filter (·.source = key) = edges.filter (·.source = key) := by
  induction keys with
  | nil => cases known
  | cons k keys ih =>
    obtain ⟨absent, nodup⟩ := List.nodup_cons.1 nodup
    rw [bySource, List.flatMap_cons, ← bySource, List.filter_append]
    by_cases here : k = key
    · subst here
      have noOther : (bySource keys edges).filter (·.source = k) = [] := by
        refine List.filter_eq_nil_iff.2 fun e member same => absent ?_
        exact of_decide_eq_true same ▸ (mem_bySource.1 member).2
      rw [noOther, List.append_nil, List.filter_filter]
      simp only [Bool.and_self]
    · have noneHere : (edges.filter (·.source = k)).filter (·.source = key) = [] := by
        refine List.filter_eq_nil_iff.2 fun e member same => here ?_
        have source : e.source = k := by simpa using List.of_mem_filter member
        exact source.symm.trans (of_decide_eq_true same)
      rw [noneHere, List.nil_append, ih nodup (List.mem_of_ne_of_mem (Ne.symm here) known)]

/-- Edges that are in groups already fall into the same groups. -/
theorem bySource_append (nodup : keys.Nodup) (edges others : List Edge) :
    bySource keys (bySource keys edges ++ others) = bySource keys (edges ++ others) := by
  refine List.flatMap_congr fun key known => ?_
  rw [List.filter_append, List.filter_append, filter_bySource nodup known]

end Edge

namespace GraphLibrary

variable {G : Type} [GraphLibrary G] [LawfulGraphLibrary G]

/-! ## Nodes and edges one after another -/

theorem nodes_addNodes (n : G) (xs : List NetworkNode)
    (new : (keys n ++ xs.map (·.key)).Nodup) :
    nodes (xs.foldl addNode n) = nodes n ++ xs ∧ edges (xs.foldl addNode n) = edges n := by
  induction xs generalizing n with
  | nil => exact ⟨(List.append_nil _).symm, rfl⟩
  | cons x xs ih =>
    have fresh : x.key ∉ keys n := fun known =>
      (List.nodup_append.1 new).2.2 _ known _ List.mem_cons_self rfl
    have nodes := LawfulGraphLibrary.nodes_addNode n x fresh
    have edges := LawfulGraphLibrary.edges_addNode n x fresh
    have keys : keys (addNode n x) = keys n ++ [x.key] := by
      rw [GraphLibrary.keys, nodes, List.map_append]
      rfl
    obtain ⟨nodes', edges'⟩ := ih (addNode n x) (by rw [keys]; simpa using new)
    exact ⟨by rw [List.foldl_cons, nodes', nodes]; simp, edges'.trans edges⟩

/-- Edges that are put in one after another are listed in groups, one group for each source. -/
theorem edges_addEdges (n : G) (before es : List Edge) (nodup : (keys n).Nodup)
    (listed : edges n = Edge.bySource (keys n) before) (distinct : (before ++ es).Nodup)
    (known : ∀ e ∈ es, e.source ∈ keys n ∧ e.target ∈ keys n) :
    nodes (es.foldl addEdge n) = nodes n ∧
      edges (es.foldl addEdge n) = Edge.bySource (keys n) (before ++ es) := by
  induction es generalizing n before with
  | nil => exact ⟨rfl, by rw [List.append_nil]; exact listed⟩
  | cons e es ih =>
    obtain ⟨⟨source, target⟩, others⟩ := List.forall_mem_cons.1 known
    have new : e ∉ edges n := by
      rw [listed, Edge.mem_bySource]
      rintro ⟨again, -⟩
      exact (List.nodup_append.1 distinct).2.2 _ again _ List.mem_cons_self rfl
    have nodes := LawfulGraphLibrary.nodes_addEdge n e source target
    have edges := LawfulGraphLibrary.edges_addEdge n e source target new
    have keys : keys (addEdge n e) = keys n := by rw [GraphLibrary.keys, nodes, GraphLibrary.keys]
    rw [listed, Edge.bySource_append nodup] at edges
    obtain ⟨nodes', edges'⟩ := ih (addEdge n e) (before ++ [e]) (by rwa [keys])
      (by rwa [keys]) (by simpa using distinct) (by rwa [keys])
    refine ⟨nodes'.trans nodes, ?_⟩
    rw [List.foldl_cons, edges', keys, List.append_assoc]
    rfl

end GraphLibrary

namespace Network

open GraphLibrary (keys ends isolated Closed)

variable {g : Grid} {e : Edge} {n : Network} {key : Text}

/-! ## The network of a grid -/

/-- No edge is lost when the edges are grouped by their source, as every source is a cell. -/
theorem mem_edges : e ∈ (ofGrid g).edges ↔ e ∈ Edge.ofGrid g :=
  Edge.mem_bySource.trans (and_iff_left_of_imp fun drawn => (Edge.ends_mem_keys drawn).1)

theorem keys_nodes (g : Grid) : (ofGrid g).nodes.map (·.key) = g.keys := by
  rw [ofGrid, List.map_map]
  rfl

theorem closed_ofGrid (g : Grid) : Closed (ofGrid g) := by
  intro key met
  obtain ⟨e, drawn, named⟩ := List.mem_flatMap.1 met
  obtain ⟨source, target⟩ := Edge.ends_mem_keys (mem_edges.1 drawn)
  have known : key ∈ g.keys := by
    rcases List.mem_pair.1 named with rfl | rfl
    · exact source
    · exact target
  rw [keys]
  exact keys_nodes g ▸ known

/-! ## `Network` as a library -/

theorem addNode_eq {x : NetworkNode} (new : x.key ∉ keys n) :
    addNode n x = { n with nodes := n.nodes ++ [x] } := by
  refine if_neg fun known => new ?_
  obtain ⟨y, member, same⟩ := List.any_eq_true.1 known
  exact List.mem_map.2 ⟨y, member, of_decide_eq_true same⟩

instance : LawfulGraphLibrary Network where
  nodes_empty := rfl
  edges_empty := rfl
  nodes_addNode n x new := congrArg nodes (addNode_eq new)
  edges_addNode n x new := by
    change (addNode n x).edges = n.edges
    rw [addNode_eq new]
  nodes_addEdge n e _ _ := by
    change (addEdge n e).nodes = n.nodes
    rw [addEdge]
    split <;> rfl
  edges_addEdge n e _ _ new := congrArg edges (if_neg new)

/-- The order of a page: what is met again among all nodes are the nodes that edges meet. -/
theorem pageOrder_eq (n : Network) : n.pageOrder = (ends n ++ isolated n).eraseDups := by
  have others : (keys n).removeAll (ends n) = (isolated n).removeAll (ends n) := by
    simp [isolated, List.removeAll]
  rw [List.eraseDups_append, ← others, ← List.eraseDups_append]
  rfl

/-- The node that a page takes for a key. -/
theorem find?_nodes (known : key ∈ keys n) :
    ∃ node ∈ n.nodes, node.key = key ∧ n.nodes.find? (·.key = key) = some node := by
  obtain ⟨node, member, same⟩ := List.mem_map.1 known
  have present : (n.nodes.find? (·.key = key)).isSome :=
    List.find?_isSome.2 ⟨node, member, by simpa using same⟩
  obtain ⟨found, first⟩ := Option.isSome_iff_exists.1 present
  exact ⟨found, List.mem_of_find?_eq_some first, by simpa using List.find?_some first, first⟩

theorem keys_drawn (closed : Closed n) : n.drawn.map (·.key) = n.pageOrder := by
  rw [drawn, List.map_filterMap]
  conv => rhs; rw [← List.filterMap_some (l := n.pageOrder)]
  refine List.filterMap_congr fun key listed => ?_
  have known : key ∈ keys n := by
    rcases List.mem_append.1 (List.mem_eraseDups.1 listed) with met | known
    · exact closed key met
    · exact known
  obtain ⟨node, -, same, first⟩ := find?_nodes known
  rw [first, Option.map_some, same]

instance : LawfulPageLibrary Network where
  mem_drawnNodes n x shown := by
    obtain ⟨key, -, first⟩ := List.mem_filterMap.1 shown
    exact List.mem_of_find?_eq_some first
  keys_drawnNodes n closed := (keys_drawn closed).trans (pageOrder_eq n)
  drawnEdges_eq n := rfl

end Network

/-! ## Grids in lawful libraries -/

section Lawful

open GraphLibrary

variable {G : Type} [GraphLibrary G] {g : Grid}

/-- A lawful library makes the network of a grid. -/
theorem GraphLibrary.ofGrid_eq [LawfulGraphLibrary G] (nodup : g.keys.Nodup) :
    nodes (ofGrid G g) = (Network.ofGrid g).nodes ∧
      edges (ofGrid G g) = (Network.ofGrid g).edges := by
  have cells : (g.cells.map Network.nodeOf).map (·.key) = g.keys := Network.keys_nodes g
  have noKeys : keys (empty : G) = [] := by
    rw [keys, LawfulGraphLibrary.nodes_empty, List.map_nil]
  obtain ⟨nodes, edges⟩ := nodes_addNodes (empty : G) (g.cells.map Network.nodeOf)
    (by rw [noKeys, cells]; exact nodup)
  rw [LawfulGraphLibrary.nodes_empty, List.nil_append] at nodes
  rw [LawfulGraphLibrary.edges_empty] at edges
  have keys : keys ((g.cells.map Network.nodeOf).foldl addNode (empty : G)) = g.keys := by
    rw [GraphLibrary.keys, nodes, cells]
  obtain ⟨nodes', edges'⟩ := edges_addEdges ((g.cells.map Network.nodeOf).foldl addNode (empty : G))
    [] (Edge.ofGrid g) (by rwa [keys]) (by rw [edges]; exact Edge.bySource_nil.symm)
    (Edge.nodup_of_before (Edge.pairwise_ofGrid nodup))
    (by rw [keys]; exact fun _ => Edge.ends_mem_keys)
  rw [keys] at edges'
  exact ⟨nodes'.trans nodes, edges'⟩

/-- A page is settled by the nodes and the edges of the graph that it shows. -/
theorem PageLibrary.page_eq [PageLibrary G] [LawfulPageLibrary G] {H : Type} [GraphLibrary H]
    [PageLibrary H] [LawfulPageLibrary H] {n : G} {n' : H} (sameNodes : nodes n = nodes n')
    (sameEdges : edges n = edges n') (nodup : (keys n').Nodup) (closed : Closed n')
    (height : Text) : page height n = page height n' := by
  have sameKeys : keys n = keys n' := by rw [keys, keys, sameNodes]
  have sameEnds : ends n = ends n' := by rw [ends, ends, sameEdges]
  have closed' : Closed n := by rwa [Closed, sameKeys, sameEnds]
  have shown := LawfulPageLibrary.mem_drawnNodes n
  rw [sameNodes] at shown
  have drawn : drawnNodes n = drawnNodes n' := by
    refine eq_of_map_eq nodup shown (LawfulPageLibrary.mem_drawnNodes n') ?_
    rw [LawfulPageLibrary.keys_drawnNodes n closed', LawfulPageLibrary.keys_drawnNodes n' closed,
      isolated, isolated, sameKeys, sameEnds]
  rw [page, page, drawn, LawfulPageLibrary.drawnEdges_eq, LawfulPageLibrary.drawnEdges_eq,
    sameEdges]

/-- Every lawful pair of libraries makes the same page of a grid. -/
theorem PageLibrary.page_ofGrid [LawfulGraphLibrary G] [PageLibrary G] [LawfulPageLibrary G]
    (nodup : g.keys.Nodup) (height : Text) :
    page height (GraphLibrary.ofGrid G g) = Network.page g height := by
  obtain ⟨nodes, edges⟩ := GraphLibrary.ofGrid_eq (G := G) nodup
  refine (page_eq (H := Network) nodes edges ?_ (Network.closed_ofGrid g) height).trans rfl
  rw [← Network.keys_nodes] at nodup
  exact nodup

end Lawful

end CellGraph
