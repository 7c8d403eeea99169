import CellGraph.Expr.Expand
import CellGraph.Proofs.Dialect.Proper

/-!
# Refinement of trees

One node refines another if it may stand in its place: it is proper, white space, signs and ranges
stay what they are, and it has every value that the other has. Refinement goes through brackets and
arguments, so a change of the nodes of a tree from the leaves up refines the tree if each change of a
single node does (`refines_expandAll`).
-/

namespace CellGraph

namespace Node

/-- What is fixed about a node: leaves and ranges are. -/
def outline : Node → Option Node
  | .leaf t => some (.leaf t)
  | .range a b => some (.range a b)
  | _ => none

/-- A proper node that may stand in the place of another. -/
structure Refines (n m : Node) : Prop where
  proper : m.Proper
  outline : m.outline = n.outline
  items : ∀ (v : Valuation) (is : List Item), items v n = some is → Node.items v m = some is

/-- Nodes that may stand in the places of others. -/
abbrev RefinesAll (ns ms : List Node) : Prop := List.Forall₂ Refines ns ms

theorem Refines.refl {n : Node} (proper : n.Proper) : Refines n n := ⟨proper, rfl, fun _ _ => id⟩

theorem Refines.trans {l m n : Node} (first : Refines l m) (second : Refines m n) :
    Refines l n :=
  ⟨second.proper, second.outline.trans first.outline,
    fun v is found => second.items v is (first.items v is found)⟩

theorem RefinesAll.refl {ns : List Node} (proper : ProperAll ns) : RefinesAll ns ns :=
  List.forall₂_same.2 fun n member => .refl ((properAll_iff.1 proper).1 n member)

theorem RefinesAll.trans {ls ms ns : List Node} (first : RefinesAll ls ms)
    (second : RefinesAll ms ns) : RefinesAll ls ns := by
  induction first generalizing ns with
  | nil => exact second
  | cons head _ ih =>
    cases second with
    | cons head' rest => exact .cons (head.trans head') (ih rest)

/-! ## What the outline fixes -/

theorem eq_of_outline {m n k : Node} (same : m.outline = n.outline) (fixed : n.outline = some k) :
    m = n := by
  cases n with
  | leaf t => cases m <;> simp_all [outline]
  | range a b => cases m <;> simp_all [outline]
  | ref r => cases fixed
  | group body closed => cases fixed
  | call name args closed => cases fixed

theorem operand_of_outline {n : Node} (free : n.outline = none) :
    n.isSpace = false ∧ n.isOperand = true := by
  cases n with
  | leaf t => cases free
  | range a b => cases free
  | _ => exact ⟨rfl, rfl⟩

theorem kind_of_outline {m n : Node} (same : m.outline = n.outline) :
    m.isSpace = n.isSpace ∧ m.isOperand = n.isOperand := by
  cases fixed : n.outline with
  | some k =>
    rw [eq_of_outline same fixed]
    exact ⟨rfl, rfl⟩
  | none =>
    have first := operand_of_outline (same.trans fixed)
    have second := operand_of_outline fixed
    rw [first.1, first.2, second.1, second.2]
    exact ⟨rfl, rfl⟩

theorem RefinesAll.isChain {ns ms : List Node} (refines : RefinesAll ns ms)
    (beside : ns.IsChain Beside) : ms.IsChain Beside := by
  induction refines with
  | nil => exact .nil
  | @cons n m ns ms first rest ih =>
    rw [List.isChain_cons] at beside ⊢
    refine ⟨?_, ih beside.2⟩
    cases rest with
    | nil => simp
    | @cons n' m' ns ms second rest =>
      rintro k ⟨⟩
      have before := beside.1 n' rfl
      unfold Beside at before ⊢
      rwa [(kind_of_outline first.outline).1, (kind_of_outline first.outline).2,
        (kind_of_outline second.outline).1, (kind_of_outline second.outline).2]

theorem RefinesAll.solid {ns ms : List Node} (refines : RefinesAll ns ms) :
    RefinesAll (solid ns) (solid ms) := by
  induction refines with
  | nil => exact .nil
  | @cons n m ns ms first rest ih =>
    have same := (kind_of_outline first.outline).1
    by_cases space : n.isSpace
    · simpa [Node.solid, same, space] using ih
    · simpa [Node.solid, same, space] using List.Forall₂.cons first ih

/-- A sequence is a range exactly if the one in its place is. -/
theorem RefinesAll.range? {ns ms : List Node} (refines : RefinesAll ns ms) :
    range? ms = range? ns := by
  have solids := refines.solid
  cases before : Node.range? ns with
  | some ends =>
    rw [solid_of_range? before] at solids
    obtain ⟨m, rest, first, nothing, whole⟩ := List.forall₂_cons_left_iff.1 solids
    cases nothing
    rw [eq_of_outline first.outline rfl] at whole
    exact range?_of_solid whole
  | none =>
    cases after : Node.range? ms with
    | none => rfl
    | some ends =>
      rw [solid_of_range? after] at solids
      obtain ⟨n, rest, first, nothing, whole⟩ := List.forall₂_cons_right_iff.1 solids
      cases nothing
      rw [eq_of_outline first.outline.symm rfl] at whole
      rw [range?_of_solid whole] at before
      cases before

/-! ## Congruence -/

variable {v : Valuation}

theorem RefinesAll.properAll {ns ms : List Node} (refines : RefinesAll ns ms)
    (proper : ProperAll ns) : ProperAll ms := by
  refine properAll_iff.2 ⟨?_, refines.isChain (properAll_iff.1 proper).2⟩
  intro m member
  obtain ⟨n, -, related⟩ := exists_of_forall₂ refines member
  exact related.proper

theorem RefinesAll.itemsAll {ns ms : List Node} (refines : RefinesAll ns ms) {is : List Item}
    (found : itemsAll v ns = some is) : itemsAll v ms = some is := by
  induction refines generalizing is with
  | nil => exact found
  | cons first _ ih =>
    obtain ⟨js, ks, head, rest, rfl⟩ := itemsAll_cons.1 found
    exact itemsAll_cons.2 ⟨js, ks, first.items v js head, ih rest, rfl⟩

theorem RefinesAll.value {ns ms : List Node} (refines : RefinesAll ns ms) {x : ℚ}
    (found : value v ns = some x) : value v ms = some x := by
  obtain ⟨is, inside, total⟩ := value_eq_some.1 found
  exact value_eq_some.2 ⟨is, refines.itemsAll inside, total⟩

theorem RefinesAll.argument {ns ms : List Node} (refines : RefinesAll ns ms) {x : Argument}
    (found : argument? v (Node.range? ns) (Node.value v ns) = some x) :
    argument? v (Node.range? ms) (Node.value v ms) = some x := by
  rw [refines.range?]
  cases range : Node.range? ns with
  | some ends => rwa [range] at found
  | none =>
    rw [range] at found
    obtain ⟨y, single, rfl⟩ := Option.map_eq_some_iff.1 found
    exact Option.map_eq_some_iff.2 ⟨y, refines.value single, rfl⟩

theorem argumentValues_of_refines {args args' : List (List Node)}
    (refines : List.Forall₂ RefinesAll args args') {xs : List Argument}
    (found : argumentValues v args = some xs) : argumentValues v args' = some xs := by
  induction refines generalizing xs with
  | nil => exact found
  | cons first _ ih =>
    obtain ⟨y, ys, head, rest, rfl⟩ := argumentValues_cons.1 found
    exact argumentValues_cons.2 ⟨y, ys, first.argument head, ih rest, rfl⟩

theorem Refines.group {body body' : List Node} (refines : RefinesAll body body')
    (proper : ProperAll body) : Refines (.group body true) (.group body' true) where
  proper := ⟨rfl, refines.properAll proper⟩
  outline := rfl
  items := by
    intro v is found
    obtain ⟨x, single, rfl⟩ := Option.map_eq_some_iff.1 found
    exact Option.map_eq_some_iff.2 ⟨x, refines.value single, rfl⟩

theorem Refines.call {name : Text} {args args' : List (List Node)}
    (refines : List.Forall₂ RefinesAll args args') (proper : Proper (.call name args true)) :
    Refines (.call name args true) (.call name args' true) where
  proper := by
    obtain ⟨-, named, some_arg, inside⟩ := proper
    refine ⟨rfl, named, ?_, properArgs_iff.2 fun arg member => ?_⟩
    · rintro rfl
      cases refines
      exact some_arg rfl
    · obtain ⟨old, inArgs, related⟩ := exists_of_forall₂ refines member
      exact related.properAll (properArgs_iff.1 inside old inArgs)
  outline := rfl
  items := by
    intro v is found
    simp only [Node.items, Option.bind_eq_bind, Option.bind_eq_some_iff] at found ⊢
    obtain ⟨f, known, xs, inside, result⟩ := found
    exact ⟨f, known, xs, argumentValues_of_refines refines inside, result⟩

/-! ## Changes from the leaves up -/

/-- A change of single nodes that gives each proper node one in its place. -/
def Handles (f : Node → Expansion) : Prop :=
  ∀ {n : Node}, n.Proper → ∃ m, (f n).nodes = [m] ∧ Refines n m

mutual

theorem refines_expand {f : Node → Expansion} (handles : Handles f) : ∀ {n : Node}, n.Proper →
    ∃ m, (expand f n).nodes = [m] ∧ Refines n m
  | .leaf _, proper | .ref _, proper | .range _ _, proper => handles proper
  | .group body closed, ⟨isClosed, proper⟩ => by
    subst isClosed
    have inner := Refines.group (refines_expandAll handles proper) proper
    obtain ⟨m, found, outer⟩ := handles inner.proper
    exact ⟨m, found, inner.trans outer⟩
  | .call name args closed, proper => by
    have ⟨isClosed, _, _, inside⟩ := proper
    subst isClosed
    have inner := Refines.call (refines_expandArgs handles inside) proper
    obtain ⟨m, found, outer⟩ := handles inner.proper
    exact ⟨m, found, inner.trans outer⟩

/-- A change of single nodes refines proper trees if it refines proper nodes. -/
theorem refines_expandAll {f : Node → Expansion} (handles : Handles f) : ∀ {ns : List Node},
    ProperAll ns → RefinesAll ns (expandAll f ns).nodes
  | [], _ => .nil
  | n :: ns, ⟨proper, _, others⟩ => by
    obtain ⟨m, found, first⟩ := refines_expand handles proper
    have rest := refines_expandAll handles others
    rw [expandAll, found]
    exact .cons first rest

theorem refines_expandArgs {f : Node → Expansion} (handles : Handles f) :
    ∀ {args : List (List Node)}, ProperArgs args →
      List.Forall₂ RefinesAll args (expandArgs f args).1
  | [], _ => .nil
  | _ :: _, ⟨proper, others⟩ =>
    .cons (refines_expandAll handles proper) (refines_expandArgs handles others)

end

end Node
end CellGraph
