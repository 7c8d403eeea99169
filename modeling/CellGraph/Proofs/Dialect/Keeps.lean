import CellGraph.Expr.Expand
import CellGraph.Proofs.Expr.Dependencies
import CellGraph.Proofs.Parsing.Tight

/-!
# Changes that keep dependencies

A node keeps another if it may stand in its place in a tight tree and names the same cells. Keeping
goes through brackets and arguments, so a change of the nodes of a tree from the leaves up keeps the
tree if each change of a single node does (`keeps_expandAll`). A tree that is read back from its text
is kept as well (`keeps_settleAll`).
-/

namespace CellGraph

namespace Node

/-! ## Places -/

/-- Operands that end by themselves and with which no range ends. -/
structure Compact (n : Node) : Prop where
  term : n.isTerm
  noRange : n.startsRange = false
  ended : ∀ t, n = .leaf t → t.Ended

theorem compact_group (body : List Node) (closed : Bool) : Compact (.group body closed) :=
  ⟨rfl, rfl, by simp⟩

theorem compact_call (name : Text) (args : List (List Node)) (closed : Bool) :
    Compact (.call name args closed) :=
  ⟨rfl, rfl, by simp⟩

theorem compact_leaf {t : Token} (operand : t.isOperand) (ended : t.Ended) : Compact (.leaf t) :=
  ⟨operand, rfl, by rintro _ ⟨⟩; exact ended⟩

/-- The second node may stand where the first one stood: it is the same, or both are operands. -/
def Replaces (n m : Node) : Prop := m = n ∨ n.isTerm ∧ m.Compact

theorem Replaces.refl (n : Node) : Replaces n n := .inl rfl

theorem Replaces.isTerm {n m : Node} (replaces : Replaces n m) : m.isTerm = n.isTerm := by
  rcases replaces with rfl | ⟨before, after⟩
  · rfl
  · rw [before, after.term]

theorem Replaces.trans {l m n : Node} (first : Replaces l m) (second : Replaces m n) :
    Replaces l n := by
  rcases second with rfl | ⟨before, after⟩
  · exact first
  · exact .inr ⟨first.isTerm ▸ before, after⟩

theorem isSpace_of_isTerm {n : Node} (term : n.isTerm) : n.isSpace = false := by
  cases n with
  | leaf t =>
    cases t with
    | space t => cases term
    | _ => rfl
  | _ => rfl

/-- A node that is no operand stays. -/
theorem Replaces.eq {n m : Node} (replaces : Replaces n m) (other : m.isTerm = false) : m = n := by
  rcases replaces with same | ⟨-, after⟩
  · exact same
  · rw [after.term] at other
    cases other

/-- So does a node with which a range may end. -/
theorem Replaces.eq_of_startsRange {n m : Node} (replaces : Replaces n m) (range : m.startsRange) :
    m = n := by
  rcases replaces with same | ⟨-, after⟩
  · exact same
  · rw [after.noRange] at range
    cases range

theorem Parted.replace {m n m' n' : Node} (parted : Parted m n) (first : Replaces m m')
    (second : Replaces n n') : Parted m' n' where
  terms := by rw [first.isTerm, second.isTerm]; exact parted.terms
  spaces := by
    rintro ⟨space, again⟩
    have other : ∀ {k : Node}, k.isSpace → k.isTerm = false := fun {k} space => by
      rw [Bool.eq_false_iff]
      intro term
      simp [isSpace_of_isTerm term] at space
    rw [first.eq (other space)] at space
    rw [second.eq (other again)] at again
    exact parted.spaces ⟨space, again⟩
  ended := by
    rintro t rfl
    rcases first with same | ⟨-, after⟩
    · exact parted.ended t same.symm
    · exact after.ended t rfl
  operators := by
    rintro t u rfl rfl
    exact parted.operators t u (first.eq rfl).symm (second.eq rfl).symm

/-! ## Nodes that keep others -/

/-- A tight node in the place of another, with the same cells. -/
structure Keeps (s : Site) (n m : Node) : Prop where
  tight : Tight s m
  replaces : Replaces n m
  cells : ∀ place, place ∈ m.cells ↔ place ∈ n.cells

/-- Nodes in the places of others. -/
abbrev KeepsAll (s : Site) (ns ms : List Node) : Prop := List.Forall₂ (Keeps s) ns ms

theorem Keeps.refl {s : Site} {n : Node} (tight : Tight s n) : Keeps s n n :=
  ⟨tight, .refl n, fun _ => Iff.rfl⟩

theorem Keeps.trans {s : Site} {l m n : Node} (first : Keeps s l m) (second : Keeps s m n) :
    Keeps s l n :=
  ⟨second.tight, first.replaces.trans second.replaces,
    fun place => (second.cells place).trans (first.cells place)⟩

/-- The nodes that were in the places of a reference and of what makes a range with it did so
already. -/
theorem joins_of_replaces {n m : Node} {ns ms : List Node} (first : Replaces n m)
    (rest : List.Forall₂ Replaces ns ms) (apart : joins n ns = false) : joins m ms = false := by
  rw [Bool.eq_false_iff]
  intro joined
  obtain ⟨r, k, behind, rfl, range, rfl⟩ := joins_eq_true joined
  obtain ⟨colon, _, sameColon, others, rfl⟩ := List.forall₂_cons_right_iff.1 rest
  obtain ⟨k', _, sameEnd, -, rfl⟩ := List.forall₂_cons_right_iff.1 others
  rw [← first.eq_of_startsRange rfl, ← sameColon.eq rfl, ← sameEnd.eq_of_startsRange range,
    joins_of_startsRange r range] at apart
  cases apart

/-- A tight sequence that names the same cells as another, of as many nodes or not. -/
structure Conserves (s : Site) (ns ms : List Node) : Prop where
  tight : TightAll s ms
  dependencies : ∀ place, place ∈ dependencies ms ↔ place ∈ dependencies ns

theorem Conserves.refl {s : Site} {ns : List Node} (tight : TightAll s ns) : Conserves s ns ns :=
  ⟨tight, fun _ => Iff.rfl⟩

theorem Conserves.trans {s : Site} {ls ms ns : List Node} (first : Conserves s ls ms)
    (second : Conserves s ms ns) : Conserves s ls ns :=
  ⟨second.tight, fun place => (second.dependencies place).trans (first.dependencies place)⟩

/-- Nodes that keep those of a tight sequence conserve it. -/
theorem KeepsAll.conserves {s : Site} {ns ms : List Node} (keeps : KeepsAll s ns ms)
    (tight : TightAll s ns) : Conserves s ns ms := by
  induction keeps with
  | nil => exact .refl trivial
  | @cons n m ns ms first rest ih =>
    obtain ⟨-, apart, parted, others⟩ := tight
    have behind := ih others
    have replaced : List.Forall₂ Replaces ns ms := rest.imp fun _ _ keeps => keeps.replaces
    refine ⟨⟨first.tight, joins_of_replaces first.replaces replaced apart, ?_, behind.tight⟩, ?_⟩
    · cases rest with
      | nil => simp
      | @cons n' m' ns ms second _ =>
        rintro k ⟨⟩
        exact (parted n' rfl).replace first.replaces second.replaces
    · simp [first.cells, behind.dependencies]

/-! ## Congruence -/

theorem Keeps.group {s : Site} {body body' : List Node} {closed : Bool}
    (conserves : Conserves .group body body') (tight : Tight s (.group body closed)) :
    Keeps s (.group body closed) (.group body' closed) where
  tight := ⟨tight.1, conserves.tight⟩
  replaces := .inr ⟨rfl, compact_group body' closed⟩
  cells := by simpa using conserves.dependencies

theorem Keeps.call {s : Site} {name : Text} {args args' : List (List Node)} {closed : Bool}
    (conserves : List.Forall₂ (Conserves .argument) args args')
    (tight : Tight s (.call name args closed)) :
    Keeps s (.call name args closed) (.call name args' closed) where
  tight := by
    obtain ⟨isClosed, named, some_arg, -⟩ := tight
    refine ⟨isClosed, named, ?_, tightArgs_iff.2 fun arg member => ?_⟩
    · rintro rfl
      cases conserves
      exact some_arg rfl
    · obtain ⟨_, -, related⟩ := exists_of_forall₂ conserves member
      exact related.tight
  replaces := .inr ⟨rfl, compact_call name args' closed⟩
  cells := by
    intro place
    rw [cells_call, cells_call]
    clear tight
    induction conserves with
    | nil => rfl
    | cons first _ ih => simp only [List.flatMap_cons, List.mem_append, first.dependencies, ih]

/-! ## Reading back -/

mutual

/-- What a node is read back as keeps it. -/
theorem keeps_settle : ∀ {n : Node} {s : Site}, Tight s n → Keeps s n n.settle
  | .leaf t, s, tight => by
    rcases t.settle_cases with same | ⟨w, rfl, read⟩
    · rw [settle, same]
      exact .refl tight
    · have whole := tight.1
      rw [read] at whole
      rw [settle, read]
      exact ⟨⟨whole, by cases s <;> rfl, fun _ => trivial⟩,
        .inr ⟨rfl, compact_leaf rfl trivial⟩, fun _ => Iff.rfl⟩
  | .ref _, _, tight | .range _ _, _, tight => .refl tight
  | .group _ _, _, tight => .group ((keeps_settleAll tight.2).conserves tight.2) tight
  | .call _ _ _, _, tight => .call (keeps_settleArgs tight.2.2.2) tight

theorem keeps_settleAll : ∀ {ns : List Node} {s : Site}, TightAll s ns →
    KeepsAll s ns (settleAll ns)
  | [], _, _ => .nil
  | _ :: _, _, ⟨tight, _, _, others⟩ => .cons (keeps_settle tight) (keeps_settleAll others)

theorem keeps_settleArgs : ∀ {args : List (List Node)}, TightArgs args →
    List.Forall₂ (Conserves .argument) args (settleArgs args)
  | [], _ => .nil
  | _ :: _, ⟨tight, others⟩ =>
    .cons ((keeps_settleAll tight).conserves tight) (keeps_settleArgs others)

end

/-! ## Changes from the leaves up -/

/-- A change of single nodes that gives for each tight node one that keeps it. -/
def Keeping (f : Node → Expansion) : Prop :=
  ∀ {n : Node} {s : Site}, Tight s n → ∃ m, (f n).nodes = [m] ∧ Keeps s n m

mutual

theorem keeps_expand {f : Node → Expansion} (keeping : Keeping f) : ∀ {n : Node} {s : Site},
    Tight s n → ∃ m, (expand f n).nodes = [m] ∧ Keeps s n m
  | .leaf _, _, tight | .ref _, _, tight | .range _ _, _, tight => keeping tight
  | .group _ _, _, tight => by
    have inner := Keeps.group ((keeps_expandAll keeping tight.2).conserves tight.2) tight
    obtain ⟨m, found, outer⟩ := keeping inner.tight
    exact ⟨m, found, inner.trans outer⟩
  | .call _ _ _, _, tight => by
    have inner := Keeps.call (keeps_expandArgs keeping tight.2.2.2) tight
    obtain ⟨m, found, outer⟩ := keeping inner.tight
    exact ⟨m, found, inner.trans outer⟩

/-- A change of single nodes keeps tight trees if it keeps tight nodes. -/
theorem keeps_expandAll {f : Node → Expansion} (keeping : Keeping f) : ∀ {ns : List Node} {s : Site},
    TightAll s ns → KeepsAll s ns (expandAll f ns).nodes
  | [], _, _ => .nil
  | n :: ns, _, ⟨tight, _, _, others⟩ => by
    obtain ⟨m, found, first⟩ := keeps_expand keeping tight
    have rest := keeps_expandAll keeping others
    rw [expandAll, found]
    exact .cons first rest

theorem keeps_expandArgs {f : Node → Expansion} (keeping : Keeping f) :
    ∀ {args : List (List Node)}, TightArgs args →
      List.Forall₂ (Conserves .argument) args (expandArgs f args).1
  | [], _ => .nil
  | _ :: _, ⟨tight, others⟩ =>
    .cons ((keeps_expandAll keeping tight).conserves tight) (keeps_expandArgs keeping others)

end

end Node
end CellGraph
