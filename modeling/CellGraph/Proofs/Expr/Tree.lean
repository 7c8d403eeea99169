import CellGraph.Expr.Tree
import Mathlib.Data.List.Forall2

/-!
# Nodes inside trees

Which nodes and sequences a traversal meets, where the nodes of an argument come from, and what
a list of partial results has to do with the list it is made from.
-/

namespace CellGraph

/-! ## Lists of partial results -/

variable {α β ε : Type}

theorem Option.forall₂_of_mapM {f : α → Option β} {xs : List α} {ys : List β}
    (found : xs.mapM f = some ys) : List.Forall₂ (fun x y => f x = some y) xs ys := by
  induction xs generalizing ys with
  | nil =>
    simp only [List.mapM_nil, Option.pure_def, Option.some.injEq] at found
    subst found
    exact .nil
  | cons x xs ih =>
    simp only [List.mapM_cons, Option.bind_eq_bind, Option.pure_def, Option.bind_eq_some_iff,
      Option.some.injEq] at found
    obtain ⟨y, first, ys', rest, rfl⟩ := found
    exact .cons first (ih rest)

theorem Option.exists_mapM_eq_some {f : α → Option β} {xs : List α} :
    (∃ ys, xs.mapM f = some ys) ↔ ∀ x ∈ xs, (f x).isSome := by
  induction xs with
  | nil => simp
  | cons x xs ih =>
    rw [List.forall_mem_cons, ← ih, Option.isSome_iff_exists]
    simp only [List.mapM_cons, Option.bind_eq_bind, Option.bind_eq_some_iff, Option.pure_def,
      Option.some.injEq]
    constructor
    · rintro ⟨_, y, first, ys, rest, -⟩
      exact ⟨⟨y, first⟩, ys, rest⟩
    · rintro ⟨⟨y, first⟩, ys, rest⟩
      exact ⟨_, y, first, ys, rest, rfl⟩

/-- Two computations one after another succeed if both do. -/
theorem Except.bind_eq_ok {x : Except ε α} {f : α → Except ε β} {y : β} :
    (x >>= f) = .ok y ↔ ∃ a, x = .ok a ∧ f a = .ok y := by
  cases x with
  | error e => simp [bind, Except.bind]
  | ok a => simp [bind, Except.bind]

theorem Except.exists_bind_eq_ok {x : Except ε α} {f : α → Except ε β} :
    (∃ y, (x >>= f) = .ok y) ↔ ∃ a, x = .ok a ∧ ∃ y, f a = .ok y := by
  simp only [bind_eq_ok]
  exact ⟨fun ⟨y, a, first, second⟩ => ⟨a, first, y, second⟩,
    fun ⟨a, first, y, second⟩ => ⟨y, a, first, second⟩⟩

theorem Except.map_eq_ok {x : Except ε α} {f : α → β} {y : β} :
    x.map f = .ok y ↔ ∃ a, x = .ok a ∧ f a = y := by
  cases x <;> simp [Except.map]

/-- Computations of a list succeed if each one does. -/
theorem Except.exists_mapM_eq_ok {f : α → Except ε β} {xs : List α} :
    (∃ ys, xs.mapM f = .ok ys) ↔ ∀ x ∈ xs, ∃ y, f x = .ok y := by
  induction xs with
  | nil => exact ⟨by simp, fun _ => ⟨[], rfl⟩⟩
  | cons x xs ih =>
    simp only [List.mapM_cons, exists_bind_eq_ok, List.forall_mem_cons, ← ih]
    constructor
    · rintro ⟨y, first, ys, rest, -⟩
      exact ⟨⟨y, first⟩, ys, rest⟩
    · rintro ⟨⟨y, first⟩, ys, rest⟩
      exact ⟨y, first, ys, rest, _, rfl⟩

theorem Except.forall₂_of_mapM {f : α → Except ε β} {xs : List α} {ys : List β}
    (found : xs.mapM f = .ok ys) : List.Forall₂ (fun x y => f x = .ok y) xs ys := by
  induction xs generalizing ys with
  | nil =>
    simp only [List.mapM_nil] at found
    cases found
    exact .nil
  | cons x xs ih =>
    simp only [List.mapM_cons, Except.bind_eq_ok] at found
    obtain ⟨y, first, ys', rest, whole⟩ := found
    cases whole
    exact .cons first (ih rest)

/-- A computation of a list of which each one succeeds gives all their results. -/
theorem Except.mapM_eq_ok_map {f : α → Except ε β} {g : α → β} {xs : List α}
    (each : ∀ x ∈ xs, f x = .ok (g x)) : xs.mapM f = .ok (xs.map g) := by
  induction xs with
  | nil => rfl
  | cons x xs ih =>
    obtain ⟨first, others⟩ := List.forall_mem_cons.1 each
    rw [List.mapM_cons, first, ih others]
    rfl

theorem exists_of_forall₂ {R : α → β → Prop} {xs : List α} {ys : List β}
    (related : List.Forall₂ R xs ys) {y : β} (member : y ∈ ys) : ∃ x ∈ xs, R x y := by
  induction related with
  | nil => simp at member
  | cons first _ ih =>
    rcases List.mem_cons.1 member with rfl | later
    · exact ⟨_, by simp, first⟩
    · obtain ⟨x, inside, holds⟩ := ih later
      exact ⟨x, List.mem_cons_of_mem _ inside, holds⟩

/-! ## Nodes -/

namespace Node

theorem mem_walkAll {m : Node} {ns : List Node} :
    m ∈ walkAll ns ↔ ∃ n ∈ ns, m ∈ walk n := by
  induction ns with
  | nil => simp [walkAll]
  | cons n ns ih => simp [walkAll, ih]

theorem mem_walkArgs {m : Node} {args : List (List Node)} :
    m ∈ walkArgs args ↔ ∃ arg ∈ args, ∃ n ∈ arg, m ∈ walk n := by
  induction args with
  | nil => simp [walkArgs]
  | cons arg args ih => simp [walkArgs, ih, mem_walkAll]

theorem mem_of_sole? {n : Node} {ns : List Node} (alone : sole? ns = some n) : n ∈ ns := by
  unfold sole? at alone
  split at alone
  · next m single =>
    cases alone
    have member : n ∈ solid ns := by simp [single]
    exact (List.mem_filter.1 member).1
  · simp at alone

/-- Inside a sequence with one node apart from white space there is white space, and what is inside
that node. -/
theorem mem_walkAll_of_solid {n m : Node} {ns : List Node} (single : solid ns = [n])
    (inside : m ∈ walkAll ns) : m.isSpace ∨ m ∈ walk n := by
  obtain ⟨k, member, within⟩ := mem_walkAll.1 inside
  by_cases space : k.isSpace
  · cases k with
    | leaf t =>
      obtain rfl := List.mem_singleton.1 within
      exact .inl space
    | _ => cases space
  · have isSolid : k ∈ solid ns := List.mem_filter.2 ⟨member, by simp [space]⟩
    rw [single, List.mem_singleton] at isSolid
    exact .inr (isSolid ▸ within)

/-- A single blank argument is none; all others stay. -/
theorem arguments_cases (args : List (List Node)) : arguments args = args ∨ arguments args = [] := by
  unfold arguments
  split
  · split
    · exact .inr rfl
    · exact .inl rfl
  · exact .inl rfl

theorem mem_of_mem_arguments {arg : List Node} {args : List (List Node)}
    (member : arg ∈ arguments args) : arg ∈ args := by
  unfold arguments at member
  split at member
  · split at member
    · simp at member
    · exact member
  · exact member

/-! ## Ranges -/

/-- The ends of the range that a sequence consists of, apart from white space. -/
def range? (ns : List Node) : Option (Ref × Ref) :=
  match sole? ns with
  | some (.range a b) => some (a, b)
  | _ => none

theorem range?_of_sole? {ns : List Node} {a b : Ref} (alone : sole? ns = some (.range a b)) :
    range? ns = some (a, b) := by
  simp [range?, alone]

theorem range?_of_solid {ns : List Node} {a b : Ref} (single : solid ns = [.range a b]) :
    range? ns = some (a, b) := by
  simp [range?, sole?, single]

theorem solid_of_range? {ns : List Node} {a b : Ref} (found : range? ns = some (a, b)) :
    solid ns = [.range a b] := by
  unfold range? at found
  split at found
  · next sole =>
    cases found
    unfold sole? at sole
    split at sole
    · next single =>
      cases sole
      exact single
    · cases sole
  · cases found

/-! ## Sequences -/

/-- The sequences directly inside a node: the body of a group, the arguments of a call. -/
def sequencesIn : Node → List (List Node)
  | .group body _ => [body]
  | .call _ args _ => args
  | _ => []

/-- A sequence of nodes and all sequences inside it, at any depth. -/
def sequences (ns : List Node) : List (List Node) := ns :: (walkAll ns).flatMap sequencesIn

variable {P : List Node → Prop}

theorem forall_sequences {ns : List Node} : (∀ s ∈ sequences ns, P s) ↔
    P ns ∧ ∀ n ∈ walkAll ns, ∀ s ∈ n.sequencesIn, P s := by
  simp only [sequences, List.forall_mem_cons, List.mem_flatMap, forall_exists_index, and_imp]
  exact and_congr_right fun _ => ⟨fun all n member s => all s n member,
    fun all s n member => all n member s⟩

end Node
end CellGraph
