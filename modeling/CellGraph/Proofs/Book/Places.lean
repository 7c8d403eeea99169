import CellGraph.Book.Places
import Mathlib.Data.List.Induction
import Mathlib.Data.List.Perm.Basic
import Mathlib.Data.List.SplitBy

/-!
# What is found at places

Of assignments one after another, the last one at a place counts (`find?_ofAssignments`). What is
found at every place determines all the rest (`ext_find?`), so no order of assignments can be told
from another with the same end. Rows are what reading order suggests: none is empty, the things in
one stand in one row of the sheet from left to right, and later rows stand below earlier ones.
-/

namespace CellGraph

theorem Place.Before.irrefl (p : Place) : ¬ p.Before p := by
  unfold Place.Before; omega

theorem Place.Before.ne {p q : Place} (before : p.Before q) : p ≠ q := by
  rintro rfl
  exact irrefl p before

namespace Places
variable {α : Type}

/-! ## Finding -/

theorem find?_putItem (p q : Place) (a : α) {items : List (Place × α)}
    (ordered : items.Pairwise fun a b => a.1.Before b.1) :
    (putItem p a items).find? (·.1 = q) = if p = q then some (p, a) else items.find? (·.1 = q) := by
  induction items with
  | nil => by_cases here : p = q <;> simp [putItem, here]
  | cons head rest ih =>
    obtain ⟨r, b⟩ := head
    obtain ⟨-, others⟩ := List.pairwise_cons.1 ordered
    rw [putItem]
    split
    · by_cases here : p = q <;> simp [here]
    · split
      · next same =>
        subst same
        by_cases here : r = q <;> simp [here]
      · next different =>
        simp only [List.find?_cons, ih others]
        by_cases here : r = q
        · simp [here, show p ≠ q from fun same => different (here.trans same.symm)]
        · simp [here]

@[simp] theorem find?_put (s : Places α) (p q : Place) (a : α) :
    (s.put p a).find? q = if p = q then some a else s.find? q := by
  simp only [find?, put, find?_putItem p q a s.ordered]
  split <;> rfl

@[simp] theorem find?_erase (s : Places α) (p q : Place) :
    (s.erase p).find? q = if p = q then none else s.find? q := by
  simp only [find?, erase, List.find?_filter, decide_eq_true_eq]
  by_cases same : p = q
  · subst same
    simp
  · have both : ∀ a : Place × α, a.1 ≠ p ∧ a.1 = q ↔ a.1 = q := fun a =>
      and_iff_right_of_imp fun there left => same (left.symm.trans there)
    simp only [both, if_neg same]

theorem find?_assign (s : Places α) (p q : Place) (a : Option α) :
    (s.assign p a).find? q = if p = q then a else s.find? q := by
  cases a with
  | none => exact find?_erase s p q
  | some a => exact find?_put s p q a

/-- The last assignment at a place counts. -/
theorem find?_ofAssignments (assignments : List (Place × Option α)) (p : Place) :
    (ofAssignments assignments).find? p =
      ((assignments.filter (·.1 = p)).getLast?).bind (·.2) := by
  unfold ofAssignments
  induction assignments using List.reverseRecOn with
  | nil => rfl
  | append_singleton earlier last ih =>
    rw [List.foldl_concat, find?_assign, List.filter_append, List.getLast?_append, ih]
    by_cases here : last.1 = p <;> simp [here]

/-- Things in reading order are found where they stand. -/
theorem mem_items {s : Places α} {p : Place} {a : α} : (p, a) ∈ s.items ↔ s.find? p = some a := by
  obtain ⟨items, ordered⟩ := s
  simp only [find?, Option.map_eq_some_iff]
  induction items with
  | nil => simp
  | cons head rest ih =>
    obtain ⟨first, others⟩ := List.pairwise_cons.1 ordered
    rw [List.mem_cons]
    by_cases here : head.1 = p
    · have notLater : (p, a) ∉ rest := fun later => (first _ later).ne here
      simp [here, notLater, Prod.ext_iff, eq_comm]
    · have notHead : (p, a) ≠ head := fun same => here (congrArg Prod.fst same.symm)
      simp [here, notHead, ih others]

theorem nodup_items (s : Places α) : s.items.Nodup :=
  s.ordered.imp fun before same => before.ne (congrArg Prod.fst same)

theorem items_inj {s t : Places α} : s.items = t.items ↔ s = t := by
  constructor
  · intro same
    cases s
    cases t
    cases same
    rfl
  · exact congrArg items

instance [DecidableEq α] : DecidableEq (Places α) := fun _ _ => decidable_of_iff _ items_inj

/-- The same things stand in the same order. -/
theorem ext_items {s t : Places α} (member : ∀ x, x ∈ s.items ↔ x ∈ t.items) : s = t := by
  have perm := (List.perm_ext_iff_of_nodup s.nodup_items t.nodup_items).2 member
  refine items_inj.1 (perm.eq_of_pairwise ?_ s.ordered t.ordered)
  exact fun a b _ _ before after => absurd (before.trans after) (Place.Before.irrefl _)

/-- What is found at every place determines all the rest. -/
theorem ext_find? {s t : Places α} (same : ∀ p, s.find? p = t.find? p) : s = t := by
  refine ext_items ?_
  rintro ⟨p, a⟩
  rw [mem_items, mem_items, same]

/-! ## Rows -/

theorem flatten_rows (s : Places α) : s.rows.flatten = s.items := List.flatten_splitBy _ _

theorem nil_notMem_rows (s : Places α) : [] ∉ s.rows := List.nil_notMem_splitBy _ _

/-- The things in one row stand in one row of the sheet. -/
theorem row_eq_of_mem_rows {s : Places α} {row : List (Place × α)} (member : row ∈ s.rows)
    {x y : Place × α} (left : x ∈ row) (right : y ∈ row) : x.1.row = y.1.row := by
  have chain := List.isChain_of_mem_splitBy member
  simp only [decide_eq_true_eq] at chain
  have pairs : (row.map (·.1.row)).Pairwise (· = ·) := ((List.isChain_map _).2 chain).pairwise
  exact pairs.forall_of_forall (fun _ _ => rfl) (List.mem_map_of_mem left)
    (List.mem_map_of_mem right)

theorem pairwise_column_of_mem_rows {s : Places α} {row : List (Place × α)}
    (member : row ∈ s.rows) : row.Pairwise fun x y => x.1.column < y.1.column := by
  have ordered := s.ordered
  rw [← flatten_rows, List.pairwise_flatten] at ordered
  refine (ordered.1 row member).imp_of_mem fun left right before => ?_
  have same := row_eq_of_mem_rows member left right
  unfold Place.Before at before
  omega

/-- A row stands above another one, which is not empty, so that this is transitive. -/
def Above (upper lower : List (Place × α)) : Prop :=
  lower ≠ [] ∧ ∀ x ∈ upper, ∀ y ∈ lower, x.1.row < y.1.row

instance : Trans (Above (α := α)) Above Above where
  trans := by
    rintro upper middle lower ⟨some_middle, first⟩ ⟨some_lower, second⟩
    refine ⟨some_lower, fun x inUpper z inLower => ?_⟩
    obtain ⟨y, inMiddle⟩ := List.exists_mem_of_ne_nil middle some_middle
    exact (first x inUpper y inMiddle).trans (second y inMiddle z inLower)

theorem pairwise_rows (s : Places α) : s.rows.Pairwise Above := by
  have ordered := s.ordered
  rw [← flatten_rows, List.pairwise_flatten] at ordered
  refine (List.isChain_iff_getElem.2 fun i inside => ?_).pairwise
  -- Next to each other, rows meet in two things of different rows of the sheet.
  obtain ⟨some_upper, some_lower, differ⟩ :=
    List.isChain_iff_getElem.1 (List.isChain_getLast_head_splitBy _ s.items) i inside
  refine ⟨some_lower, fun x inUpper y inLower => ?_⟩
  have last := row_eq_of_mem_rows (List.getElem_mem _) inUpper (List.getLast_mem some_upper)
  have head := row_eq_of_mem_rows (List.getElem_mem _) inLower (List.head_mem some_lower)
  have before := List.pairwise_iff_getElem.1 ordered.2 i (i + 1) (by omega) inside (by omega)
    x inUpper y inLower
  unfold Place.Before at before
  rw [decide_eq_false_iff_not] at differ
  omega

/-- Rows that hold the things in reading order, each of them those of one row of the sheet. -/
theorem rows_eq {s : Places α} {rows : List (List (Place × α))} (whole : rows.flatten = s.items)
    (noEmptyRow : [] ∉ rows)
    (oneRow : ∀ row ∈ rows, ∀ x ∈ row, ∀ y ∈ row, x.1.row = y.1.row)
    (apart : rows.Pairwise fun upper lower => ∀ x ∈ upper, ∀ y ∈ lower, x.1.row ≠ y.1.row) :
    s.rows = rows := by
  refine List.splitBy_eq_iff.2 ⟨whole.symm, noEmptyRow, fun row member => ?_, ?_⟩
  · refine List.Pairwise.isChain (List.pairwise_of_forall_mem_list fun x left y right => ?_)
    exact decide_eq_true (oneRow row member x left y right)
  · refine (apart.imp_of_mem fun inRows inRows' differ => ?_).isChain
    have some_upper := ne_of_mem_of_not_mem inRows noEmptyRow
    have some_lower := ne_of_mem_of_not_mem inRows' noEmptyRow
    exact ⟨some_upper, some_lower, decide_eq_false
      (differ _ (List.getLast_mem some_upper) _ (List.head_mem some_lower))⟩

theorem rows_map {β : Type} (s : Places α) (f : Place → α → β) :
    (s.map f).rows = s.rows.map (List.map fun x => (x.1, f x.1 x.2)) := by
  refine rows_eq ?_ ?_ ?_ ?_
  · rw [← List.map_flatten, flatten_rows]
    rfl
  · simpa using s.nil_notMem_rows
  · rw [List.forall_mem_map]
    intro row member x' left y' right
    obtain ⟨x, fromLeft, rfl⟩ := List.mem_map.1 left
    obtain ⟨y, fromRight, rfl⟩ := List.mem_map.1 right
    exact row_eq_of_mem_rows member fromLeft fromRight
  · rw [List.pairwise_map]
    refine s.pairwise_rows.imp fun above x' inUpper y' inLower => ?_
    obtain ⟨x, fromUpper, rfl⟩ := List.mem_map.1 inUpper
    obtain ⟨y, fromLower, rfl⟩ := List.mem_map.1 inLower
    exact Nat.ne_of_lt (above.2 x fromUpper y fromLower)

theorem find?_map {β : Type} (s : Places α) (f : Place → α → β) (p : Place) :
    (s.map f).find? p = (s.find? p).map (f p) := by
  simp only [find?, map, List.find?_map, Function.comp_def, Option.map_map]
  cases found : s.items.find? (·.1 = p) with
  | none => rfl
  | some x =>
    obtain rfl : x.1 = p := by simpa using List.find?_some found
    rfl

end Places
end CellGraph
