import CellGraph.Expr.Area

/-!
# What stands at the places of a sheet

A finite map from places, kept in reading order: row by row, each row from left to right. The last
thing put at a place counts, and the order in which places were filled leaves no trace.
-/

namespace CellGraph

/-- Reading order: from top to bottom, and in a row from left to right. -/
def Place.Before (p q : Place) : Prop := p.row < q.row ∨ p.row = q.row ∧ p.column < q.column

instance (p q : Place) : Decidable (p.Before q) := by unfold Place.Before; infer_instance

theorem Place.Before.trans {p q r : Place} (first : p.Before q) (second : q.Before r) :
    p.Before r := by
  unfold Place.Before at *; omega

theorem Place.Before.connex {p q : Place} (different : q ≠ p) (notBefore : ¬ p.Before q) :
    q.Before p := by
  have apart : ¬ (q.column = p.column ∧ q.row = p.row) := fun same =>
    different (by cases p; cases q; simp_all)
  unfold Place.Before at *; omega

/-- Things at different places, in reading order. -/
structure Places (α : Type) where
  items : List (Place × α)
  ordered : items.Pairwise fun a b => a.1.Before b.1

namespace Places
variable {α : Type}

def empty : Places α := ⟨[], .nil⟩

/-- Things in reading order with one more, or with one in the place of another. -/
def putItem (p : Place) (a : α) : List (Place × α) → List (Place × α)
  | [] => [(p, a)]
  | (q, b) :: rest =>
    if p.Before q then (p, a) :: (q, b) :: rest
    else if q = p then (p, a) :: rest
    else (q, b) :: putItem p a rest

theorem mem_putItem {p : Place} {a : α} {items : List (Place × α)} {x : Place × α}
    (h : x ∈ putItem p a items) : x = (p, a) ∨ x ∈ items := by
  induction items with
  | nil => simpa [putItem] using h
  | cons head rest ih =>
    obtain ⟨q, b⟩ := head
    rw [putItem] at h
    split at h
    · simpa using h
    · split at h
      · rcases List.mem_cons.1 h with h | h
        · exact .inl h
        · exact .inr (List.mem_cons_of_mem _ h)
      · rcases List.mem_cons.1 h with h | h
        · exact .inr (h ▸ List.mem_cons_self)
        · exact (ih h).imp id (List.mem_cons_of_mem _)

theorem ordered_putItem (p : Place) (a : α) {items : List (Place × α)}
    (h : items.Pairwise fun a b => a.1.Before b.1) :
    (putItem p a items).Pairwise fun a b => a.1.Before b.1 := by
  induction items with
  | nil => simp [putItem]
  | cons head rest ih =>
    obtain ⟨q, b⟩ := head
    obtain ⟨first, others⟩ := List.pairwise_cons.1 h
    rw [putItem]
    split
    · next before =>
      refine List.pairwise_cons.2 ⟨fun x isIn => ?_, h⟩
      rcases List.mem_cons.1 isIn with rfl | isIn
      · exact before
      · exact before.trans (first x isIn)
    · next notBefore =>
      split
      · next same => exact List.pairwise_cons.2 ⟨same ▸ first, others⟩
      · next different =>
        refine List.pairwise_cons.2 ⟨fun x isIn => ?_, ih others⟩
        rcases mem_putItem isIn with rfl | isIn
        · exact Place.Before.connex different notBefore
        · exact first x isIn

/-- Puts something at a place; what stood there is gone. -/
def put (s : Places α) (p : Place) (a : α) : Places α :=
  ⟨putItem p a s.items, ordered_putItem p a s.ordered⟩

def erase (s : Places α) (p : Place) : Places α :=
  ⟨s.items.filter (·.1 ≠ p), s.ordered.filter _⟩

/-- Puts something at a place or clears it. -/
def assign (s : Places α) (p : Place) : Option α → Places α
  | some a => s.put p a
  | none => s.erase p

/-- The result of assignments one after another. -/
def ofAssignments (assignments : List (Place × Option α)) : Places α :=
  assignments.foldl (fun s (p, a) => s.assign p a) empty

def inOrder {β : Type} : List (Place × β) → Bool
  | a :: b :: rest => decide (a.1.Before b.1) && inOrder (b :: rest)
  | _ => true

theorem pairwise_of_inOrder {β : Type} {items : List (Place × β)} (h : inOrder items = true) :
    items.Pairwise fun a b => a.1.Before b.1 := by
  fun_induction inOrder items with
  | case1 a b rest ih =>
    obtain ⟨before, others⟩ := Bool.and_eq_true_iff.1 h
    have before := of_decide_eq_true before
    have others := ih others
    refine List.pairwise_cons.2 ⟨fun x isIn => ?_, others⟩
    rcases List.mem_cons.1 isIn with rfl | isIn
    · exact before
    · exact before.trans ((List.pairwise_cons.1 others).1 x isIn)
  | case2 items short =>
    match items, short with
    | [], _ => exact .nil
    | [a], _ => exact List.pairwise_singleton _ a
    | a :: b :: rest, short => exact absurd rfl (short a b rest)

/-- The result of assignments one after another. Nothing has to be moved if they come in reading
order. -/
def ofCells (cells : List (Place × Option α)) : Places α :=
  if h : inOrder cells = true then
    ⟨cells.filterMap fun (p, a) => a.map (p, ·),
      (pairwise_of_inOrder h).filterMap _ fun a b before x isA y isB => by
        simp only [Option.map_eq_some_iff] at isA isB
        obtain ⟨_, _, rfl⟩ := isA
        obtain ⟨_, _, rfl⟩ := isB
        exact before⟩
  else ofAssignments cells

def find? (s : Places α) (p : Place) : Option α := (s.items.find? (·.1 = p)).map (·.2)

/-- Every thing changed where it stands. -/
def map {β : Type} (f : Place → α → β) (s : Places α) : Places β where
  items := s.items.map fun (p, a) => (p, f p a)
  ordered := s.ordered.map _ fun _ _ h => h

/-- The rows that are not empty, from top to bottom. -/
def rows (s : Places α) : List (List (Place × α)) :=
  s.items.splitBy fun a b => a.1.row = b.1.row

end Places
end CellGraph
