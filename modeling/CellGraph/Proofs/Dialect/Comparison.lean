import CellGraph.Proofs.Dialect.Value

/-!
# Values with comparisons

What a formula computes if it compares values. A comparison counts as one if it holds and as zero
if it does not. Relations bind loosest and are worked off from left to right, so a sequence of nodes
is a row of values of arithmetic with relations between them. A plus sign between two such rows joins
them: it binds closer than the relations on its two sides (`comparison?_plus`).
-/

namespace CellGraph

/-! ## Relations -/

inductive Relation where
  | equal
  | differs
  | less
  | atMost
  | more
  | atLeast
  deriving DecidableEq, Repr

namespace Relation

/-- The relation that an operator of a formula is. -/
def ofText? : Text → Option Relation
  | ['='] => some .equal
  | ['<', '>'] => some .differs
  | ['<'] => some .less
  | ['<', '='] => some .atMost
  | ['>'] => some .more
  | ['>', '='] => some .atLeast
  | _ => none

def holds : Relation → ℚ → ℚ → Bool
  | .equal, x, y => x = y
  | .differs, x, y => x ≠ y
  | .less, x, y => x < y
  | .atMost, x, y => x ≤ y
  | .more, x, y => y < x
  | .atLeast, x, y => y ≤ x

/-- What a comparison counts as. -/
def truth (r : Relation) (x y : ℚ) : ℚ := if r.holds x y then 1 else 0

theorem truth_eq (r : Relation) (x y : ℚ) : r.truth x y = 0 ∨ r.truth x y = 1 := by
  unfold truth
  split
  · exact .inr rfl
  · exact .inl rfl

end Relation

/-! ## Rows of values -/

/-- A value, and those that it is compared with, each with the relation in front of it. -/
structure Comparison where
  first : ℚ
  rest : List (Relation × ℚ)
  deriving DecidableEq

namespace Comparison

/-- A value that is compared with nothing. -/
def single (x : ℚ) : Comparison := ⟨x, []⟩

/-- The value of a row: its relations are worked off from left to right. -/
def value (c : Comparison) : ℚ := c.rest.foldl (fun x (r, y) => r.truth x y) c.first

/-- A row behind a value and a relation. -/
def behind (x : ℚ) (r : Relation) (c : Comparison) : Comparison := ⟨x, (r, c.first) :: c.rest⟩

/-- The row of a value, of what it is compared with, and of a plus sign and another row. -/
def addRest (x : ℚ) : List (Relation × ℚ) → Comparison → Comparison
  | [], d => ⟨x + d.first, d.rest⟩
  | (r, y) :: rest, d => behind x r (addRest y rest d)

/-- Two rows with a plus sign between them: the last value of the one and the first value of the
other are added. -/
def add (c d : Comparison) : Comparison := addRest c.first c.rest d

/-- Rows with plus signs between them. -/
def sum : List Comparison → Comparison
  | [] => single 0
  | [c] => c
  | c :: cs => c.add (sum cs)

/-- A row that compares something is a truth value. -/
theorem value_of_ne_nil {c : Comparison} (compares : c.rest ≠ []) : c.value = 0 ∨ c.value = 1 := by
  obtain ⟨rest, ⟨r, y⟩, same⟩ := List.eq_nil_or_concat' c.rest |>.resolve_left compares
  rw [value, same, List.foldl_append, List.foldl_cons, List.foldl_nil]
  exact r.truth_eq _ _

theorem value_of_nil {c : Comparison} (alone : c.rest = []) : c.value = c.first := by
  rw [value, alone, List.foldl_nil]

theorem rest_addRest (x : ℚ) (rest : List (Relation × ℚ)) (d : Comparison) :
    (addRest x rest d).rest = [] ↔ rest = [] ∧ d.rest = [] := by
  cases rest with
  | nil => simp [addRest]
  | cons head rest => simp [addRest, behind]

/-- A sum compares something if one of its terms does. -/
theorem rest_sum {cs : List Comparison} : (sum cs).rest = [] ↔ ∀ c ∈ cs, c.rest = [] := by
  fun_induction sum cs with
  | case1 => simp [single]
  | case2 c => simp
  | case3 c cs _ ih => rw [add, rest_addRest, ih, List.forall_mem_cons]

/-- Without comparisons, the value of a sum is the sum of the values. -/
theorem value_sum {cs : List Comparison} (alone : ∀ c ∈ cs, c.rest = []) :
    (sum cs).value = (cs.map value).sum := by
  fun_induction sum cs with
  | case1 => rfl
  | case2 c => simp
  | case3 c cs _ ih =>
    rw [List.forall_mem_cons] at alone
    have others := rest_sum.2 alone.2
    rw [List.map_cons, List.sum_cons, ← ih alone.2, add, alone.1, addRest, value_of_nil alone.1,
      value_of_nil others]
    exact value_of_nil others

theorem sum_of_length {cs : List Comparison} (alone : cs.length = 1) :
    (sum cs).value = (cs.map value).sum := by
  obtain ⟨c, rfl⟩ := List.length_eq_one_iff.1 alone
  simp [sum]

/-- With comparisons, the value of a sum is a truth value. -/
theorem value_sum_cases {cs : List Comparison} {c : Comparison} (member : c ∈ cs)
    (compares : c.rest ≠ []) : (sum cs).value = 0 ∨ (sum cs).value = 1 :=
  value_of_ne_nil fun alone => compares (rest_sum.1 alone c member)

end Comparison

/-! ## Symbols -/

/-- What operands and operators are: items of arithmetic, and relations between them. -/
inductive Symbol where
  | item (i : Item)
  | relation (r : Relation)
  deriving DecidableEq

namespace Symbol

/-- The row of symbols behind items that have been read. -/
def comparison? (v : Valuation) (seen : List Item) : List Symbol → Option Comparison
  | [] => (Item.total v seen).map .single
  | .item i :: ss => comparison? v (seen ++ [i]) ss
  | .relation r :: ss => do
    let x ← Item.total v seen
    let rest ← comparison? v [] ss
    return .behind x r rest

variable {v : Valuation} {seen is : List Item} {ss ts : List Symbol} {c d : Comparison}

theorem comparison?_relation {r : Relation} : comparison? v seen (.relation r :: ss) = some c ↔
    ∃ x rest, Item.total v seen = some x ∧ comparison? v [] ss = some rest ∧
      c = .behind x r rest := by
  simp only [comparison?, Option.bind_eq_bind, Option.bind_eq_some_iff, Option.pure_def,
    Option.some.injEq]
  exact ⟨fun ⟨x, total, rest, found, whole⟩ => ⟨x, rest, total, found, whole.symm⟩,
    fun ⟨x, rest, total, found, whole⟩ => ⟨x, total, rest, found, whole.symm⟩⟩

/-- Items with a plus sign in front of a row add to its first value. -/
theorem comparison?_items_plus {x : ℚ} (total : Item.total v seen = some x)
    (found : comparison? v is ts = some d) :
    comparison? v (seen ++ .sign .plus :: is) ts = some ⟨x + d.first, d.rest⟩ := by
  induction ts generalizing is d with
  | nil =>
    obtain ⟨y, last, rfl⟩ := Option.map_eq_some_iff.1 found
    rw [comparison?, Item.total_add total last]
    rfl
  | cons s ts ih =>
    cases s with
    | item i =>
      rw [comparison?, List.append_assoc]
      exact ih found
    | relation r =>
      obtain ⟨y, rest, first, others, rfl⟩ := comparison?_relation.1 found
      exact comparison?_relation.2 ⟨_, rest, Item.total_add total first, others, rfl⟩

/-- A plus sign between the symbols of two rows joins the rows. -/
theorem comparison?_plus (first : comparison? v seen ss = some c)
    (second : comparison? v [] ts = some d) :
    comparison? v seen (ss ++ .item (.sign .plus) :: ts) = some (c.add d) := by
  induction ss generalizing seen c with
  | nil =>
    obtain ⟨x, total, rfl⟩ := Option.map_eq_some_iff.1 first
    exact comparison?_items_plus total second
  | cons s ss ih =>
    cases s with
    | item i => exact ih first
    | relation r =>
      obtain ⟨x, rest, total, others, rfl⟩ := comparison?_relation.1 first
      exact comparison?_relation.2 ⟨x, rest.add d, total, ih others, rfl⟩

/-- Items by themselves are a single value. -/
theorem comparison?_items (seen is : List Item) :
    comparison? v seen (is.map .item) = (Item.total v (seen ++ is)).map .single := by
  induction is generalizing seen with
  | nil => rw [List.map_nil, comparison?, List.append_nil]
  | cons i is ih => rw [List.map_cons, comparison?, ih, List.append_assoc, List.singleton_append]

end Symbol

/-! ## Trees -/

namespace Node

/-- The symbol that an operator is. -/
def symbol? (t : Text) : Option Symbol :=
  ((Sign.ofText? t).map fun s => .item (.sign s)).or ((Relation.ofText? t).map .relation)

mutual

/-- What a node is among operands and operators; white space is nothing, and a call has no
value. -/
def symbols (v : Valuation) : Node → Option (List Symbol)
  | .leaf (.number t) => (Literal.amount? t).map fun x => [.item (.value x)]
  | .leaf (.op t) => (symbol? t).map fun s => [s]
  | .leaf (.space _) => some []
  | .ref r => some [.item (.value (v.cell r.sheet r.address))]
  | .group body true => ((symbolsAll v body).bind (Symbol.comparison? v [])).map fun c =>
      [.item (.value c.value)]
  | _ => none

def symbolsAll (v : Valuation) : List Node → Option (List Symbol)
  | [] => some []
  | n :: ns => do
    let first ← symbols v n
    let rest ← symbolsAll v ns
    return first ++ rest

end

/-- The row of values that a sequence of nodes is. -/
def comparison? (v : Valuation) (ns : List Node) : Option Comparison :=
  (symbolsAll v ns).bind (Symbol.comparison? v [])

variable {v : Valuation}

theorem comparison?_eq_some {ns : List Node} {c : Comparison} :
    comparison? v ns = some c ↔
      ∃ ss, symbolsAll v ns = some ss ∧ Symbol.comparison? v [] ss = some c :=
  Option.bind_eq_some_iff

theorem symbolsAll_cons {n : Node} {ns : List Node} {ss : List Symbol} :
    symbolsAll v (n :: ns) = some ss ↔
      ∃ ts us, symbols v n = some ts ∧ symbolsAll v ns = some us ∧ ss = ts ++ us := by
  simp only [symbolsAll, Option.bind_eq_bind, Option.bind_eq_some_iff, Option.pure_def,
    Option.some.injEq]
  exact ⟨fun ⟨ts, first, us, rest, whole⟩ => ⟨ts, us, first, rest, whole.symm⟩,
    fun ⟨ts, us, first, rest, whole⟩ => ⟨ts, first, us, rest, whole.symm⟩⟩

theorem symbolsAll_append {ms ns : List Node} {ss : List Symbol} :
    symbolsAll v (ms ++ ns) = some ss ↔
      ∃ ts us, symbolsAll v ms = some ts ∧ symbolsAll v ns = some us ∧ ss = ts ++ us := by
  induction ms generalizing ss with
  | nil => simp [symbolsAll]
  | cons m ms ih =>
    simp only [List.cons_append, symbolsAll_cons, ih]
    constructor
    · rintro ⟨ts, _, first, ⟨us, ws, rest, last, rfl⟩, rfl⟩
      exact ⟨_, ws, ⟨ts, us, first, rest, rfl⟩, last, by simp⟩
    · rintro ⟨_, ws, ⟨ts, us, first, rest, rfl⟩, last, rfl⟩
      exact ⟨ts, _, first, ⟨us, ws, rest, last, rfl⟩, by simp⟩

end Node
end CellGraph
