import CellGraph.Proofs.Dialect.Success
import CellGraph.Proofs.Numeral.Overflow

/-!
# When percentages fail

A conversion fails only where a number has more percent signs directly behind it than a power of
a hundred may have, somewhere in the formula (`exists_convertTree_iff`). The steps after the
percentages never fail.
-/

namespace CellGraph

open Node (walk walkAll walkArgs sequences sequencesIn)

/-! ## Percent signs -/

namespace Percent

abbrev sign : Node := .leaf (.op ['%'])

/-- A number with too many percent signs behind it. -/
def Overflows (ns : List Node) : Prop :=
  ∃ t, (.leaf (.number t) :: List.replicate Binary64.hundredLimit sign) <:+: ns

theorem isSign_iff {n : Node} : isSign n ↔ n = sign := by
  unfold isSign
  split <;> simp_all

theorem replicate_prefix_iff {k : Nat} {ns : List Node} :
    List.replicate k sign <+: ns ↔ k ≤ (ns.takeWhile isSign).length := by
  induction ns generalizing k with
  | nil => simp
  | cons n ns ih =>
    cases k with
    | zero => simp
    | succ k =>
      rw [List.replicate_succ, List.cons_prefix_cons, ih, eq_comm, ← isSign_iff]
      by_cases here : isSign n <;> simp [here]

theorem overflows_cons {n : Node} {ns : List Node} : Overflows (n :: ns) ↔
    (∃ t, n = .leaf (.number t)) ∧ Binary64.hundredLimit ≤ (ns.takeWhile isSign).length ∨
      Overflows ns := by
  simp only [Overflows, List.infix_cons_iff, List.cons_prefix_cons, replicate_prefix_iff,
    exists_or, exists_and_right, eq_comm]

theorem not_overflows_nil : ¬ Overflows [] := by simp [Overflows]

theorem exists_quotient_iff (number : Text) {signs : Nat} :
    (∃ value, quotient number signs = .ok value) ↔ ¬ Binary64.hundredLimit ≤ signs := by
  rw [← Binary64.ofInt?_hundred_eq_none_iff, quotient]
  split <;> simp_all

/-! ## One sequence -/

theorem exists_fold_iff {behind : Bool} {ns : List Node} :
    (∃ folded, fold behind ns = .ok folded) ↔ ¬ Overflows ns := by
  fun_induction fold behind ns with
  | case1 => simp [not_overflows_nil]
  | case2 behind n ns isBehind ih =>
    have isSign : isSign n := (Bool.and_eq_true_iff.1 isBehind).2
    obtain rfl := isSign_iff.1 isSign
    rw [ih, overflows_cons]
    simp
  | case3 behind ns t signs count _ ih =>
    have here : ∃ u, Node.leaf (.number t) = .leaf (.number u) := ⟨t, rfl⟩
    rw [overflows_cons, count, and_iff_right here, not_or, ← exists_quotient_iff t, ← ih]
    simp only [Except.exists_bind_eq_ok]
    constructor
    · rintro ⟨value, divided, rest, folded, -⟩
      exact ⟨⟨value, divided⟩, rest, folded⟩
    · rintro ⟨⟨value, divided⟩, rest, folded⟩
      exact ⟨value, divided, rest, folded, _, rfl⟩
  | case4 behind n ns _ noCount ih =>
    have noNumber : ¬ ((∃ t, n = .leaf (.number t)) ∧
        Binary64.hundredLimit ≤ (ns.takeWhile isSign).length) := by
      rintro ⟨⟨t, isNumber⟩, many⟩
      obtain ⟨signs, count⟩ := Nat.exists_eq_succ_of_ne_zero
        (Nat.ne_of_gt (Nat.lt_of_lt_of_le (by decide : 0 < Binary64.hundredLimit) many))
      exact noCount t signs isNumber count
    rw [overflows_cons, or_iff_right noNumber, ← ih]
    simp only [Except.exists_bind_eq_ok]
    exact ⟨fun ⟨rest, folded, _⟩ => ⟨rest, folded⟩, fun ⟨rest, folded⟩ => ⟨rest, folded, _, rfl⟩⟩

/-! ## Whole trees -/

/-- What is folded inside a node does not touch leaves. -/
theorem leaf_of_inside {n m : Node} (found : inside n = .ok m) (t : Token) :
    m = .leaf t ↔ n = .leaf t := by
  cases n with
  | group body closed =>
    obtain ⟨_, _, -, -, rfl⟩ := inside_group_eq_ok.1 found
    simp
  | call name args closed =>
    obtain ⟨_, -, rfl⟩ := inside_call_eq_ok.1 found
    simp
  | _ =>
    cases found
    rfl

theorem isSign_of_inside {n m : Node} (found : inside n = .ok m) : isSign m = isSign n := by
  rw [Bool.eq_iff_iff, isSign_iff, isSign_iff]
  exact leaf_of_inside found _

theorem overflows_of_insideAll {ns ms : List Node} (found : insideAll ns = .ok ms) :
    (Overflows ms ↔ Overflows ns) ∧
      (ms.takeWhile isSign).length = (ns.takeWhile isSign).length := by
  induction ns generalizing ms with
  | nil =>
    cases found
    exact ⟨Iff.rfl, rfl⟩
  | cons n ns ih =>
    obtain ⟨m, rest, first, others, rfl⟩ := insideAll_cons_eq_ok.1 found
    have leaf := leaf_of_inside first
    obtain ⟨same, count⟩ := ih others
    refine ⟨?_, ?_⟩
    · simp only [overflows_cons, leaf, same, count]
    · rw [List.takeWhile_cons, List.takeWhile_cons, isSign_of_inside first]
      split <;> simp [count]

theorem exists_foldAll_iff {ns : List Node} : (∃ folded, foldAll ns = .ok folded) ↔
    (∃ ms, insideAll ns = .ok ms) ∧ ¬ Overflows ns := by
  rw [foldAll, Except.exists_bind_eq_ok]
  constructor
  · rintro ⟨ms, inner, outer⟩
    rw [exists_fold_iff, (overflows_of_insideAll inner).1] at outer
    exact ⟨⟨ms, inner⟩, outer⟩
  · rintro ⟨⟨ms, inner⟩, free⟩
    rw [← (overflows_of_insideAll inner).1, ← exists_fold_iff] at free
    exact ⟨ms, inner, free⟩

theorem exists_inside_group_iff {body : List Node} {closed : Bool} :
    (∃ m, inside (.group body closed) = .ok m) ↔ ∃ folded, foldAll body = .ok folded := by
  simp only [inside_group_eq_ok, foldAll_eq_ok]
  exact ⟨fun ⟨_, ms, folded, inner, outer, _⟩ => ⟨folded, ms, inner, outer⟩,
    fun ⟨folded, ms, inner, outer⟩ => ⟨_, ms, folded, inner, outer, rfl⟩⟩

theorem exists_inside_call_iff {name : Text} {args : List (List Node)} {closed : Bool} :
    (∃ m, inside (.call name args closed) = .ok m) ↔ ∃ folded, insideArgs args = .ok folded := by
  simp only [inside_call_eq_ok]
  exact ⟨fun ⟨_, folded, inner, _⟩ => ⟨folded, inner⟩,
    fun ⟨folded, inner⟩ => ⟨_, folded, inner, rfl⟩⟩

theorem exists_insideAll_cons_iff {n : Node} {ns : List Node} :
    (∃ ms, insideAll (n :: ns) = .ok ms) ↔
      (∃ m, inside n = .ok m) ∧ ∃ ms, insideAll ns = .ok ms := by
  simp only [insideAll_cons_eq_ok]
  exact ⟨fun ⟨_, m, ms, first, rest, _⟩ => ⟨⟨m, first⟩, ms, rest⟩,
    fun ⟨⟨m, first⟩, ms, rest⟩ => ⟨_, m, ms, first, rest, rfl⟩⟩

theorem exists_insideArgs_cons_iff {arg : List Node} {args : List (List Node)} :
    (∃ folded, insideArgs (arg :: args) = .ok folded) ↔
      (∃ folded, foldAll arg = .ok folded) ∧ ∃ folded, insideArgs args = .ok folded := by
  simp only [insideArgs_cons_eq_ok, foldAll_eq_ok]
  constructor
  · rintro ⟨_, ms, folded, rest, inner, outer, others, -⟩
    exact ⟨⟨folded, ms, inner, outer⟩, rest, others⟩
  · rintro ⟨⟨folded, ms, inner, outer⟩, rest, others⟩
    exact ⟨_, ms, folded, rest, inner, outer, others, rfl⟩

mutual

theorem exists_inside_iff : ∀ n : Node, (∃ m, inside n = .ok m) ↔
    ∀ m ∈ walk n, ∀ s ∈ m.sequencesIn, ¬ Overflows s
  | .leaf _ | .ref _ | .range _ _ => by simp [inside, walk, sequencesIn]
  | .group body closed => by
    rw [exists_inside_group_iff, exists_foldAll_iff, exists_insideAll_iff body]
    simp [walk, sequencesIn, and_comm]
  | .call name args closed => by
    rw [exists_inside_call_iff, exists_insideArgs_iff args]
    simp [walk, sequencesIn]

theorem exists_insideAll_iff : ∀ ns : List Node, (∃ ms, insideAll ns = .ok ms) ↔
    ∀ m ∈ walkAll ns, ∀ s ∈ m.sequencesIn, ¬ Overflows s
  | [] => by simp [insideAll, walkAll]
  | n :: ns => by
    rw [exists_insideAll_cons_iff, exists_inside_iff n, exists_insideAll_iff ns,
      walkAll, List.forall_mem_append]

theorem exists_insideArgs_iff : ∀ args : List (List Node),
    (∃ folded, insideArgs args = .ok folded) ↔ (∀ arg ∈ args, ¬ Overflows arg) ∧
      ∀ m ∈ walkArgs args, ∀ s ∈ m.sequencesIn, ¬ Overflows s
  | [] => by simp [insideArgs, walkArgs]
  | arg :: args => by
    rw [exists_insideArgs_cons_iff, exists_foldAll_iff, exists_insideAll_iff arg,
      exists_insideArgs_iff args, walkArgs, List.forall_mem_append,
      List.forall_mem_cons]
    tauto

end

end Percent

/-! ## The conversion -/

/-- Steps other than the percentages do not fail. -/
theorem Step.exists_runAll {steps : List Step} (free : .percentages ∉ steps) (ns : List Node) :
    ∃ result, runAll steps ns = .ok result := by
  induction steps generalizing ns with
  | nil => exact ⟨.of ns, rfl⟩
  | cons step steps ih =>
    simp only [List.mem_cons, not_or] at free
    obtain ⟨first, ran⟩ : ∃ first, step.run ns = .ok first := by
      cases step with
      | percentages => exact absurd rfl free.1
      | _ => exact ⟨_, rfl⟩
    obtain ⟨rest, others⟩ := ih free.2 first.nodes
    exact ⟨_, runAll_cons_eq_ok.2 ⟨first, rest, ran, others, rfl⟩⟩

/-- A formula is converted unless one of its sequences has too many percent signs behind
a number. -/
theorem Dialect.exists_convertTree_iff {ns : List Node} :
    (∃ result, convertTree ns = .ok result) ↔ ∀ s ∈ sequences ns, ¬ Percent.Overflows s := by
  rw [Node.forall_sequences, and_comm, ← Percent.exists_insideAll_iff,
    ← Percent.exists_foldAll_iff]
  simp only [convertTree_eq_ok]
  constructor
  · rintro ⟨_, folded, _, found, -⟩
    exact ⟨folded, found⟩
  · rintro ⟨folded, found⟩
    have free : Step.percentages ∉ Step.later := by decide
    obtain ⟨rest, ran⟩ := Step.exists_runAll free folded
    exact ⟨_, folded, rest, found, ran, rfl⟩

end CellGraph
