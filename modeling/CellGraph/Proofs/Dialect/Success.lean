import CellGraph.Dialect.Convert
import CellGraph.Proofs.Expr.Tree

/-!
# What a conversion gives

What each function of the conversion that can fail gives when it does not. The proofs about
percentages, steps and whole conversions start from these equivalences.
-/

namespace CellGraph

/-! ## Percentages -/

namespace Percent

variable {ns folded : List Node}

theorem foldAll_eq_ok : foldAll ns = .ok folded ↔
    ∃ inner, insideAll ns = .ok inner ∧ fold false inner = .ok folded :=
  Except.bind_eq_ok

theorem inside_group_eq_ok {body : List Node} {closed : Bool} {m : Node} :
    inside (.group body closed) = .ok m ↔ ∃ inner outer, insideAll body = .ok inner ∧
      fold false inner = .ok outer ∧ .group outer closed = m := by
  simp only [inside, Except.bind_eq_ok, exists_and_left, pure, Except.pure, Except.ok.injEq]

theorem inside_call_eq_ok {name : Text} {args : List (List Node)} {closed : Bool} {m : Node} :
    inside (.call name args closed) = .ok m ↔
      ∃ inner, insideArgs args = .ok inner ∧ .call name inner closed = m := by
  simp only [inside, Except.bind_eq_ok, pure, Except.pure, Except.ok.injEq]

theorem insideAll_cons_eq_ok {n : Node} : insideAll (n :: ns) = .ok folded ↔
    ∃ first rest, inside n = .ok first ∧ insideAll ns = .ok rest ∧ first :: rest = folded := by
  simp only [insideAll, Except.bind_eq_ok, exists_and_left, pure, Except.pure, Except.ok.injEq]

theorem insideArgs_cons_eq_ok {arg : List Node} {args made : List (List Node)} :
    insideArgs (arg :: args) = .ok made ↔ ∃ inner first rest, insideAll arg = .ok inner ∧
      fold false inner = .ok first ∧ insideArgs args = .ok rest ∧ first :: rest = made := by
  simp only [insideArgs, Except.bind_eq_ok, exists_and_left, pure, Except.pure, Except.ok.injEq]

end Percent

/-! ## Steps -/

namespace Step

variable {ns : List Node} {e : Expansion}

theorem run_percentages_eq_ok : run .percentages ns = .ok e ↔
    ∃ folded, Percent.foldAll ns = .ok folded ∧ .of folded = e :=
  Except.map_eq_ok

theorem runAll_cons_eq_ok {step : Step} {steps : List Step} : runAll (step :: steps) ns = .ok e ↔
    ∃ first rest, step.run ns = .ok first ∧ runAll steps first.nodes = .ok rest ∧
      ⟨rest.nodes, first.unresolved ++ rest.unresolved⟩ = e := by
  simp only [runAll, Except.bind_eq_ok, exists_and_left, pure, Except.pure, Except.ok.injEq]

/-- The steps behind the percentages. -/
def later : List Step := [.sumproduct, .average, .sums, .ln, .pv]

theorem ne_percentages_of_mem_later {step : Step} (member : step ∈ later) :
    step ≠ .percentages := by
  rintro rfl
  exact absurd member (by decide)

end Step

/-! ## The conversion -/

namespace Dialect

/-- A conversion folds the percentages and runs the other steps, which report all that is left. -/
theorem convertTree_eq_ok {ns : List Node} {e : Expansion} : convertTree ns = .ok e ↔
    ∃ folded rest, Percent.foldAll ns = .ok folded ∧ Step.runAll Step.later folded = .ok rest ∧
      ⟨rest.nodes, rest.unresolved.eraseDups⟩ = e := by
  have all : Step.all = .percentages :: Step.later := rfl
  simp only [convertTree, Except.bind_eq_ok, pure, Except.pure, Except.ok.injEq, all,
    Step.runAll_cons_eq_ok, Step.run_percentages_eq_ok]
  constructor
  · rintro ⟨_, ⟨_, rest, ⟨folded, found, rfl⟩, ran, rfl⟩, rfl⟩
    exact ⟨folded, rest, found, ran, rfl⟩
  · rintro ⟨folded, rest, found, ran, rfl⟩
    exact ⟨_, ⟨_, rest, ⟨folded, found, rfl⟩, ran, rfl⟩, rfl⟩

theorem convert_eq_ok {formula : Text} {c : Converted} : convert formula = .ok c ↔
    ∃ e, convertTree (Parser.parse formula) = .ok e ∧
      ⟨Node.textAll e.nodes, e.unresolved⟩ = c := by
  simp only [convert, Except.bind_eq_ok, pure, Except.pure, Except.ok.injEq]

end Dialect
end CellGraph
