import CellGraph.Dialect.Convert
import CellGraph.Proofs.Dialect.Folded
import CellGraph.Proofs.Dialect.Spelling

/-!
# Conversion keeps values

Every step of the conversion refines proper trees: a call that is spelled out is replaced by one
bracket with its value, a sum that is renamed is still a sum, and all else stays. A formula that has
a value is converted, and what it is converted to has the same value (`value_convert`).
-/

namespace CellGraph

open Node (Proper ProperAll ProperArgs Refines RefinesAll Spells Handles)

/-! ## Spelled out calls -/

namespace Node

/-- A node that a call is spelled out as is read from its text and may stand in the place of the
call. -/
theorem Spells.refines {f : Function} {name : Text} {args : List (List Node)} {t : Text} {m : Node}
    (spells : Spells f args t m) (named : Function.ofName? name = some f) :
    Parser.parse t = [m] ∧ Refines (.call name args true) m := by
  refine ⟨?_, spells.proper, spells.outline, ?_⟩
  · rw [← spells.text]
    exact Parser.parse_textAll_of_proper (properAll_single spells.proper)
  · intro v is found
    obtain ⟨g, xs, x, known, values, result, rfl⟩ := items_call.1 found
    obtain rfl : f = g := Option.some.inj (named.symm.trans known)
    exact spells.value v values result

end Node

namespace Inline

/-- A speller of a function: what it makes of proper arguments stands for the call. -/
structure Speller.Correct (spell : Speller) (f : Function) : Prop where
  some_arg : spell [] = none
  spells : ∀ {args t}, ProperArgs args → spell args = some t → ∃ m, Spells f args t m

theorem handles_expandCall {name : Text} {spell : Speller} {f : Function}
    (correct : spell.Correct f) (named : Function.named.lookup name = some f) :
    Handles (expandCall name spell) := by
  intro n proper
  have kept : Refines n n := .refl proper
  unfold expandCall
  split
  · next written args closed =>
    split
    · next same =>
      split
      · next t spelled =>
        obtain ⟨isClosed, -, -, inside⟩ := proper
        obtain rfl : closed = true := isClosed
        -- a single blank argument counts as none, and then nothing is spelled out
        rcases Node.arguments_cases args with whole | empty
        · rw [whole] at spelled
          obtain ⟨m, spells⟩ := correct.spells inside spelled
          rw [← same] at named
          obtain ⟨read, refines⟩ := spells.refines named
          exact ⟨m, read, refines⟩
        · rw [empty, correct.some_arg] at spelled
          cases spelled
      · exact ⟨_, rfl, kept⟩
    · exact ⟨_, rfl, kept⟩
  · exact ⟨_, rfl, kept⟩

theorem refines_inline {name : Text} {spell : Speller} {f : Function} (correct : spell.Correct f)
    (named : Function.named.lookup name = some f) {ns : List Node} (proper : ProperAll ns) :
    RefinesAll ns (inline name spell ns).nodes :=
  Node.refines_expandAll (handles_expandCall correct named) proper

theorem correct_sumproduct : Speller.Correct sumproduct .sumproduct where
  some_arg := rfl
  spells := Node.sumproduct_spells

theorem correct_average : Speller.Correct average .average where
  some_arg := rfl
  spells := Node.average_spells

theorem correct_ln : Speller.Correct ln .ln where
  some_arg := rfl
  spells := Node.ln_spells

theorem correct_pv : Speller.Correct pv .pv where
  some_arg := rfl
  spells := Node.pv_spells

end Inline

/-! ## Sums -/

namespace Sum

theorem handles_rename : Handles rename := by
  intro n proper
  have kept : Refines n n := .refl proper
  unfold rename
  split
  · next written args closed =>
    split
    · next same =>
      refine ⟨_, rfl, ?_, rfl, ?_⟩
      · exact ⟨proper.1, ⟨'s', ['u', 'm'], rfl, rfl, List.all_eq_true.1 rfl⟩, proper.2.2⟩
      · intro v is found
        obtain rfl : closed = true := proper.1
        obtain ⟨f, xs, x, known, values, result, rfl⟩ := Node.items_call.1 found
        have renamed : Function.ofName? "sum" = some f := by
          rwa [Function.ofName?, same] at known
        exact Node.items_call.2 ⟨f, xs, x, renamed, values, result, rfl⟩
    · exact ⟨_, rfl, kept⟩
  · exact ⟨_, rfl, kept⟩

theorem handles_spellOut : Handles spellOut := by
  intro n proper
  unfold spellOut
  split
  · next refs found =>
    obtain ⟨summands, isSum, column⟩ := Option.bind_eq_some_iff.1 found
    obtain ⟨written, args, closed, rfl, same, rfl⟩ := summands?_eq_some isSum
    obtain ⟨isClosed, -, -, inside⟩ := proper
    obtain rfl : closed = true := isClosed
    rcases Node.arguments_cases args with whole | empty
    · rw [whole] at column
      obtain ⟨m, spells⟩ := Node.column_spells inside column
      have named : Function.ofName? written = some .sum := by
        rw [Function.ofName?, same]
        rfl
      obtain ⟨read, refines⟩ := spells.refines named
      exact ⟨m, read, refines⟩
    · rw [empty] at column
      cases column
  · exact ⟨n, rfl, .refl proper⟩

theorem refines_inline {ns : List Node} (proper : ProperAll ns) :
    RefinesAll ns (inline ns).nodes := by
  unfold inline
  dsimp only
  split
  · exact .refl proper
  · split
    · exact Node.refines_expandAll handles_rename proper
    · split
      · exact Node.refines_expandAll handles_spellOut proper
      · exact .refl proper

end Sum

/-! ## Percentages -/

namespace Percent

theorem isSign_of_proper {n : Node} (proper : n.Proper) : isSign n = false := by
  unfold isSign
  split
  · rcases proper with sign | equals
    · cases sign
    · cases equals
  · rfl

mutual

theorem folded_of_proper : ∀ {n : Node}, n.Proper → Folded n
  | .leaf _, _ | .ref _, _ | .range _ _, _ => trivial
  | .group _ _, ⟨_, proper⟩ => foldedAll_of_proper proper
  | .call _ _ _, ⟨_, _, _, proper⟩ => foldedArgs_of_proper proper

theorem foldedAll_of_proper : ∀ {ns : List Node}, ProperAll ns → FoldedAll ns
  | [], _ => trivial
  | [_], ⟨proper, _⟩ => ⟨folded_of_proper proper, by simp, trivial⟩
  | n :: m :: ns, ⟨proper, _, others⟩ => by
    refine ⟨folded_of_proper proper, ?_, foldedAll_of_proper others⟩
    rintro _ ⟨⟩ ⟨-, sign⟩
    cases (isSign_of_proper others.1).symm.trans sign

theorem foldedArgs_of_proper : ∀ {args : List (List Node)}, ProperArgs args → FoldedArgs args
  | [], _ => trivial
  | _ :: _, ⟨proper, others⟩ => ⟨foldedAll_of_proper proper, foldedArgs_of_proper others⟩

end

/-- A proper tree has no percentages. -/
theorem foldAll_of_proper {ns : List Node} (proper : ProperAll ns) : foldAll ns = .ok ns :=
  foldAll_of_folded (foldedAll_of_proper proper)

end Percent

/-! ## Steps -/

namespace Step

/-- Every step refines proper trees, and none fails. -/
theorem run_refines (step : Step) {ns : List Node} (proper : ProperAll ns) :
    ∃ e, step.run ns = .ok e ∧ RefinesAll ns e.nodes := by
  cases step with
  | percentages =>
    refine ⟨.of ns, ?_, .refl proper⟩
    rw [run, Percent.foldAll_of_proper proper]
    rfl
  | sumproduct => exact ⟨_, rfl, Inline.refines_inline Inline.correct_sumproduct rfl proper⟩
  | average => exact ⟨_, rfl, Inline.refines_inline Inline.correct_average rfl proper⟩
  | sums => exact ⟨_, rfl, Sum.refines_inline proper⟩
  | ln => exact ⟨_, rfl, Inline.refines_inline Inline.correct_ln rfl proper⟩
  | pv => exact ⟨_, rfl, Inline.refines_inline Inline.correct_pv rfl proper⟩

/-- So do steps one after another, in any order. -/
theorem runAll_refines (steps : List Step) {ns : List Node} (proper : ProperAll ns) :
    ∃ e, runAll steps ns = .ok e ∧ RefinesAll ns e.nodes := by
  induction steps generalizing ns with
  | nil => exact ⟨.of ns, rfl, .refl proper⟩
  | cons step steps ih =>
    obtain ⟨first, ran, refines⟩ := step.run_refines proper
    obtain ⟨rest, others, further⟩ := ih (refines.properAll proper)
    refine ⟨⟨rest.nodes, first.unresolved ++ rest.unresolved⟩, ?_, refines.trans further⟩
    exact runAll_cons_eq_ok.2 ⟨first, rest, ran, others, rfl⟩

end Step

/-! ## The conversion -/

theorem Node.RefinesAll.afterEquals {ns ms : List Node} (refines : RefinesAll ns ms) :
    RefinesAll (afterEquals ns) (afterEquals ms) := by
  cases refines with
  | nil => exact .nil
  | @cons n m ns ms first rest =>
    by_cases equals : n = .leaf (.op ['='])
    · subst equals
      obtain rfl := eq_of_outline first.outline rfl
      exact rest
    · have other : m ≠ .leaf (.op ['=']) := by
        rintro rfl
        exact equals (eq_of_outline first.outline.symm rfl)
      have same : ∀ {k : Node} {ks : List Node}, k ≠ .leaf (.op ['=']) →
          Node.afterEquals (k :: ks) = k :: ks := by
        intro k ks differs
        unfold Node.afterEquals
        split
        · next same => exact absurd (List.cons.inj same).1 differs
        · rfl
      rw [same equals, same other]
      exact .cons first rest

/-- The conversion keeps the value of every formula that has one. -/
theorem Dialect.value_convert (v : Valuation) {formula : Text} {x : ℚ}
    (found : v.value formula = some x) :
    ∃ c, convert formula = .ok c ∧ v.value c.formula = some x := by
  have proper := Node.proper_of_value found
  obtain ⟨result, ran, refines⟩ := Step.runAll_refines Step.all proper
  refine ⟨⟨Node.textAll result.nodes, result.unresolved.eraseDups⟩, ?_, ?_⟩
  · rw [convert, convertTree, ran]
    rfl
  · have read := Parser.parse_textAll_of_proper (refines.properAll proper)
    rw [Valuation.value, read]
    exact refines.afterEquals.value found

/-- A valuation with three cells that differ, some logarithms and whole powers. -/
def Valuation.threeCells : Valuation where
  cell sheet address :=
    if sheet = some ("x y" : String) ∧ address = ("B1" : String) then 8
    else if address = ("A2" : String) then 3
    else 1
  log x := if x = 1 then some 0 else if x = 10 then some 1 else if x = 100 then some 2 else none
  power x y := if y.den = 1 ∧ (x ≠ 0 ∨ 0 ≤ y) then some (x ^ y.num) else none

theorem Dialect.value_convert_nested :
    ∃ c, convert "=Average(SUM(A1:A2),'x y'!$B1) + pv(0.5,2,-9)*log10(100)" = .ok c ∧
      Valuation.threeCells.value c.formula = some 26 :=
  value_convert Valuation.threeCells (by decide +kernel)

end CellGraph
