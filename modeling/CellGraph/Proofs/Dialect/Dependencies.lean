import CellGraph.Proofs.Dialect.Brackets
import CellGraph.Proofs.Dialect.Clean
import CellGraph.Proofs.Dialect.Folding
import CellGraph.Proofs.Parsing.Closed

/-!
# Conversion keeps dependencies

No step of the conversion drops a cell that a formula depends on or adds one: percentages are folded
between operands, and a call is spelled out as a bracket with the cells of its arguments, which is
read back as it was put together (`dependencies_convert`).
-/

namespace CellGraph

open Node (Tight TightAll TightArgs dependencies textAll)

/-! ## Steps -/

namespace Inline

/-- A speller whose bracket names the cells that the arguments of the call name. -/
structure Speller.Conserves (spell : Speller) : Prop where
  some_arg : spell [] = none
  spelled : ∀ {args t}, TightArgs args → spell args = some t →
    ∃ body, t = textAll [.group body true] ∧ Node.Spelled args body

/-- What a call is spelled out as is read back as one node that keeps the call. -/
theorem keeps_spelled {s : Site} {name : Text} {args : List (List Node)} {body : List Node}
    (spelled : Node.Spelled args body) : ∃ m, Parser.parse (textAll [.group body true]) = [m] ∧
      Node.Keeps s (.call name args true) m := by
  have bracket : ∀ {place : Site}, Tight place (.group body true) := Node.tight_group spelled.tight
  have settled := Node.keeps_settle (s := s) bracket
  have inPlace : Node.Keeps s (.call name args true) (.group body true) :=
    ⟨bracket, .inr ⟨rfl, Node.compact_group body true⟩, by simpa using spelled.cells⟩
  exact ⟨_, Parser.parse_textAll_of_tight (Node.tightAll_single bracket), inPlace.trans settled⟩

theorem keeping_expandCall {name : Text} {spell : Speller} (conserves : spell.Conserves) :
    Node.Keeping (expandCall name spell) := by
  intro n s tight
  have kept : Node.Keeps s n n := .refl tight
  unfold expandCall
  split
  · next written args closed =>
    split
    · split
      · next t found =>
        obtain ⟨isClosed, -, -, inside⟩ := tight
        obtain rfl : closed = true := isClosed
        rcases Node.arguments_cases args with whole | empty
        · rw [whole] at found
          obtain ⟨body, rfl, spelled⟩ := conserves.spelled inside found
          exact keeps_spelled spelled
        · rw [empty, conserves.some_arg] at found
          cases found
      · exact ⟨_, rfl, kept⟩
    · exact ⟨_, rfl, kept⟩
  · exact ⟨_, rfl, kept⟩

theorem conserves_inline {name : Text} {spell : Speller} (conserves : spell.Conserves) {s : Site}
    {ns : List Node} (tight : TightAll s ns) :
    Node.Conserves s ns (inline name spell ns).nodes :=
  (Node.keeps_expandAll (keeping_expandCall conserves) tight).conserves tight

theorem conserves_sumproduct : Speller.Conserves sumproduct where
  some_arg := rfl
  spelled := by
    intro args t tight found
    obtain ⟨first, second, a, b, c, d, rfl, left, right, fits, -, rfl⟩ :=
      Node.sumproduct_eq_some found
    exact ⟨_, rfl, Node.spelled_products tight left right fits⟩

theorem conserves_average : Speller.Conserves average where
  some_arg := rfl
  spelled := by
    intro args t tight found
    obtain ⟨-, rfl⟩ := Node.average_eq_some found
    exact ⟨_, rfl, Node.spelled_mean tight⟩

theorem conserves_ln : Speller.Conserves ln where
  some_arg := rfl
  spelled := by
    intro args t tight found
    obtain ⟨arg, rfl, rfl⟩ := Node.ln_eq_some found
    exact ⟨_, rfl, Node.spelled_naturalLogarithm tight⟩

theorem conserves_pv : Speller.Conserves pv where
  some_arg := rfl
  spelled := Node.spelled_pv

end Inline

namespace Sum

theorem keeping_rename : Node.Keeping rename := by
  intro n s tight
  have kept : Node.Keeps s n n := .refl tight
  unfold rename
  split
  · next written args closed =>
    split
    · obtain ⟨isClosed, -, some_arg, inside⟩ := tight
      have named : Token.Whole (.func "sum") := ⟨'s', ['u', 'm'], rfl, rfl, List.all_eq_true.1 rfl⟩
      exact ⟨_, rfl, ⟨isClosed, named, some_arg, inside⟩,
        .inr ⟨rfl, Node.compact_call _ _ _⟩, by simp⟩
    · exact ⟨_, rfl, kept⟩
  · exact ⟨_, rfl, kept⟩

theorem keeping_spellOut : Node.Keeping spellOut := by
  intro n s tight
  unfold spellOut
  split
  · next refs found =>
    obtain ⟨summands, isSum, column⟩ := Option.bind_eq_some_iff.1 found
    obtain ⟨written, args, closed, rfl, -, rfl⟩ := summands?_eq_some isSum
    obtain ⟨isClosed, -, -, inside⟩ := tight
    obtain rfl : closed = true := isClosed
    rcases Node.arguments_cases args with whole | empty
    · rw [whole] at column
      obtain ⟨arg, a, b, rfl, alone, rfl, -⟩ := columnRefs?_eq_some column
      have spelled := Node.spelled_column inside (Node.range?_of_sole? alone)
      rw [← Node.textAll_column]
      exact Inline.keeps_spelled spelled
    · rw [empty] at column
      cases column
  · exact ⟨n, rfl, .refl tight⟩

theorem conserves_inline {s : Site} {ns : List Node} (tight : TightAll s ns) :
    Node.Conserves s ns (inline ns).nodes := by
  unfold inline
  dsimp only
  split
  · exact .refl tight
  · split
    · exact (Node.keeps_expandAll keeping_rename tight).conserves tight
    · split
      · exact (Node.keeps_expandAll keeping_spellOut tight).conserves tight
      · exact .refl tight

end Sum

/-- Every step behind the percentages conserves tight trees. -/
theorem Step.conserves_run {step : Step} (later : step ≠ .percentages) {s : Site} {ns : List Node}
    {result : Expansion} (tight : TightAll s ns) (ran : step.run ns = .ok result) :
    Node.Conserves s ns result.nodes := by
  cases step with
  | percentages => exact absurd rfl later
  | sumproduct =>
    cases ran
    exact Inline.conserves_inline Inline.conserves_sumproduct tight
  | average =>
    cases ran
    exact Inline.conserves_inline Inline.conserves_average tight
  | sums =>
    cases ran
    exact Sum.conserves_inline tight
  | ln =>
    cases ran
    exact Inline.conserves_inline Inline.conserves_ln tight
  | pv =>
    cases ran
    exact Inline.conserves_inline Inline.conserves_pv tight

/-! ## The conversion -/

namespace Dialect

theorem conserves_convertTree {ns : List Node} {result : Expansion} (tight : TightAll .top ns)
    (divided : ∀ q ∈ Node.sequences ns, q.IsChain Percent.Divided)
    (converted : convertTree ns = .ok result) : Node.Conserves .top ns result.nodes := by
  obtain ⟨folded, rest, found, ran, rfl⟩ := convertTree_eq_ok.1 converted
  have percentages := Percent.conserves_foldAll tight divided found
  have later : ∀ step ∈ Step.later, ∀ {ms result}, Node.Conserves .top ns ms →
      step.run ms = .ok result → Node.Conserves .top ns result.nodes := by
    intro step member ms result kept ran
    exact kept.trans (Step.conserves_run (Step.ne_percentages_of_mem_later member) kept.tight ran)
  have kept := Step.runAll_keeps later percentages ran
  exact kept

/-- A formula depends on the same cells before and after its conversion. All its brackets have to be
closed and all its characters known, and no operand may stand directly behind another or behind
a percent sign. -/
theorem dependencies_convert {formula : Text} {c : Converted}
    (closed : ∀ n ∈ Node.walkAll (Parser.parse formula), n.IsClosed)
    (known : ∀ t ∈ Token.tokens formula, Token.isOther t = false)
    (divided : ∀ q ∈ Node.sequences (Parser.parse formula), q.IsChain Percent.Divided)
    (converted : convert formula = .ok c) (place : Option Text × Text) :
    place ∈ dependencies (Parser.parse c.formula) ↔
      place ∈ dependencies (Parser.parse formula) := by
  have tight : TightAll .top (Parser.parse formula) := by
    refine Parser.tight_parse closed known fun q member => (divided q member).imp ?_
    exact fun m n apart both => apart ⟨.inl both.1, both.2⟩
  obtain ⟨result, ran, converted⟩ := Except.bind_eq_ok.1 converted
  cases converted
  have conserves := conserves_convertTree tight divided ran
  have read := (Node.keeps_settleAll conserves.tight).conserves conserves.tight
  rw [Parser.parse_textAll_of_tight conserves.tight]
  exact (read.dependencies place).trans (conserves.dependencies place)

theorem dependencies_convert_nested :
    ∃ c, convert "=PV(5%,Average('x y'!$A1,B2:B3),-LN(C1),, 1 )" = .ok c ∧ ∀ place,
      (place ∈ dependencies (Parser.parse c.formula) ↔
        place ∈ dependencies (Parser.parse "=PV(5%,Average('x y'!$A1,B2:B3),-LN(C1),, 1 )")) := by
  have converted : convert "=PV(5%,Average('x y'!$A1,B2:B3),-LN(C1),, 1 )" = .ok
      ⟨"=(-(-(1 / log10(2.71828) * log10(C1)))*(1-(1+(0.05))^(-((('x y'!$A1+B2+B3)/3))))/(0.05))",
        []⟩ := by
    decide +kernel
  exact ⟨_, converted, dependencies_convert (by decide +kernel) (by decide +kernel)
    (by decide +kernel) converted⟩

end Dialect
end CellGraph
