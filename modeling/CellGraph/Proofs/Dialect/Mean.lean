import CellGraph.Dialect.Convert
import CellGraph.Proofs.Dialect.Changes
import CellGraph.Proofs.Dialect.Comparison
import CellGraph.Proofs.Dialect.Spelling
import CellGraph.Proofs.Parsing.Subtrees

/-!
# Means of comparisons

A mean is spelled out with plus signs between its terms. They bind closer than the relations inside
the terms, so what is read is the sum of the terms as rows of values, divided by their number
(`expand_average`). That is the mean if no term compares anything, or if there is only one term.
Otherwise the sum is a truth value, whatever the terms are.
-/

namespace CellGraph

/-! ## Symbols side by side -/

namespace Symbol

def isValue : Symbol → Bool
  | .item i => i.isValue
  | .relation _ => false

/-- Symbols of which not both are operands. -/
def Divided (s t : Symbol) : Prop := ¬ (s.isValue ∧ t.isValue)

variable {v : Valuation}

theorem divided_items {is : List Item} {x : ℚ} (total : Item.total v is = some x) :
    (is.map Symbol.item).IsChain Divided :=
  List.isChain_map_of_isChain Symbol.item (fun _ _ => id) (Item.divided_of_total total)

/-- What can be read has no two operands side by side. -/
theorem divided_of_comparison? {seen : List Item} {ss : List Symbol} {c : Comparison}
    (found : comparison? v seen ss = some c) : (seen.map Symbol.item ++ ss).IsChain Divided := by
  induction ss generalizing seen c with
  | nil =>
    obtain ⟨x, total, -⟩ := Option.map_eq_some_iff.1 found
    rw [List.append_nil]
    exact divided_items total
  | cons s ss ih =>
    cases s with
    | item i =>
      have rest := ih found
      rwa [List.map_append, List.append_assoc] at rest
    | relation r =>
      obtain ⟨x, rest, total, others, -⟩ := comparison?_relation.1 found
      refine List.isChain_append.2 ⟨divided_items total, List.isChain_cons.2 ⟨?_, ih others⟩, ?_⟩
      · rintro t - ⟨relation, -⟩
        cases relation
      · rintro s - t ⟨⟩ ⟨-, relation⟩
        cases relation

end Symbol

namespace Node

variable {v : Valuation}

/-! ## Sequences that can be read -/

/-- An operand is a value among symbols. -/
theorem exists_value_of_symbols {n : Node} {ss : List Symbol} (found : symbols v n = some ss)
    (term : n.isTerm) : ∃ x, ss = [.item (.value x)] := by
  unfold symbols at found
  split at found
  · obtain ⟨x, -, rfl⟩ := Option.map_eq_some_iff.1 found
    exact ⟨x, rfl⟩
  · cases term
  · cases term
  · cases found
    exact ⟨_, rfl⟩
  · obtain ⟨c, -, rfl⟩ := Option.map_eq_some_iff.1 found
    exact ⟨c.value, rfl⟩
  · cases found

theorem single_of_symbols {ns : List Node} {ss : List Symbol} (found : symbolsAll v ns = some ss)
    (divided : ss.IsChain Symbol.Divided) : Single ns := by
  rw [Single, List.isChain_iff_forall_rel_of_append_cons_cons]
  rw [List.isChain_iff_forall_rel_of_append_cons_cons] at divided
  rintro m n before behind rfl ⟨first, second⟩
  simp only [symbolsAll_append, symbolsAll_cons] at found
  obtain ⟨ts, _, -, ⟨_, _, firstSymbols, ⟨_, us, secondSymbols, -, rfl⟩, rfl⟩, rfl⟩ := found
  obtain ⟨x, rfl⟩ := exists_value_of_symbols firstSymbols first
  obtain ⟨y, rfl⟩ := exists_value_of_symbols secondSymbols second
  have apart : Symbol.Divided (.item (.value x)) (.item (.value y)) := @divided _ _ ts us rfl
  exact apart ⟨rfl, rfl⟩

theorem single_of_comparison? {ns : List Node} {c : Comparison}
    (found : comparison? v ns = some c) : Single ns := by
  obtain ⟨ss, inside, row⟩ := comparison?_eq_some.1 found
  exact single_of_symbols inside (Symbol.divided_of_comparison? row)

theorem symbolsAll_of_blank {ns : List Node} (blank : ∀ n ∈ ns, n.isSpace) :
    symbolsAll v ns = some [] := by
  induction ns with
  | nil => rfl
  | cons n ns ih =>
    obtain ⟨first, rest⟩ := List.forall_mem_cons.1 blank
    refine symbolsAll_cons.2 ⟨[], [], ?_, ih rest, rfl⟩
    unfold isSpace at first
    split at first
    · rfl
    · cases first

/-- White space alone has no value. -/
theorem solid_ne_nil_of_comparison? {ns : List Node} {c : Comparison}
    (found : comparison? v ns = some c) : solid ns ≠ [] := by
  intro nothing
  have blank : ∀ n ∈ ns, n.isSpace := by simpa [solid] using nothing
  rw [comparison?, symbolsAll_of_blank blank] at found
  cases found

/-! ## Expressions -/

theorem settleAll_of_forall {ns : List Node} (settled : ∀ n ∈ ns, n.settle = n) :
    settleAll ns = ns := by
  induction ns with
  | nil => rfl
  | cons n ns ih =>
    obtain ⟨first, rest⟩ := List.forall_mem_cons.1 settled
    rw [settleAll, first, ih rest]

/-- An expression without calls: it is made of known tokens, has no operand directly behind
another, and all its numbers are numbers. -/
structure Expression (n : Node) : Prop where
  known : ∀ t ∈ flat n, Token.isOther t = false
  single : ∀ m ∈ walk n, ∀ ns ∈ m.sequencesIn, Single ns
  settled : n.settle = n
  calls : ∀ m ∈ walk n, ∀ name args closed, m ≠ .call name args closed

theorem expression_group {body : List Node} (inside : ∀ n ∈ body, n.Expression)
    (single : Single body) : (Node.group body true).Expression where
  known := by
    intro t member
    simp only [flat, closingToken, if_true, List.mem_cons, List.mem_append, List.not_mem_nil,
      or_false] at member
    rcases member with (rfl | inBody) | rfl
    · rfl
    · obtain ⟨n, inNodes, inNode⟩ := mem_flatAll.1 inBody
      exact (inside n inNodes).known t inNode
    · rfl
  single := by
    intro m member ns inNode
    rcases List.mem_cons.1 member with rfl | inBody
    · rwa [List.mem_singleton.1 inNode]
    · obtain ⟨n, inNodes, within⟩ := mem_walkAll.1 inBody
      exact (inside n inNodes).single m within ns inNode
  settled := congrArg (group · true) (settleAll_of_forall fun n member => (inside n member).settled)
  calls := by
    intro m member
    rcases List.mem_cons.1 member with rfl | inBody
    · simp
    · obtain ⟨n, inNodes, within⟩ := mem_walkAll.1 inBody
      exact (inside n inNodes).calls m within

theorem expression_leaf {t : Token} (known : Token.isOther t = false) (settled : t.settle = t) :
    (Node.leaf t).Expression where
  known := by simpa [flat] using known
  single := by simp [walk, sequencesIn]
  settled := congrArg leaf settled
  calls := by simp [walk]

theorem expression_ref (r : Ref) : (Node.ref r).Expression where
  known := by simp [flat, Token.isOther]
  single := by simp [walk, sequencesIn]
  settled := rfl
  calls := by simp [walk]

theorem expression_range (a b : Ref) : (Node.range a b).Expression where
  known := by simp [flat, Token.isOther]
  single := by simp [walk, sequencesIn]
  settled := rfl
  calls := by simp [walk]

theorem expression_number {t : Text} {x : ℚ} (found : Literal.amount? t = some x) :
    (Node.leaf (.number t)).Expression := by
  unfold Literal.amount? at found
  split at found
  · next l read => exact expression_leaf rfl (Token.settle_of_whole (Literal.whole_of_scan read))
  · cases found

mutual

theorem expression_of_symbols : ∀ {n : Node} {ss : List Symbol}, symbols v n = some ss →
    n.Expression
  | .leaf (.number t), _, found => by
    obtain ⟨x, known, -⟩ := Option.map_eq_some_iff.1 found
    exact expression_number known
  | .leaf (.op _), _, _ | .leaf (.space _), _, _ => expression_leaf rfl rfl
  | .ref r, _, _ => expression_ref r
  | .group body true, _, found => by
    obtain ⟨c, row, -⟩ := Option.map_eq_some_iff.1 found
    obtain ⟨ss, inside, -⟩ := comparison?_eq_some.1 row
    exact expression_group (expressions_of_symbolsAll inside) (single_of_comparison? row)
  | .leaf (.string _), _, found | .leaf (.ref _), _, found | .leaf (.func _), _, found
  | .leaf (.name _), _, found | .leaf .lparen, _, found | .leaf .rparen, _, found
  | .leaf .comma, _, found | .leaf .colon, _, found | .leaf (.other _), _, found
  | .range _ _, _, found | .group _ false, _, found | .call _ _ _, _, found => by
    cases found

/-- What can be read is made of expressions. -/
theorem expressions_of_symbolsAll : ∀ {ns : List Node} {ss : List Symbol},
    symbolsAll v ns = some ss → ∀ n ∈ ns, n.Expression
  | [], _, _ => by simp
  | n :: ns, _, found => by
    obtain ⟨_, _, first, rest, -⟩ := symbolsAll_cons.1 found
    exact List.forall_mem_cons.2 ⟨expression_of_symbols first, expressions_of_symbolsAll rest⟩

end

/-! ## Arguments -/

/-- An argument of a mean: a range, or an expression that can be read. -/
structure Averaged (arg : List Node) : Prop where
  inside : ∀ n ∈ arg, n.Expression
  single : Single arg
  solid : solid arg ≠ []

theorem averaged_of_comparison? {arg : List Node} {c : Comparison}
    (found : comparison? v arg = some c) : Averaged arg := by
  obtain ⟨ss, inside, -⟩ := comparison?_eq_some.1 found
  exact ⟨expressions_of_symbolsAll inside, single_of_comparison? found,
    solid_ne_nil_of_comparison? found⟩

theorem averaged_of_range? {arg : List Node} {a b : Ref} (range : range? arg = some (a, b)) :
    Averaged arg where
  inside := by
    intro n member
    by_cases space : n.isSpace
    · unfold isSpace at space
      split at space
      · exact expression_leaf rfl rfl
      · cases space
    · have alone : n ∈ Node.solid arg := by simp [Node.solid, member, space]
      rw [solid_of_range? range, List.mem_singleton] at alone
      subst alone
      exact expression_range a b
  single := apart_of_range? (p := fun n => n.isTerm) (fun _ => isSpace_of_isTerm) range
  solid := by simp [solid_of_range? range]

theorem averaged_of_terms {args : List (List Node)} {cs : List Comparison}
    (read : (args.flatMap termNodes).mapM (comparison? v) = some cs) :
    ∀ arg ∈ args, Averaged arg := by
  intro arg member
  cases range : range? arg with
  | some ends => exact averaged_of_range? range
  | none =>
    have inTerms : arg ∈ args.flatMap termNodes :=
      List.mem_flatMap.2 ⟨arg, member, by simp [termNodes, range]⟩
    obtain ⟨c, -, found⟩ := exists_of_forall₂ (Option.forall₂_of_mapM read).flip inTerms
    exact averaged_of_comparison? found

/-- The arguments of a mean can stand in any other call. -/
theorem tightArgs_of_mem_parse {formula name : Text} {args : List (List Node)}
    (inside : .call name args true ∈ walkAll (Parser.parse formula))
    (averaged : ∀ arg ∈ args, Averaged arg) : TightArgs args := by
  obtain ⟨ts, suffix⟩ := Parser.exists_suffix_of_mem_parse inside
  have within : flatArgs args ++ .rparen :: ts <:+ Token.tokens formula :=
    .trans ⟨[.func name, .lparen], by simp [flat, closingToken]⟩ suffix
  refine tightArgs_of_tokens (Parser.formedArgs_of_mem_parse inside).2 ?_ within
    (fun arg member => (averaged arg member).single) ?_
  · intro t member
    rcases mem_flatArgs member with rfl | ⟨arg, inArgs, n, inArg, inNode⟩
    · rfl
    · exact ((averaged arg inArgs).inside n inArg).known t inNode
  · intro m member
    obtain ⟨arg, inArgs, n, inArg, inNode⟩ := mem_walkArgs.1 member
    exact ((averaged arg inArgs).inside n inArg).single m inNode

theorem arguments_of_averaged {args : List (List Node)} (averaged : ∀ arg ∈ args, Averaged arg) :
    arguments args = args := by
  unfold arguments
  split
  · next arg => rw [if_neg (averaged arg (by simp)).solid]
  · rfl

/-! ## The bracket -/

theorem settleAll_joined {terms : List (List Node)}
    (settled : ∀ t ∈ terms, ∀ n ∈ t, n.settle = n) : settleAll (joined terms) = joined terms := by
  refine settleAll_of_forall fun n member => ?_
  induction terms with
  | nil => simp [joined] at member
  | cons t terms ih =>
    obtain ⟨first, rest⟩ := List.forall_mem_cons.1 settled
    cases terms with
    | nil => exact first n (by simpa [joined] using member)
    | cons u terms =>
      rw [joined, List.intercalate_cons_cons, List.append_assoc] at member
      rcases List.mem_append.1 member with inFirst | behind
      · exact first n inFirst
      · rcases List.mem_cons.1 behind with rfl | inRest
        · rfl
        · exact ih rest inRest

theorem settled_of_mem_termNodes {arg t : List Node} (averaged : Averaged arg)
    (member : t ∈ termNodes arg) : ∀ n ∈ t, n.settle = n := by
  unfold termNodes at member
  split at member
  · obtain ⟨r, -, rfl⟩ := List.mem_map.1 member
    simp [settle]
  · rw [List.mem_singleton.1 member]
    exact fun n inArg => (averaged.inside n inArg).settled

/-- The bracket of a mean is read back from its text. -/
theorem parse_mean {args : List (List Node)} (tight : TightArgs args)
    (averaged : ∀ arg ∈ args, Averaged arg) :
    Parser.parse (textAll [.group (mean (args.flatMap termNodes)) true]) =
      [.group (mean (args.flatMap termNodes)) true] := by
  have settled : ∀ t ∈ args.flatMap termNodes, ∀ n ∈ t, n.settle = n := by
    intro t member
    obtain ⟨arg, inArgs, inTerms⟩ := List.mem_flatMap.1 member
    exact settled_of_mem_termNodes (averaged arg inArgs) inTerms
  rw [Parser.parse_textAll_of_tight (tightAll_single (tight_group (spelled_mean tight).tight))]
  have number := Token.settle_of_whole (whole_ofNat (args.flatMap termNodes).length)
  have slash : (Token.op ['/']).settle = .op ['/'] := rfl
  simp only [mean, settle, settleAll, settleAll_joined settled, number, slash]

/-! ## Values -/

theorem comparison?_append_plus {ms ns : List Node} {c d : Comparison}
    (first : comparison? v ms = some c) (second : comparison? v ns = some d) :
    comparison? v (ms ++ operator '+' :: ns) = some (c.add d) := by
  obtain ⟨ss, inFirst, firstRow⟩ := comparison?_eq_some.1 first
  obtain ⟨ts, inSecond, secondRow⟩ := comparison?_eq_some.1 second
  have behind : symbolsAll v (operator '+' :: ns) = some (.item (.sign .plus) :: ts) :=
    symbolsAll_cons.2 ⟨_, _, rfl, inSecond, rfl⟩
  exact comparison?_eq_some.2 ⟨_, symbolsAll_append.2 ⟨_, _, inFirst, behind, rfl⟩,
    Symbol.comparison?_plus firstRow secondRow⟩

theorem comparison?_joined {terms : List (List Node)} {cs : List Comparison}
    (rows : List.Forall₂ (fun t c => comparison? v t = some c) terms cs)
    (some_term : terms ≠ []) : comparison? v (joined terms) = some (.sum cs) := by
  induction rows with
  | nil => exact absurd rfl some_term
  | @cons t c terms cs first rest ih =>
    cases rest with
    | nil => simpa [joined, Comparison.sum] using first
    | @cons u d terms cs second rest =>
      have others := ih (by simp)
      rw [joined, List.intercalate_cons_cons, List.append_assoc]
      exact comparison?_append_plus first others

theorem symbols_group {body : List Node} {c : Comparison} (found : comparison? v body = some c) :
    symbols v (.group body true) = some [.item (.value c.value)] := by
  rw [comparison?] at found
  rw [symbols, found, Option.map_some]

theorem comparison?_group {body : List Node} {c : Comparison}
    (found : comparison? v body = some c) :
    comparison? v [.group body true] = some (.single c.value) :=
  comparison?_eq_some.2 ⟨_, symbolsAll_cons.2 ⟨_, _, symbols_group found, rfl, rfl⟩, rfl⟩

theorem comparison?_mean {terms : List (List Node)} {cs : List Comparison}
    (rows : List.Forall₂ (fun t c => comparison? v t = some c) terms cs)
    (some_term : terms ≠ []) :
    comparison? v (mean terms) = some (.single ((Comparison.sum cs).value / cs.length)) := by
  have number : Literal.amount? (Text.ofNat terms.length) = some (cs.length : ℚ) := by
    rw [Literal.amount?_ofNat, rows.length_eq]
  have some_row : (cs.length : ℚ) ≠ 0 := by
    rw [← rows.length_eq, Nat.cast_ne_zero]
    simpa using some_term
  have whole : symbolsAll v (mean terms) = some ([.value (Comparison.sum cs).value,
      .sign .divide, .value (cs.length : ℚ)].map Symbol.item) := by
    have sum := symbols_group (comparison?_joined rows some_term)
    have count : symbols v (.leaf (.number (Text.ofNat terms.length))) =
        some [.item (.value (cs.length : ℚ))] := by rw [symbols, number, Option.map_some]
    have divided : symbols v (operator '/') = some [.item (.sign .divide)] := rfl
    simp [mean, symbolsAll, sum, divided, count]
  rw [comparison?, whole, Option.bind_some, Symbol.comparison?_items, List.nil_append,
    Item.total_divide, quotient?, if_neg some_row, Option.map_some]

end Node

namespace Inline

open Node (comparison? range? termNodes walkAll mean Averaged)

theorem expandCall_of_no_call {name : Text} {spell : Speller} {n : Node}
    (noCall : ∀ written args closed, n ≠ .call written args closed) :
    expandCall name spell n = .keep n := by
  cases n with
  | call written args closed => exact absurd rfl (noCall written args closed)
  | _ => rfl

/-- Inside the arguments of a mean nothing is spelled out. -/
theorem expand_of_averaged {name written : Text} {spell : Speller} {args : List (List Node)}
    (averaged : ∀ arg ∈ args, Averaged arg) (closed : Bool) :
    Node.expand (expandCall name spell) (.call written args closed) =
      expandCall name spell (.call written args closed) := by
  have kept : ∀ m ∈ Node.walkArgs args, expandCall name spell m = .keep m := by
    intro m member
    obtain ⟨arg, inArgs, n, inArg, inNode⟩ := Node.mem_walkArgs.1 member
    exact expandCall_of_no_call (((averaged arg inArgs).inside n inArg).calls m inNode)
  rw [Node.expand, Node.expandArgs_of_keep kept]
  rfl

theorem isSome_terms?_iff {arg : List Node} :
    (terms? arg).isSome ↔ ∀ a b, range? arg = some (a, b) → Area.refs a b ≠ [] := by
  unfold terms? range?
  cases Node.sole? arg with
  | none => simp
  | some n =>
    cases n with
    | range a b => cases cells : Area.refs a b <;> simp [cells]
    | _ => simp

/-- A mean is refused if one of its ranges has no cells. -/
theorem expandCall_average_of_empty {name : Text} {args : List (List Node)}
    (averaged : ∀ arg ∈ args, Averaged arg) (named : key name = "AVERAGE")
    (empty : ∃ arg ∈ args, ∃ a b, range? arg = some (a, b) ∧ Area.refs a b = []) (closed : Bool) :
    expandCall "AVERAGE" average (.call name args closed) =
      .refuse (.call name args closed) "AVERAGE" := by
  obtain ⟨arg, member, a, b, range, noCell⟩ := empty
  have refused : average args = none := by
    rw [← Option.not_isSome_iff_eq_none, isSome_average_iff]
    exact fun spelled => isSome_terms?_iff.1 (spelled.2 arg member) a b range noCell
  rw [expandCall, if_pos named, Node.arguments_of_averaged averaged, refused]

/-- Otherwise it becomes the bracket of the terms of its arguments. -/
theorem expandCall_average_of_cells {formula name : Text} {args : List (List Node)}
    (inside : .call name args true ∈ walkAll (Parser.parse formula))
    (averaged : ∀ arg ∈ args, Averaged arg) (named : key name = "AVERAGE")
    (cells : ∀ arg ∈ args, ∀ a b, range? arg = some (a, b) → Area.refs a b ≠ []) :
    args.flatMap termNodes ≠ [] ∧ expandCall "AVERAGE" average (.call name args true) =
      .of [.group (mean (args.flatMap termNodes)) true] := by
  have spelled : (average args).isSome := isSome_average_iff.2
    ⟨(Parser.formedArgs_of_mem_parse inside).1, fun arg member =>
      isSome_terms?_iff.2 (cells arg member)⟩
  obtain ⟨t, found⟩ := Option.isSome_iff_exists.1 spelled
  obtain ⟨some_term, rfl⟩ := Node.average_eq_some found
  refine ⟨some_term, ?_⟩
  rw [expandCall, if_pos named, Node.arguments_of_averaged averaged, found]
  exact congrArg Expansion.of
    (Node.parse_mean (Node.tightArgs_of_mem_parse inside averaged) averaged)

variable {v : Valuation}

/-- A call of the mean of expressions and ranges stays and is reported if one of the ranges has no
cells. Otherwise it becomes a bracket, in which the terms are read as one sum: its value is that of
the sum divided by the number of terms. The sum has the value of all terms together if there is one
term, or if none compares anything; if one does, the whole sum is a truth value. -/
theorem expand_average {formula name : Text} {args : List (List Node)} {cs : List Comparison}
    (inside : .call name args true ∈ walkAll (Parser.parse formula)) (named : key name = "AVERAGE")
    (read : (args.flatMap termNodes).mapM (comparison? v) = some cs) :
    ((∃ arg ∈ args, ∃ a b, range? arg = some (a, b) ∧ Area.refs a b = []) →
      Node.expand (expandCall "AVERAGE" average) (.call name args true) =
        .refuse (.call name args true) "AVERAGE") ∧
    ((∀ arg ∈ args, ∀ a b, range? arg = some (a, b) → Area.refs a b ≠ []) →
      ∃ body, Node.expand (expandCall "AVERAGE" average) (.call name args true) =
          .of [.group body true] ∧
        comparison? v [.group body true] =
          some (.single ((Comparison.sum cs).value / cs.length)) ∧
        (cs.length = 1 ∨ (∀ c ∈ cs, c.rest = []) →
          (Comparison.sum cs).value = (cs.map Comparison.value).sum) ∧
        ((∃ c ∈ cs, c.rest ≠ []) →
          (Comparison.sum cs).value = 0 ∨ (Comparison.sum cs).value = 1)) := by
  have averaged := Node.averaged_of_terms read
  rw [expand_of_averaged averaged true]
  refine ⟨fun empty => expandCall_average_of_empty averaged named empty true, fun cells => ?_⟩
  obtain ⟨some_term, made⟩ := expandCall_average_of_cells inside averaged named cells
  have bracket := Node.comparison?_mean (Option.forall₂_of_mapM read) some_term
  refine ⟨_, made, Node.comparison?_group bracket, ?_, ?_⟩
  · rintro (alone | arithmetic)
    · exact Comparison.sum_of_length alone
    · exact Comparison.value_sum arithmetic
  · rintro ⟨c, member, compares⟩
    exact Comparison.value_sum_cases member compares

/-- Cells that hold two, one, and five everywhere else. -/
def twoOneFive : Valuation where
  cell := fun _ address => if address = "A1" then 2 else if address = "B1" then 1 else 5
  log := fun _ => none
  power := fun _ _ => none

/-- The arguments of `Average(A1,(B1<A1),C1:C2)`. -/
def groupedArguments : List (List Node) := [[.ref ⟨none, "A1", "A1"⟩],
  [.group [.ref ⟨none, "B1", "B1"⟩, .leaf (.op ['<']), .ref ⟨none, "A1", "A1"⟩] true],
  [.range ⟨none, "C1", "C1"⟩ ⟨none, "C2", "C2"⟩]]

/-- A comparison in parentheses is a value like any other. -/
theorem expand_average_grouped :
    ∃ body, Node.expand (expandCall "AVERAGE" average) (.call "Average" groupedArguments true) =
        .of [.group body true] ∧
      comparison? twoOneFive [.group body true] = some (.single ((2 + 1 + 5 + 5) / 4)) := by
  have tokens : Token.tokens "Average(A1,(B1<A1),C1:C2)" = [.func "Average", .lparen,
      .ref ⟨none, "A1", "A1"⟩, .comma, .lparen, .ref ⟨none, "B1", "B1"⟩, .op ['<'],
      .ref ⟨none, "A1", "A1"⟩, .rparen, .comma, .ref ⟨none, "C1", "C1"⟩, .colon,
      .ref ⟨none, "C2", "C2"⟩, .rparen] := by
    decide +kernel
  have inside : .call "Average" groupedArguments true ∈
      walkAll (Parser.parse "Average(A1,(B1<A1),C1:C2)") := by
    rw [Parser.parse, tokens]
    exact List.mem_cons_self
  have read : (groupedArguments.flatMap termNodes).mapM (comparison? twoOneFive) =
      some [.single 2, .single 1, .single 5, .single 5] := by
    decide +kernel
  have cells : ∀ arg ∈ groupedArguments, (terms? arg).isSome := by decide +kernel
  obtain ⟨-, spelled⟩ := expand_average inside (by decide) read
  obtain ⟨body, made, value, -⟩ := spelled fun arg member => isSome_terms?_iff.1 (cells arg member)
  refine ⟨body, made, ?_⟩
  rw [value]
  decide +kernel

/-- If a comparison stands beside another term, it takes the other term with it: the mean of a
comparison that holds and of five is three, but what is read is a comparison that does not hold. -/
theorem expand_average_regroups :
    Dialect.convert "=AVERAGE(A1>B1,C1)" = .ok ⟨"=((A1>B1+C1)/2)", []⟩ ∧
    (∃ first second, Parser.parse "AVERAGE(A1>B1,C1)" = [.call "AVERAGE" [first, second] true] ∧
      comparison? twoOneFive first = some ⟨2, [(.more, 1)]⟩ ∧
      comparison? twoOneFive second = some (.single 5) ∧
      ((⟨2, [(.more, 1)]⟩ : Comparison).value + (Comparison.single 5).value) / 2 = 3) ∧
    comparison? twoOneFive (Parser.parse "((A1>B1+C1)/2)") = some (.single 0) := by
  have tokens : Token.tokens "AVERAGE(A1>B1,C1)" = [.func "AVERAGE", .lparen,
      .ref ⟨none, "A1", "A1"⟩, .op ['>'], .ref ⟨none, "B1", "B1"⟩, .comma,
      .ref ⟨none, "C1", "C1"⟩, .rparen] := by
    decide +kernel
  refine ⟨by decide +kernel, ⟨[.ref ⟨none, "A1", "A1"⟩, .leaf (.op ['>']), .ref ⟨none, "B1", "B1"⟩],
    [.ref ⟨none, "C1", "C1"⟩], ?_, by decide +kernel⟩, by decide +kernel⟩
  rw [Parser.parse, tokens]
  rfl

end Inline
end CellGraph
