import CellGraph.Proofs.Dialect.Refines
import CellGraph.Proofs.Dialect.Trees
import CellGraph.Proofs.Numeral.Notation
import CellGraph.Proofs.Text.Decimal

/-!
# Spelled out calls

For each call that is spelled out, the tree that its text is read back as: it is proper, its text is
the one that is written, and it has the value of the call. The text of an argument stands in it
as the nodes of the argument.
-/

namespace CellGraph

/-! ## Numbers -/

theorem Literal.scan_ofNat (n : Nat) :
    scan Char.isDigit (Text.ofNat n) = some (⟨Text.ofNat n, none, none⟩, []) := by
  have ends : Ends [] := by simp [Ends]
  have read := scan_text (formed_ofNat n) ends
  simpa [Literal.text] using read

theorem Literal.amount?_ofNat (n : Nat) : amount? (Text.ofNat n) = some (n : ℚ) := by
  simp [amount?, scan_ofNat, amount, Text.natOfDigits_ofNat]

namespace Node

/-! ## Sums -/

theorem properAll_append_operator {ms ns : List Node} {c : Char} (sign : (operator c).Proper)
    (first : ProperAll ms) (second : ProperAll ns) : ProperAll (ms ++ operator c :: ns) := by
  rw [properAll_iff] at first second ⊢
  refine ⟨?_, ?_⟩
  · intro n member
    rcases List.mem_append.1 member with before | here
    · exact first.1 n before
    · rcases List.mem_cons.1 here with rfl | behind
      · exact sign
      · exact second.1 n behind
  · refine List.isChain_append.2 ⟨first.2, List.isChain_cons.2 ⟨?_, second.2⟩, ?_⟩
    · intro n _
      simp [Beside, isSpace, isOperand]
    · rintro m _ n ⟨⟩
      simp [Beside, isSpace, isOperand]

theorem properAll_operator_cons {ns : List Node} {c : Char} (sign : (operator c).Proper)
    (behind : ProperAll ns) : ProperAll (operator c :: ns) := by
  have nothing : ProperAll [] := trivial
  exact properAll_append_operator sign nothing behind

theorem properAll_joined {terms : List (List Node)} (proper : ∀ t ∈ terms, ProperAll t) :
    ProperAll (joined terms) := by
  induction terms with
  | nil => trivial
  | cons t terms ih =>
    have first := proper t (by simp)
    have rest := ih fun u member => proper u (by simp [member])
    cases terms with
    | nil => simpa [joined] using first
    | cons u terms =>
      rw [joined, List.intercalate_cons_cons, List.append_assoc]
      exact properAll_append_operator (.inl rfl) first rest

theorem proper_group {body : List Node} (proper : ProperAll body) : (Node.group body true).Proper :=
  ⟨rfl, proper⟩

theorem properAll_single {n : Node} (proper : n.Proper) : ProperAll [n] :=
  ⟨proper, by simp, trivial⟩

variable {v : Valuation}

theorem value_joined {terms : List (List Node)} {xs : List ℚ}
    (values : List.Forall₂ (fun t x => value v t = some x) terms xs) (some_term : terms ≠ []) :
    value v (joined terms) = some xs.sum := by
  -- the items of all terms come first; that there are some is only known at the end
  have items : ∃ iss, itemsAll v (joined terms) = some (List.intercalate [.sign .plus] iss) ∧
      List.Forall₂ (fun is x => Item.total v is = some x) iss xs ∧ (terms ≠ [] → iss ≠ []) := by
    clear some_term
    induction values with
    | nil => exact ⟨[], rfl, .nil, by simp⟩
    | @cons t x terms xs first rest ih =>
      obtain ⟨is, inside, total⟩ := value_eq_some.1 first
      obtain ⟨iss, found, totals, some_sequence⟩ := ih
      refine ⟨is :: iss, ?_, .cons total totals, by simp⟩
      cases rest with
      | nil =>
        cases totals
        simpa [joined] using inside
      | @cons u y terms ys second rest =>
        obtain ⟨js, jss, rfl⟩ := List.exists_cons_of_ne_nil (some_sequence (by simp))
        rw [joined, List.intercalate_cons_cons, List.append_assoc, itemsAll_append]
        refine ⟨is, _, inside, itemsAll_cons.2 ⟨[.sign .plus], _, rfl, found, rfl⟩, ?_⟩
        rw [List.intercalate_cons_cons, List.append_assoc]
  obtain ⟨iss, found, totals, some_sequence⟩ := items
  rw [value, found, Option.bind_some]
  exact Item.total_intercalate totals (some_sequence some_term)

/-! ## Calls -/

/-- A node that stands for a call of a function: it has the text that the call is spelled out as,
and the value of the call. -/
structure Spells (f : Function) (args : List (List Node)) (t : Text) (m : Node) : Prop where
  text : textAll [m] = t
  proper : m.Proper
  outline : m.outline = none
  value : ∀ (v : Valuation) {xs x}, argumentValues v args = some xs → f.value v xs = some x →
    items v m = some [.value x]

theorem value_ref (v : Valuation) (r : Ref) : value v [.ref r] = some (v.cell r.sheet r.address) :=
  rfl

theorem formed_of_range? {arg : List Node} {a b : Ref} (proper : ProperAll arg)
    (range : range? arg = some (a, b)) : a.Formed ∧ b.Formed := by
  have inside : Node.range a b ∈ solid arg := by simp [solid_of_range? range]
  exact (properAll_iff.1 proper).1 _ (List.mem_filter.1 inside).1

theorem properAll_of_mem_termNodes {arg t : List Node} (proper : ProperAll arg)
    (member : t ∈ termNodes arg) : ProperAll t := by
  unfold termNodes at member
  split at member
  · next a b range =>
    obtain ⟨first, last⟩ := formed_of_range? proper range
    obtain ⟨r, inRefs, rfl⟩ := List.mem_map.1 member
    exact ⟨Area.formed_of_mem_refs first last inRefs, by simp, trivial⟩
  · rwa [List.mem_singleton.1 member]

theorem value_termNodes {arg : List Node} {y : Argument}
    (found : argument? v (range? arg) (value v arg) = some y) :
    List.Forall₂ (fun t x => value v t = some x) (termNodes arg) y.values := by
  unfold termNodes
  cases range : range? arg with
  | some ends =>
    rw [range] at found
    cases found
    refine List.forall₂_map_left_iff.2 (List.forall₂_map_right_iff.2 (List.forall₂_same.2 ?_))
    exact fun r _ => value_ref v r
  | none =>
    rw [range] at found
    obtain ⟨x, single, rfl⟩ := Option.map_eq_some_iff.1 found
    exact .cons single .nil

theorem value_flatMap_termNodes {args : List (List Node)} {xs : List Argument}
    (found : argumentValues v args = some xs) :
    List.Forall₂ (fun t x => value v t = some x) (args.flatMap termNodes)
      (xs.flatMap Argument.values) := by
  induction args generalizing xs with
  | nil =>
    cases found
    exact .nil
  | cons arg args ih =>
    obtain ⟨y, ys, first, rest, rfl⟩ := argumentValues_cons.1 found
    exact List.rel_append (value_termNodes first) (ih rest)

theorem properAll_mean {terms : List (List Node)} (proper : ∀ t ∈ terms, ProperAll t) :
    ProperAll (mean terms) := by
  have number : Proper (.leaf (.number (Text.ofNat terms.length))) :=
    whole_ofNat terms.length
  have sum := proper_group (properAll_joined proper)
  exact properAll_append_operator (.inl rfl) (properAll_single sum) (properAll_single number)

theorem value_mean {terms : List (List Node)} {xs : List ℚ} {x : ℚ}
    (values : List.Forall₂ (fun t x => value v t = some x) terms xs) (some_term : terms ≠ [])
    (quotient : quotient? xs.sum xs.length = some x) : value v (mean terms) = some x := by
  have whole : itemsAll v (mean terms) =
      some [.value xs.sum, .sign .divide, .value xs.length] := by
    have sum := items_group (value_joined values some_term)
    have divided : items v (operator '/') = some [.sign .divide] := rfl
    have count := items_number (v := v) (Literal.amount?_ofNat terms.length)
    rw [values.length_eq] at count
    simp [mean, itemsAll, sum, divided, count, values.length_eq]
  exact value_eq_some.2 ⟨_, whole, (Item.total_divide v _ _).trans quotient⟩

theorem average_spells {args : List (List Node)} {t : Text} (proper : ProperArgs args)
    (spelled : Inline.average args = some t) : ∃ m, Spells .average args t m := by
  obtain ⟨some_term, rfl⟩ := average_eq_some spelled
  have terms : ∀ u ∈ args.flatMap termNodes, ProperAll u := by
    intro u member
    obtain ⟨arg, inArgs, inTerms⟩ := List.mem_flatMap.1 member
    exact properAll_of_mem_termNodes (properArgs_iff.1 proper arg inArgs) inTerms
  refine ⟨_, rfl, proper_group (properAll_mean terms), rfl, ?_⟩
  intro v xs x known result
  exact items_group (value_mean (value_flatMap_termNodes known) some_term result)

theorem value_plus {ns : List Node} {x : ℚ} (found : value v ns = some x) :
    value v (operator '+' :: ns) = some x := by
  obtain ⟨is, inside, total⟩ := value_eq_some.1 found
  have whole := itemsAll_cons.2 ⟨_, _, items_operator (t := ['+']) rfl, inside, rfl⟩
  exact value_eq_some.2 ⟨_, whole, (Item.total_plus v is).trans total⟩

theorem value_product (v : Valuation) (p : Ref × Ref) :
    value v (product p) =
      some (v.cell p.1.sheet p.1.address * v.cell p.2.sheet p.2.address) := by
  have whole : itemsAll v (product p) = some [.value (v.cell p.1.sheet p.1.address),
      .sign .times, .value (v.cell p.2.sheet p.2.address)] := rfl
  exact value_eq_some.2 ⟨_, whole, Item.total_times v _ _⟩

/-- The values of two ranges, multiplied cell by cell. -/
theorem values_product {a b c d : Ref} :
    List.Forall₂ (fun t x => value v t = some x)
      (((Area.refs a b).zip (Area.refs c d)).map product)
      (List.zipWith (· * ·) (cellValues v a b) (cellValues v c d)) := by
  have same : List.zipWith (· * ·) (cellValues v a b) (cellValues v c d) =
      ((Area.refs a b).zip (Area.refs c d)).map fun p =>
        v.cell p.1.sheet p.1.address * v.cell p.2.sheet p.2.address := by
    simp [cellValues, List.zip, List.map_zipWith, List.zipWith_map]
  rw [same, List.forall₂_map_left_iff, List.forall₂_map_right_iff, List.forall₂_same]
  exact fun p _ => value_product v p

theorem properAll_product {p : Ref × Ref} (left : p.1.Formed) (right : p.2.Formed) :
    ProperAll (product p) := by
  have leftProper : Proper (.ref p.1) := left
  have rightProper : Proper (.ref p.2) := right
  exact properAll_append_operator (.inl rfl) (properAll_single leftProper)
    (properAll_single rightProper)

theorem sumproduct_spells {args : List (List Node)} {t : Text} (proper : ProperArgs args)
    (spelled : Inline.sumproduct args = some t) : ∃ m, Spells .sumproduct args t m := by
  obtain ⟨first, second, a, b, c, d, rfl, firstRange, secondRange, -, some_pair, rfl⟩ :=
    sumproduct_eq_some spelled
  obtain ⟨formedA, formedB⟩ := formed_of_range? proper.1 firstRange
  obtain ⟨formedC, formedD⟩ := formed_of_range? proper.2.1 secondRange
  have each : ∀ u ∈ ((Area.refs a b).zip (Area.refs c d)).map product, ProperAll u := by
    intro u member
    obtain ⟨p, paired, rfl⟩ := List.mem_map.1 member
    exact properAll_product (Area.formed_of_mem_refs formedA formedB (List.of_mem_zip paired).1)
      (Area.formed_of_mem_refs formedC formedD (List.of_mem_zip paired).2)
  have sum : ProperAll (products ((Area.refs a b).zip (Area.refs c d))) :=
    properAll_operator_cons (.inl rfl) (properAll_joined each)
  refine ⟨_, rfl, proper_group sum, rfl, ?_⟩
  intro v xs x known result
  obtain ⟨y, ys, firstValue, rest, rfl⟩ := argumentValues_cons.1 known
  obtain ⟨z, zs, secondValue, nothing, rfl⟩ := argumentValues_cons.1 rest
  cases nothing
  rw [firstRange] at firstValue
  cases firstValue
  rw [secondRange] at secondValue
  cases secondValue
  simp only [Function.value] at result
  split at result
  · cases result
    exact items_group (value_plus (value_joined values_product (by simpa using some_pair)))
  · cases result

theorem proper_logarithm {arg : List Node} (proper : ProperAll arg) : (logarithm arg).Proper :=
  ⟨rfl, ⟨'l', ['o', 'g', '1', '0'], rfl, rfl, List.all_eq_true.1 rfl⟩, by simp, proper, trivial⟩

theorem items_logarithm {arg : List Node} {x y : ℚ} (noRange : range? arg = none)
    (found : value v arg = some x) (log : v.log x = some y) :
    items v (logarithm arg) = some [.value y] := by
  have known : argumentValues v [arg] = some [.value x] :=
    argumentValues_cons.2 ⟨.value x, [], argument?_eq_value.2 ⟨noRange, found⟩, rfl, rfl⟩
  exact items_call.2 ⟨.log10, _, y, by decide, known, log, rfl⟩

theorem proper_number {t : Text} {l : Literal} (read : Literal.scan Char.isDigit t = some (l, [])) :
    Proper (.leaf (.number t)) :=
  Literal.whole_of_scan read

theorem proper_one : one.Proper := proper_number (l := ⟨['1'], none, none⟩) rfl

theorem proper_base : base.Proper := proper_number (l := ⟨"2", some "71828", none⟩) rfl

theorem items_one : items v one = some [.value 1] := by
  have exact := Literal.amount?_ofNat 1
  rw [show Text.ofNat 1 = ['1'] by decide, Nat.cast_one] at exact
  exact items_number exact

theorem value_base : value v [base] = some 2.71828 := by
  have read : Literal.scan Char.isDigit "2.71828" = some (⟨"2", some "71828", none⟩, []) := rfl
  have digits : Text.natOfDigits (("2" : String).toList ++ ("71828" : String).toList) = 271828 := by
    decide
  have places : ("71828" : String).toList.length = 5 := by decide
  have exact : Literal.amount? "2.71828" = some 2.71828 := by
    rw [Literal.amount?, read]
    simp only [Literal.amount, Option.getD_some, digits, places, Option.map_none, Option.getD_none]
    norm_num
  have whole := itemsAll_cons.2 ⟨_, _, items_number (v := v) exact, itemsAll_nil v, rfl⟩
  exact value_eq_some.2 ⟨_, whole, Item.total_value v _⟩

theorem properAll_naturalLogarithm {arg : List Node} (proper : ProperAll arg) :
    ProperAll (naturalLogarithm arg) := by
  have space : blank.Proper := ⟨by simp, List.all_eq_true.1 rfl⟩
  have baseLog : (logarithm [base]).Proper := proper_logarithm ⟨proper_base, by simp, trivial⟩
  have argLog := proper_logarithm proper
  have slash : (operator '/').Proper := .inl rfl
  have times : (operator '*').Proper := .inl rfl
  simp only [naturalLogarithm, ProperAll, proper_one, space, slash, times, baseLog, argLog]
  simp [Beside, isSpace, isOperand, logarithm, one]

theorem total_naturalLogarithm {e unit y : ℚ} (found : quotient? 1 e = some unit) :
    Item.total v [.value 1, .sign .divide, .value e, .sign .times, .value y] =
      some (unit * y) := by
  simp [Item.total, Item.operand, Item.chain, Item.gather, Sign.level, Valuation.apply, found]

theorem value_naturalLogarithm {arg : List Node} {z base unit log : ℚ}
    (noRange : range? arg = none) (found : value v arg = some z) (logBase : v.log 2.71828 = some base)
    (inverse : quotient? 1 base = some unit) (logArg : v.log z = some log) :
    value v (naturalLogarithm arg) = some (unit * log) := by
  have baseItem := items_logarithm rfl (value_base (v := v)) logBase
  have argItem := items_logarithm noRange found logArg
  have whole : itemsAll v (naturalLogarithm arg) =
      some [.value 1, .sign .divide, .value base, .sign .times, .value log] := by
    have space : items v blank = some [] := rfl
    have divided : items v (operator '/') = some [.sign .divide] := rfl
    have times : items v (operator '*') = some [.sign .times] := rfl
    simp [naturalLogarithm, itemsAll, space, divided, times, items_one, baseItem, argItem]
  exact value_eq_some.2 ⟨_, whole, total_naturalLogarithm inverse⟩

theorem ln_spells {args : List (List Node)} {t : Text} (proper : ProperArgs args)
    (spelled : Inline.ln args = some t) : ∃ m, Spells .ln args t m := by
  obtain ⟨arg, rfl, rfl⟩ := ln_eq_some spelled
  refine ⟨_, rfl, ⟨rfl, properAll_naturalLogarithm proper.1⟩, rfl, ?_⟩
  intro v xs x known result
  obtain ⟨z, base, unit, log, rfl, logBase, inverse, logArg, rfl⟩ := Function.value_ln result
  obtain ⟨noRange, found⟩ := (List.forall₂_cons.1 (singles_of_argumentValues known)).1
  exact items_group (value_naturalLogarithm noRange found logBase inverse logArg)

theorem properAll_discount {rate nper : List Node} (rateProper : ProperAll rate)
    (nperProper : ProperAll nper) : ProperAll (discount rate nper) := by
  have plus : (operator '+').Proper := .inl rfl
  have minus : (operator '-').Proper := .inl rfl
  have raised : (operator '^').Proper := .inl rfl
  have rateGroup := proper_group rateProper
  have growth := properAll_append_operator plus (properAll_single proper_one)
    (properAll_single rateGroup)
  have negated := properAll_operator_cons minus
    (properAll_single (proper_group nperProper))
  exact properAll_append_operator minus (properAll_single proper_one)
    (properAll_append_operator raised (properAll_single (proper_group growth))
      (properAll_single (proper_group negated)))

theorem properAll_presentValue {rate nper pmt : List Node} (rateProper : ProperAll rate)
    (nperProper : ProperAll nper) (pmtProper : ProperAll pmt) :
    ProperAll (presentValue rate nper pmt) := by
  have minus : (operator '-').Proper := .inl rfl
  have times : (operator '*').Proper := .inl rfl
  have slash : (operator '/').Proper := .inl rfl
  have rest := proper_group (properAll_discount rateProper nperProper)
  have quotient := properAll_append_operator slash (properAll_single rest)
    (properAll_single (proper_group rateProper))
  exact properAll_operator_cons minus
    (properAll_append_operator times (properAll_single (proper_group pmtProper)) quotient)

theorem total_discount {growth power left : ℚ} (found : v.power growth power = some left) :
    Item.total v [.value 1, .sign .minus, .value growth, .sign .power, .value power] =
      some (1 - left) := by
  simp [Item.total, Item.operand, Item.chain, Item.gather, Sign.level, Valuation.apply, found]

theorem total_presentValue {pmt rest rate x : ℚ} (found : quotient? (-pmt * rest) rate = some x) :
    Item.total v [.sign .minus, .value pmt, .sign .times, .value rest, .sign .divide, .value rate] =
      some x := by
  rw [neg_mul] at found
  simp [Item.total, Item.operand, Item.chain, Item.gather, Sign.level, Valuation.apply, found]

theorem value_discount {rate nper : List Node} {r n left : ℚ} (rateFound : value v rate = some r)
    (nperFound : value v nper = some n) (power : v.power (1 + r) (-n) = some left) :
    value v (discount rate nper) = some (1 - left) := by
  have growth : value v [one, operator '+', .group rate true] = some (1 + r) := by
    have whole : itemsAll v [one, operator '+', .group rate true] =
        some [.value 1, .sign .plus, .value r] := by
      have plus : items v (operator '+') = some [.sign .plus] := rfl
      simp [itemsAll, plus, items_one, items_group rateFound]
    exact value_eq_some.2 ⟨_, whole, rfl⟩
  have negated : value v [operator '-', .group nper true] = some (-n) := by
    have whole : itemsAll v [operator '-', .group nper true] = some [.sign .minus, .value n] := by
      have minus : items v (operator '-') = some [.sign .minus] := rfl
      simp [itemsAll, minus, items_group nperFound]
    exact value_eq_some.2 ⟨_, whole, rfl⟩
  have whole : itemsAll v (discount rate nper) =
      some [.value 1, .sign .minus, .value (1 + r), .sign .power, .value (-n)] := by
    have minus : items v (operator '-') = some [.sign .minus] := rfl
    have raised : items v (operator '^') = some [.sign .power] := rfl
    simp [discount, itemsAll, minus, raised, items_one, items_group growth, items_group negated]
  exact value_eq_some.2 ⟨_, whole, total_discount power⟩

theorem value_presentValue {rate nper pmt : List Node} {r n p left x : ℚ}
    (rateFound : value v rate = some r) (nperFound : value v nper = some n)
    (pmtFound : value v pmt = some p) (power : v.power (1 + r) (-n) = some left)
    (quotient : quotient? (-p * (1 - left)) r = some x) :
    value v (presentValue rate nper pmt) = some x := by
  have rest := items_group (value_discount rateFound nperFound power)
  have whole : itemsAll v (presentValue rate nper pmt) = some [.sign .minus, .value p,
      .sign .times, .value (1 - left), .sign .divide, .value r] := by
    have minus : items v (operator '-') = some [.sign .minus] := rfl
    have times : items v (operator '*') = some [.sign .times] := rfl
    have divided : items v (operator '/') = some [.sign .divide] := rfl
    simp [presentValue, itemsAll, minus, times, divided, items_group pmtFound, rest,
      items_group rateFound]
  exact value_eq_some.2 ⟨_, whole, total_presentValue quotient⟩

/-- A present value of five arguments is spelled out, but has no value of its own. -/
theorem pv_spells {args : List (List Node)} {t : Text} (proper : ProperArgs args)
    (spelled : Inline.pv args = some t) : ∃ m, Spells .pv args t m := by
  obtain ⟨rate, nper, pmt, given, rfl⟩ := Inline.pv_eq_some spelled
  have inside : ∀ arg ∈ [rate, nper, pmt], arg ∈ args := by
    rcases given with rfl | ⟨_, _, rfl, -⟩ <;> simp
  have rateProper := properArgs_iff.1 proper rate (inside rate (by simp))
  have nperProper := properArgs_iff.1 proper nper (inside nper (by simp))
  have pmtProper := properArgs_iff.1 proper pmt (inside pmt (by simp))
  refine ⟨.group (presentValue rate nper pmt) true, textAll_presentValue rate nper pmt,
    proper_group (properAll_presentValue rateProper nperProper pmtProper), rfl, ?_⟩
  intro v xs x known result
  obtain ⟨r, n, p, left, rfl, power, quotient⟩ := Function.value_pv result
  have singles := singles_of_argumentValues known
  rcases given with rfl | ⟨_, _, rfl, -⟩
  · simp only [List.forall₂_cons] at singles
    obtain ⟨rateFound, nperFound, pmtFound, -⟩ := singles
    exact items_group (value_presentValue rateFound.2 nperFound.2 pmtFound.2 power quotient)
  · simp [List.forall₂_cons] at singles

theorem column_spells {args : List (List Node)} {refs : List Ref} (proper : ProperArgs args)
    (column : Sum.columnRefs? args = some refs) : ∃ m, Spells .sum args (Sum.spell refs) m := by
  obtain ⟨arg, a, b, rfl, alone, rfl, some_ref⟩ := Sum.columnRefs?_eq_some column
  have terms : termNodes arg = (Area.refs a b).map fun r => [.ref r] := by
    simp [termNodes, range?_of_sole? alone]
  have some_term : termNodes arg ≠ [] := by simpa [terms] using some_ref
  have properTerms : ∀ t ∈ termNodes arg, ProperAll t := fun t member =>
    properAll_of_mem_termNodes proper.1 member
  refine ⟨.group (joined (termNodes arg)) true, ?_, proper_group (properAll_joined properTerms),
    rfl, ?_⟩
  · rw [terms, textAll_column]
  · intro v xs x known result
    obtain ⟨y, ys, first, nothing, rfl⟩ := argumentValues_cons.1 known
    cases nothing
    simp only [Function.value, List.flatMap_singleton, Option.some.injEq] at result
    subst result
    exact items_group (value_joined (value_termNodes first) some_term)

end Node
end CellGraph
