import CellGraph.Proofs.Dialect.Keeps
import CellGraph.Proofs.Dialect.Trees
import CellGraph.Proofs.Expr.Area
import CellGraph.Proofs.Numeral.Notation

/-!
# Spelled out calls keep dependencies

The bracket that a call is spelled out as is tight and names the cells that the arguments of the call
name (`Spelled`). The two arguments of a present value that are ignored name none.
-/

namespace CellGraph

/-! ## Signs -/

namespace Node

/-- The signs of arithmetic. -/
def Joiner (c : Char) : Prop := c ∈ ['+', '-', '*', '/', '^']

instance (c : Char) : Decidable (Joiner c) := inferInstanceAs (Decidable (c ∈ _))

theorem Joiner.facts {c : Char} (joiner : Joiner c) :
    Token.scanOperator? [c] = some ([c], []) ∧ c ≠ '<' ∧ c ≠ '>' ∧ c ≠ '=' := by
  simp only [Joiner, List.mem_cons, List.not_mem_nil, or_false] at joiner
  rcases joiner with rfl | rfl | rfl | rfl | rfl <;> exact ⟨rfl, by decide⟩

theorem tight_operator {c : Char} (joiner : Joiner c) (s : Site) : Tight s (operator c) :=
  ⟨joiner.facts.1, by cases s <;> rfl, fun _ => trivial⟩

/-- A sign stays apart from what stands in front of it. -/
theorem parted_operator {c : Char} (joiner : Joiner c) {n : Node}
    (ended : ∀ t, n = .leaf t → t.Ended) : Parted n (operator c) where
  terms := by simp [isTerm, Token.isOperand]
  spaces := by simp [isSpace]
  ended := ended
  operators := by
    rintro t _ - ⟨⟩ d ⟨⟩
    exact ⟨fun _ => joiner.facts.2.2, fun _ => joiner.facts.2.2.2⟩

/-- A sign stays apart from what stands behind it. -/
theorem operator_parted {c : Char} (joiner : Joiner c) (n : Node) : Parted (operator c) n where
  terms := by simp [isTerm, Token.isOperand]
  spaces := by simp [isSpace]
  ended := by
    rintro _ ⟨⟩
    trivial
  operators := by
    rintro _ u ⟨⟩ - d -
    have facts := joiner.facts
    exact ⟨fun same => absurd (List.cons.inj same).1 facts.2.1,
      fun same => absurd (List.cons.inj same).1 facts.2.2.1⟩

theorem joins_append_operator {n : Node} {ns : List Node} (apart : joins n ns = false) (c : Char)
    (ms : List Node) : joins n (ns ++ operator c :: ms) = false := by
  rw [Bool.eq_false_iff]
  intro joined
  obtain ⟨r, k, behind, rfl, range, same⟩ := joins_eq_true joined
  match ns with
  | [] => cases same
  | [colon] =>
    obtain ⟨rfl, rfl, -⟩ : colon = .leaf .colon ∧ operator c = k ∧ ms = behind := by simpa using same
    cases range
  | colon :: l :: ns =>
    obtain ⟨rfl, rfl, -⟩ : colon = .leaf .colon ∧ l = k ∧ ns ++ operator c :: ms = behind := by
      simpa using same
    rw [joins_of_startsRange r range] at apart
    cases apart

/-- A node inside brackets ends by itself. -/
theorem ended_of_tight {n : Node} {s : Site} (tight : Tight s n) (inside : s ≠ .top) :
    ∀ t, n = .leaf t → t.Ended := by
  rintro t rfl
  exact tight.2.2 inside

theorem tightAll_append_operator {ms ns : List Node} {c : Char} (joiner : Joiner c)
    (first : TightAll .group ms) (second : TightAll .group ns) :
    TightAll .group (ms ++ operator c :: ns) := by
  induction ms with
  | nil =>
    exact ⟨tight_operator joiner .group, rfl, fun n _ => operator_parted joiner n, second⟩
  | cons m ms ih =>
    obtain ⟨tight, apart, parted, others⟩ := first
    refine ⟨tight, joins_append_operator apart c ns, fun n head => ?_, ih others⟩
    cases ms with
    | nil =>
      obtain rfl : operator c = n := by simpa using head
      exact parted_operator joiner (ended_of_tight tight (by simp))
    | cons m' ms => exact parted n (by simpa using head)

theorem tightAll_operator_cons {ns : List Node} {c : Char} (joiner : Joiner c)
    (behind : TightAll .group ns) : TightAll .group (operator c :: ns) := by
  have nothing : TightAll .group [] := trivial
  exact tightAll_append_operator joiner nothing behind

theorem tightAll_joined {terms : List (List Node)} (tight : ∀ t ∈ terms, TightAll .group t) :
    TightAll .group (joined terms) := by
  induction terms with
  | nil => trivial
  | cons t terms ih =>
    have first := tight t (by simp)
    have rest := ih fun u member => tight u (by simp [member])
    cases terms with
    | nil => simpa [joined] using first
    | cons u terms =>
      rw [joined, List.intercalate_cons_cons, List.append_assoc]
      exact tightAll_append_operator (by decide) first rest

theorem dependencies_joined (terms : List (List Node)) :
    dependencies (joined terms) = terms.flatMap dependencies := by
  induction terms with
  | nil => rfl
  | cons t terms ih =>
    cases terms with
    | nil => simp [joined]
    | cons u terms =>
      rw [joined] at ih ⊢
      simp [List.intercalate_cons_cons, ih]

theorem tightAll_single {s : Site} {n : Node} (tight : Tight s n) : TightAll s [n] :=
  ⟨tight, by cases n <;> rfl, by simp, trivial⟩

theorem tight_group {s : Site} {body : List Node} (tight : TightAll .group body) :
    Tight s (.group body true) :=
  ⟨rfl, tight⟩

/-! ## Arguments in groups -/

/-- Whatever may stand in an argument may stand in a group. -/
theorem tight_group_of_argument {n : Node} (tight : Tight .argument n) : Tight .group n := by
  cases n with
  | leaf t =>
    obtain ⟨whole, admitted, ended⟩ := tight
    refine ⟨whole, ?_, fun _ => ended (by simp)⟩
    cases t with
    | comma => rfl
    | _ => exact admitted
  | _ => exact tight

theorem tightAll_group_of_argument {ns : List Node} (tight : TightAll .argument ns) :
    TightAll .group ns := by
  induction ns with
  | nil => trivial
  | cons n ns ih =>
    obtain ⟨first, apart, parted, others⟩ := tight
    exact ⟨tight_group_of_argument first, apart, parted, ih others⟩

/-! ## Spelled out calls -/

/-- The inside of a bracket that stands for a call: it is tight, and it names the cells that the
arguments name. -/
structure Spelled (args : List (List Node)) (body : List Node) : Prop where
  tight : TightAll .group body
  cells : ∀ place, place ∈ dependencies body ↔ place ∈ args.flatMap dependencies

theorem tight_of_range? {s : Site} {arg : List Node} {a b : Ref} (tight : TightAll s arg)
    (range : range? arg = some (a, b)) : a.Formed ∧ b.Formed := by
  have inside : Node.range a b ∈ solid arg := by simp [solid_of_range? range]
  exact tight_of_mem tight _ (List.mem_filter.1 inside).1

theorem tightAll_of_mem_termNodes {arg t : List Node} (tight : TightAll .argument arg)
    (member : t ∈ termNodes arg) : TightAll .group t := by
  unfold termNodes at member
  split at member
  · next a b range =>
    obtain ⟨first, last⟩ := tight_of_range? tight range
    obtain ⟨r, inRefs, rfl⟩ := List.mem_map.1 member
    exact tightAll_single (n := .ref r) (Area.formed_of_mem_refs first last inRefs)
  · rw [List.mem_singleton.1 member]
    exact tightAll_group_of_argument tight

theorem dependencies_termNodes (arg : List Node) :
    (termNodes arg).flatMap dependencies = dependencies arg := by
  unfold termNodes
  split
  · next a b range =>
    rw [dependencies_of_range? range, List.flatMap_map, List.map_eq_flatMap]
    simp
  · simp

theorem spelled_mean {args : List (List Node)} (tight : TightArgs args) :
    Spelled args (mean (args.flatMap termNodes)) where
  tight := by
    have terms : ∀ t ∈ args.flatMap termNodes, TightAll .group t := by
      intro t member
      obtain ⟨arg, inArgs, inTerms⟩ := List.mem_flatMap.1 member
      exact tightAll_of_mem_termNodes (tightArgs_iff.1 tight arg inArgs) inTerms
    exact tightAll_append_operator (by decide)
      (tightAll_single (tight_group (tightAll_joined terms)))
      (tightAll_single (tight_number (whole_ofNat _)))
  cells := by
    have same : args.flatMap (fun arg => (termNodes arg).flatMap dependencies) =
        args.flatMap dependencies := by simp only [dependencies_termNodes]
    simp [mean, dependencies_joined, List.flatMap_assoc, same]

theorem spelled_column {arg : List Node} {a b : Ref} (tight : TightArgs [arg])
    (range : range? arg = some (a, b)) :
    Spelled [arg] (joined ((Area.refs a b).map fun r => [.ref r])) where
  tight := by
    obtain ⟨first, last⟩ := tight_of_range? tight.1 range
    refine tightAll_joined fun t member => ?_
    obtain ⟨r, inRefs, rfl⟩ := List.mem_map.1 member
    exact tightAll_single (n := .ref r) (Area.formed_of_mem_refs first last inRefs)
  cells := by
    have terms : termNodes arg = (Area.refs a b).map fun r => [.ref r] := by
      simp [termNodes, range]
    rw [← terms, dependencies_joined, dependencies_termNodes]
    simp

theorem spelled_products {first second : List Node} {a b c d : Ref}
    (tight : TightArgs [first, second]) (left : range? first = some (a, b))
    (right : range? second = some (c, d))
    (fits : (Area.refs a b).length = (Area.refs c d).length) :
    Spelled [first, second] (products ((Area.refs a b).zip (Area.refs c d))) where
  tight := by
    obtain ⟨formedA, formedB⟩ := tight_of_range? tight.1 left
    obtain ⟨formedC, formedD⟩ := tight_of_range? tight.2.1 right
    refine tightAll_operator_cons (by decide) (tightAll_joined fun t member => ?_)
    obtain ⟨p, paired, rfl⟩ := List.mem_map.1 member
    obtain ⟨inLeft, inRight⟩ := List.of_mem_zip paired
    exact tightAll_append_operator (by decide)
      (tightAll_single (n := .ref p.1) (Area.formed_of_mem_refs formedA formedB inLeft))
      (tightAll_single (n := .ref p.2) (Area.formed_of_mem_refs formedC formedD inRight))
  cells := by
    intro place
    have leftCells := dependencies_of_range? left
    have rightCells := dependencies_of_range? right
    rw [← List.map_fst_zip (Nat.le_of_eq fits)] at leftCells
    rw [← List.map_snd_zip (Nat.le_of_eq fits.symm)] at rightCells
    simp only [products, dependencies_cons, cells_leaf, List.nil_append, dependencies_joined,
      List.flatMap_map, List.flatMap_cons, List.flatMap_nil, List.append_nil, leftCells, rightCells,
      List.map_map, List.mem_append, List.mem_flatMap, List.mem_map]
    simp [product, eq_comm, and_or_left, exists_or]

theorem tight_logarithm {s : Site} {arg : List Node} (tight : TightAll .argument arg) :
    Tight s (logarithm arg) :=
  ⟨rfl, ⟨'l', ['o', 'g', '1', '0'], rfl, rfl, List.all_eq_true.1 rfl⟩, by simp, tight, trivial⟩

/-- A space stays apart from everything but white space. -/
theorem parted_blank {n : Node} (noSpace : n.isSpace = false) (ended : ∀ t, n = .leaf t → t.Ended) :
    Parted n blank ∧ Parted blank n :=
  ⟨⟨by simp [isTerm, Token.isOperand], by simp [noSpace], ended, by simp⟩,
    ⟨by simp [isTerm, Token.isOperand], by simp [noSpace], by rintro _ ⟨⟩; trivial, by simp⟩⟩

theorem tight_one (s : Site) : Tight s one :=
  tight_number (Literal.whole_of_scan (l := ⟨['1'], none, none⟩) rfl)

theorem tight_base (s : Site) : Tight s base :=
  tight_number (Literal.whole_of_scan (l := ⟨"2", some "71828", none⟩) rfl)

theorem spelled_naturalLogarithm {arg : List Node} (tight : TightArgs [arg]) :
    Spelled [arg] (naturalLogarithm arg) where
  tight := by
    have space : Tight .group blank := ⟨⟨by simp, List.all_eq_true.1 rfl⟩, rfl, fun _ => trivial⟩
    have baseLog : Tight .group (logarithm [base]) :=
      tight_logarithm (tightAll_single (tight_base .argument))
    have argLog : Tight .group (logarithm arg) := tight_logarithm tight.1
    have unit := parted_blank (n := one) rfl (by rintro _ ⟨⟩; trivial)
    have slash := parted_blank (n := operator '/') rfl (by rintro _ ⟨⟩; trivial)
    have times := parted_blank (n := operator '*') rfl (by rintro _ ⟨⟩; trivial)
    have log := fun arg => parted_blank (n := logarithm arg) rfl (by simp [logarithm])
    have first := tight_operator (c := '/') (by decide) .group
    have second := tight_operator (c := '*') (by decide) .group
    simp [naturalLogarithm, TightAll, tight_one, space, baseLog, argLog, unit, slash, times, log,
      first, second, joins]
  cells := by simp [naturalLogarithm, logarithm, one, base]

theorem spelled_presentValue {rate nper pmt : List Node} (tight : TightArgs [rate, nper, pmt]) :
    Spelled [rate, nper, pmt] (presentValue rate nper pmt) where
  tight := by
    obtain ⟨rateTight, nperTight, pmtTight, -⟩ := tight
    have bracket : ∀ {arg}, TightAll .argument arg → TightAll .group [.group arg true] :=
      fun inside => tightAll_single (tight_group (tightAll_group_of_argument inside))
    have unit := tightAll_single (tight_one .group)
    have growth := tightAll_append_operator (c := '+') (by decide) unit (bracket rateTight)
    have negated := tightAll_operator_cons (c := '-') (by decide) (bracket nperTight)
    have power := tightAll_append_operator (c := '^') (by decide)
      (tightAll_single (tight_group growth)) (tightAll_single (tight_group negated))
    have left : TightAll .group (discount rate nper) :=
      tightAll_append_operator (c := '-') (by decide) unit power
    have quotient := tightAll_append_operator (c := '/') (by decide)
      (tightAll_single (tight_group left)) (bracket rateTight)
    exact tightAll_operator_cons (c := '-') (by decide)
      (tightAll_append_operator (c := '*') (by decide) (bracket pmtTight) quotient)
  cells := by
    intro place
    simp only [presentValue, discount, one, dependencies_cons, dependencies_nil, cells_leaf,
      cells_group, List.nil_append, List.append_nil, List.mem_append, List.flatMap_cons,
      List.flatMap_nil]
    tauto

end Node

/-! ## Ignored arguments -/

theorem Text.mem_dropWhile {p : Char → Bool} {t : Text} {c : Char} (member : c ∈ t)
    (other : p c = false) : c ∈ t.dropWhile p := by
  rw [← List.takeWhile_append_dropWhile (p := p) (l := t)] at member
  rcases List.mem_append.1 member with dropped | kept
  · rw [takeWhile_inside t c dropped] at other
    cases other
  · exact kept

/-- White space at the ends is all that is trimmed. -/
theorem Text.mem_trim {t : Text} {c : Char} (member : c ∈ t) (noBlank : isBlank c = false) :
    c ∈ trim t := by
  have inFront := mem_dropWhile member noBlank
  exact List.mem_reverse.2 (mem_dropWhile (List.mem_reverse.2 inFront) noBlank)

namespace Node

mutual

theorem exists_upper_of_cells : ∀ {n : Node} {s : Site}, Tight s n → n.cells ≠ [] →
    ∃ c ∈ n.text, c.isUpper
  | .leaf _, _, _, named => absurd rfl named
  | .ref _, _, formed, _ => formed.exists_upper
  | .range a b, _, ⟨first, _⟩, _ => by
    obtain ⟨c, member, capital⟩ := first.exists_upper
    exact ⟨c, by simp [text, write, rangeText, member], capital⟩
  | .group body closed, _, ⟨_, tight⟩, named => by
    rw [cells_group] at named
    obtain ⟨c, member, capital⟩ := exists_upper_of_dependencies tight named
    rw [textAll] at member
    exact ⟨c, by simp [text, write, member], capital⟩
  | .call name args closed, _, ⟨_, _, _, tight⟩, named => by
    rw [cells_call] at named
    obtain ⟨c, member, capital⟩ := exists_upper_of_args tight named
    exact ⟨c, by simp [text, write, member], capital⟩

/-- What names cells has the capital of an address. -/
theorem exists_upper_of_dependencies : ∀ {ns : List Node} {s : Site}, TightAll s ns →
    dependencies ns ≠ [] → ∃ c ∈ textAll ns, c.isUpper
  | [], _, _, named => absurd rfl named
  | n :: ns, _, ⟨tight, _, _, others⟩, named => by
    rw [textAll, writeAll, ← text, ← textAll]
    by_cases first : n.cells = []
    · rw [dependencies_cons, first, List.nil_append] at named
      obtain ⟨c, member, capital⟩ := exists_upper_of_dependencies others named
      exact ⟨c, List.mem_append_right _ member, capital⟩
    · obtain ⟨c, member, capital⟩ := exists_upper_of_cells tight first
      exact ⟨c, List.mem_append_left _ member, capital⟩

theorem exists_upper_of_args : ∀ {args : List (List Node)}, TightArgs args →
    args.flatMap dependencies ≠ [] → ∃ c ∈ writeArgs Ref.text rangeText args, c.isUpper
  | [], _, named => absurd rfl named
  | [arg], ⟨tight, _⟩, named => exists_upper_of_dependencies tight (by simpa using named)
  | arg :: next :: args, ⟨tight, others⟩, named => by
    rw [writeArgs.eq_3 _ _ _ _ (by simp), ← textAll]
    by_cases first : dependencies arg = []
    · rw [List.flatMap_cons, first, List.nil_append] at named
      obtain ⟨c, member, capital⟩ := exists_upper_of_args others named
      exact ⟨c, List.mem_append_right _ (List.mem_cons_of_mem _ member), capital⟩
    · obtain ⟨c, member, capital⟩ := exists_upper_of_dependencies tight first
      exact ⟨c, List.mem_append_left _ member, capital⟩

end

/-- What is ignored in a present value names no cells. -/
theorem dependencies_due {due : List Node} (tight : TightAll .argument due)
    (one : Text.trim (textAll due) = ['1']) : dependencies due = [] := by
  by_contra named
  obtain ⟨c, member, capital⟩ := exists_upper_of_dependencies tight named
  have noBlank : Text.isBlank c = false := by
    rw [Bool.eq_false_iff]
    intro blank
    simp [(Token.plain_of_isBlank blank).not_upper] at capital
  have trimmed := Text.mem_trim member noBlank
  rw [one, List.mem_singleton] at trimmed
  subst trimmed
  exact absurd capital (by decide)

theorem spelled_pv {args : List (List Node)} {t : Text} (tight : TightArgs args)
    (spelled : Inline.pv args = some t) :
    ∃ body, t = textAll [.group body true] ∧ Spelled args body := by
  obtain ⟨rate, nper, pmt, given, rfl⟩ := Inline.pv_eq_some spelled
  rw [← textAll_presentValue]
  rcases given with rfl | ⟨future, due, rfl, noFuture, isOne⟩
  · exact ⟨_, rfl, spelled_presentValue tight⟩
  · obtain ⟨rateTight, nperTight, pmtTight, -, dueTight, -⟩ := tight
    have body := spelled_presentValue ⟨rateTight, nperTight, pmtTight, trivial⟩
    have futureCells : dependencies future = [] := by
      rw [← dependencies_solid, noFuture, dependencies_nil]
    refine ⟨_, rfl, body.tight, fun place => ?_⟩
    simp [body.cells, futureCells, dependencies_due dueTight isOne]

end Node

end CellGraph
