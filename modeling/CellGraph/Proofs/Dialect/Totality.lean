import CellGraph.Proofs.Dialect.Changes
import CellGraph.Proofs.Dialect.Percent
import CellGraph.Proofs.Expr.Rectangle
import CellGraph.Proofs.Parsing.Subtrees

/-!
# Conversions that fail

There is one way for a conversion to fail: a number with so many percent signs directly behind it
that the power of a hundred has no binary form (`convert_fails_iff`). Whatever else is looked up on
the way is there: numbers are read, the cells of areas have addresses, and a sum that is spelled out
is still the sum over a column that it was before.
-/

namespace CellGraph

/-! ## Numbers that are read -/

/-- Two classes that agree on the characters of a text take the same off its front. -/
theorem Text.takeWhile_congr {p q : Char → Bool} {t : Text} (agree : ∀ c ∈ t, p c = q c) :
    t.takeWhile p = t.takeWhile q ∧ t.dropWhile p = t.dropWhile q := by
  induction t with
  | nil => exact ⟨rfl, rfl⟩
  | cons c t ih =>
    rw [List.forall_mem_cons] at agree
    obtain ⟨taken, dropped⟩ := ih agree.2
    simp only [List.takeWhile_cons, List.dropWhile_cons, agree.1, taken, dropped, and_self]

theorem Exponent.scan_congr {p q : Char → Bool} {t : Text} (agree : ∀ c ∈ t, p c = q c) :
    scan p t = scan q t := by
  cases t with
  | nil => rfl
  | cons mark t =>
    rw [List.forall_mem_cons] at agree
    cases t with
    | nil => rfl
    | cons c r =>
      have tail := Text.takeWhile_congr agree.2
      have behind := Text.takeWhile_congr (List.forall_mem_cons.1 agree.2).2
      unfold scan
      dsimp only
      by_cases sign : c = '+' || c = '-'
      · simp only [sign, if_true, behind.1, behind.2]
      · simp only [sign, Bool.false_eq_true, if_false, tail.1, tail.2]

/-- Which classes of digits there are is a matter of the characters of a text. -/
theorem Literal.scan_congr {p q : Char → Bool} {t : Text} (agree : ∀ c ∈ t, p c = q c) :
    scan p t = scan q t := by
  obtain ⟨taken, dropped⟩ := Text.takeWhile_congr agree
  have tail : ∀ c ∈ t.dropWhile q, p c = q c := fun c member =>
    agree c ((List.dropWhile_sublist q).subset member)
  unfold scan
  rw [taken, dropped]
  split
  · next r point =>
    rw [point, List.forall_mem_cons] at tail
    obtain ⟨takenMore, droppedMore⟩ := Text.takeWhile_congr tail.2
    have exponent := Exponent.scan_congr fun c member =>
      tail.2 c ((List.dropWhile_sublist q).subset member)
    simp only [takenMore, droppedMore, exponent]
  · simp only [Exponent.scan_congr tail]

theorem Literal.Formed.isDecimal_eq {l : Literal} (formed : l.Formed) :
    ∀ c ∈ l.text, Text.isDecimal c = c.isDigit := by
  intro c member
  rcases formed.mem_text member with digit | mark
  · rw [digit, Text.isDecimal_of_isDigit digit]
  · simp only [isMark, Bool.or_eq_true, decide_eq_true_eq] at mark
    rcases mark with (((rfl | rfl) | rfl) | rfl) | rfl <;> decide

/-- A number as formulas write it is read. -/
theorem Literal.Formed.isSome_read? {l : Literal} (formed : l.Formed) :
    (Binary64.read? l.text).isSome := by
  have scanned : scan Text.isDecimal l.text = some (l, []) := by
    have read := scan_text formed (show Ends [] by simp [Ends])
    rwa [List.append_nil, ← scan_congr formed.isDecimal_eq] at read
  have unsigned : Binary64.scanSign l.text = (false, l.text) := by
    obtain ⟨c, t, start, first⟩ := formed.head
    rw [start]
    unfold Binary64.scanSign
    split
    · next same =>
      cases same
      exact absurd first (by decide)
    · next same =>
      cases same
      exact absurd first (by decide)
    · rfl
  simp [Binary64.read?, unsigned, scanned]

/-- The numbers of a formula are read. -/
theorem Parser.isSome_read? {formula t : Text}
    (inside : .leaf (.number t) ∈ Node.walkAll (parse formula)) : (Binary64.read? t).isSome := by
  obtain ⟨ts, suffix⟩ := exists_suffix_of_mem_parse inside
  have token : .number t ∈ Token.tokens formula := suffix.mem (by simp [Node.flat])
  obtain ⟨l, formed, rfl⟩ := Token.whole_of_mem_tokens token rfl (by rintro _ ⟨⟩)
  exact formed.isSome_read?

/-! ## Addresses that are read -/

theorem Text.digitValue?_lt {c : Char} {d : Nat} (found : digitValue? c = some d) : d < 10 := by
  obtain ⟨z, inside, rfl⟩ := Option.map_eq_some_iff.1 found
  have bounds := List.find?_some inside
  simp only [Bool.and_eq_true, decide_eq_true_eq] at bounds
  omega

theorem Text.natOfDigits_lt (t : Text) : natOfDigits t < 10 ^ t.length := by
  induction t using List.reverseRecOn with
  | nil => simp [natOfDigits]
  | append_singleton t c ih =>
    have digit : (digitValue? c).getD 0 < 10 := by
      cases found : digitValue? c with
      | none => simp
      | some d => exact digitValue?_lt found
    have step : natOfDigits (t ++ [c]) = 10 * natOfDigits t + (digitValue? c).getD 0 := by
      simp [natOfDigits]
    rw [step, List.length_append, List.length_singleton, Nat.pow_succ]
    omega

namespace Area

/-- A row that is read has few digits. -/
theorem row_lt_of_placeThen? {atEnd : Text → Bool} {address : Text} {p : Place}
    (found : placeThen? atEnd address = some p) : p.row < 10 ^ rowDigitLimit := by
  unfold placeThen? at found
  dsimp only at found
  split at found
  · next valid =>
    cases found
    exact Nat.lt_of_lt_of_le (Text.natOfDigits_lt _)
      (Nat.pow_le_pow_right (by decide) valid.2.2.2.1)
  · cases found

theorem isReadableRow_ofNat {n : Nat} (small : n < 10 ^ rowDigitLimit) :
    IsReadableRow (Text.ofNat n) where
  some_digit := Text.ofNat_ne_nil n
  digits _ member := Text.isDecimal_of_isDigit (Text.isDigit_of_mem_ofNat member)
  short := (Nat.length_toDigits_le_iff (by decide) (by decide)).2 small

/-- The cells of areas have addresses that are read. -/
theorem isSome_placeThen?_of_mem_cells {first last address : Text}
    (member : address ∈ cells first last) : (placeThen? (· = []) address).isSome := by
  unfold cells at member
  split at member
  · next a b firstFound lastFound =>
    rw [between_eq] at member
    obtain ⟨p, inside, rfl⟩ := List.mem_map.1 member
    obtain ⟨⟨fromFirst, toLast⟩, -, above⟩ := mem_rectangle.1 inside
    have low := placeThen?_bounds firstFound
    have high := placeThen?_bounds lastFound
    have letters := isColumn_lettersOfColumn (n := p.column) (by omega) (by omega)
    have digits := isReadableRow_ofNat (above.trans_lt (row_lt_of_placeThen? lastFound))
    rw [addressAt, placeThen?_address rfl letters digits]
    rfl
  · cases member

end Area

/-! ## Sums that are spelled out -/

namespace Sum

open Node (walk walkAll walkArgs expand expandAll expandArgs)

/-- Spells out a sum over a column, and does something else with any other sum. -/
def spellOutOr (otherwise : Node → Expansion) (n : Node) : Expansion :=
  match summands? n with
  | some args =>
    match columnRefs? args with
    | some refs => .of (Parser.parse (spell refs))
    | none => otherwise n
  | none => .keep n

/-- Whether a node is no sum, or one over a column. -/
def Spellable (n : Node) : Prop := ∀ args, summands? n = some args → (columnRefs? args).isSome

theorem spellOutOr_eq {n : Node} (spellable : Spellable n) (otherwise : Node → Expansion) :
    spellOutOr otherwise n = spellOut n := by
  unfold spellOutOr spellOut
  cases isSum : summands? n with
  | none => rfl
  | some args =>
    obtain ⟨refs, column⟩ := Option.isSome_iff_exists.1 (spellable args isSum)
    simp [column]

/-- Nothing is spelled out inside the argument of a sum over a column. -/
theorem expandArgs_of_column {args : List (List Node)} {refs : List Ref}
    (column : columnRefs? (Node.arguments args) = some refs) :
    expandArgs spellOut args = (args, []) := by
  obtain ⟨arg, a, b, single, alone, -, -⟩ := columnRefs?_eq_some column
  obtain rfl : args = [arg] := by
    rcases Node.arguments_cases args with whole | empty
    · rw [← whole, single]
    · rw [empty] at single
      cases single
  refine Node.expandArgs_of_keep fun m inside => ?_
  rw [walkArgs, walkArgs, List.append_nil] at inside
  rcases Node.mem_walkAll_of_solid (Node.solid_of_range? (Node.range?_of_sole? alone)) inside with
    space | within
  · cases m with
    | leaf t => rfl
    | _ => cases space
  · obtain rfl := List.mem_singleton.1 within
    rfl

/-- Spelling out leaves a sum over a column as it is until its own turn. -/
theorem spellable_expandArgs {name : Text} {args : List (List Node)} {closed : Bool}
    (spellable : Spellable (.call name args closed)) :
    Spellable (.call name (expandArgs spellOut args).1 closed) := by
  by_cases isSum : Inline.key name = Sum.name
  · have column := spellable (Node.arguments args) (by simp [summands?, isSum])
    obtain ⟨refs, column⟩ := Option.isSome_iff_exists.1 column
    rwa [expandArgs_of_column column]
  · rintro args found
    simp [summands?, isSum] at found

mutual

theorem expand_spellOutOr (otherwise : Node → Expansion) : ∀ {n : Node},
    (∀ m ∈ walk n, Spellable m) → expand (spellOutOr otherwise) n = expand spellOut n
  | .leaf _, _ | .ref _, _ | .range _ _, _ => rfl
  | .group body closed, spellable => by
    rw [walk, List.forall_mem_cons] at spellable
    simp only [expand, expandAll_spellOutOr otherwise spellable.2]
    rfl
  | .call name args closed, spellable => by
    rw [walk, List.forall_mem_cons] at spellable
    have here := spellOutOr_eq (spellable_expandArgs spellable.1) otherwise
    simp only [expand, expandArgs_spellOutOr otherwise spellable.2, here]

/-- If all sums of a formula are sums over columns, none of another kind is met while they are
spelled out: it does not matter what would be done with it. -/
theorem expandAll_spellOutOr (otherwise : Node → Expansion) : ∀ {ns : List Node},
    (∀ m ∈ walkAll ns, Spellable m) → expandAll (spellOutOr otherwise) ns = expandAll spellOut ns
  | [], _ => rfl
  | n :: ns, spellable => by
    rw [walkAll, List.forall_mem_append] at spellable
    simp only [expandAll, expand_spellOutOr otherwise spellable.1,
      expandAll_spellOutOr otherwise spellable.2]

theorem expandArgs_spellOutOr (otherwise : Node → Expansion) : ∀ {args : List (List Node)},
    (∀ m ∈ walkArgs args, Spellable m) →
      expandArgs (spellOutOr otherwise) args = expandArgs spellOut args
  | [], _ => rfl
  | arg :: args, spellable => by
    rw [walkArgs, List.forall_mem_append] at spellable
    simp only [expandArgs, expandAll_spellOutOr otherwise spellable.1,
      expandArgs_spellOutOr otherwise spellable.2]

end

theorem spellable_of_sums {ns : List Node}
    (columns : ∀ args ∈ sums ns, (columnRefs? args).isSome) : ∀ m ∈ walkAll ns, Spellable m :=
  fun m inside args isSum => columns args (List.mem_filterMap.2 ⟨m, inside, isSum⟩)

end Sum

/-! ## The only failure -/

/-- Whether a computation fails with a number that is too large, if it fails. -/
def OnlyTooLarge {α : Type} (x : Except NumberError α) : Prop := ∀ e, x = .error e → e = .tooLarge

theorem onlyTooLarge_ok {α : Type} (a : α) : OnlyTooLarge (.ok a) := by
  rintro e ⟨⟩

theorem OnlyTooLarge.bind {α β : Type} {x : Except NumberError α} {f : α → Except NumberError β}
    (first : OnlyTooLarge x) (rest : ∀ a, OnlyTooLarge (f a)) : OnlyTooLarge (x >>= f) := by
  cases x with
  | error e =>
    rintro e' ⟨⟩
    exact first e rfl
  | ok a => exact rest a

namespace Percent

theorem onlyTooLarge_quotient (number : Text) (signs : Nat) :
    OnlyTooLarge (quotient number signs) := by
  unfold quotient
  split
  · rintro e ⟨⟩
    rfl
  · exact onlyTooLarge_ok _

theorem onlyTooLarge_fold (behind : Bool) (ns : List Node) : OnlyTooLarge (fold behind ns) := by
  fun_induction fold behind ns with
  | case1 => exact onlyTooLarge_ok _
  | case2 _ _ _ _ ih => exact ih
  | case3 _ _ t signs _ _ ih =>
    exact (onlyTooLarge_quotient t (signs + 1)).bind fun _ => ih.bind fun _ => onlyTooLarge_ok _
  | case4 _ _ _ _ _ ih => exact ih.bind fun _ => onlyTooLarge_ok _

mutual

theorem onlyTooLarge_inside : ∀ n : Node, OnlyTooLarge (inside n)
  | .leaf _ | .ref _ | .range _ _ => onlyTooLarge_ok _
  | .group body _ => (onlyTooLarge_insideAll body).bind fun _ =>
    (onlyTooLarge_fold false _).bind fun _ => onlyTooLarge_ok _
  | .call _ args _ => (onlyTooLarge_insideArgs args).bind fun _ => onlyTooLarge_ok _

theorem onlyTooLarge_insideAll : ∀ ns : List Node, OnlyTooLarge (insideAll ns)
  | [] => onlyTooLarge_ok _
  | n :: ns => (onlyTooLarge_inside n).bind fun _ =>
    (onlyTooLarge_insideAll ns).bind fun _ => onlyTooLarge_ok _

theorem onlyTooLarge_insideArgs : ∀ args : List (List Node), OnlyTooLarge (insideArgs args)
  | [] => onlyTooLarge_ok _
  | arg :: args => (onlyTooLarge_insideAll arg).bind fun _ =>
    (onlyTooLarge_fold false _).bind fun _ =>
      (onlyTooLarge_insideArgs args).bind fun _ => onlyTooLarge_ok _

end

theorem onlyTooLarge_foldAll (ns : List Node) : OnlyTooLarge (foldAll ns) :=
  (onlyTooLarge_insideAll ns).bind fun _ => onlyTooLarge_fold false _

end Percent

namespace Step

theorem onlyTooLarge_run (step : Step) (ns : List Node) : OnlyTooLarge (step.run ns) := by
  cases step with
  | percentages =>
    have folds := Percent.onlyTooLarge_foldAll ns
    rw [run]
    cases found : Percent.foldAll ns with
    | ok folded => exact onlyTooLarge_ok _
    | error e =>
      rintro e' ⟨⟩
      exact folds e found
  | _ => exact onlyTooLarge_ok _

theorem onlyTooLarge_runAll (steps : List Step) (ns : List Node) :
    OnlyTooLarge (runAll steps ns) := by
  induction steps generalizing ns with
  | nil => exact onlyTooLarge_ok _
  | cons step steps ih =>
    exact (onlyTooLarge_run step ns).bind fun first =>
      (ih first.nodes).bind fun _ => onlyTooLarge_ok _

end Step

namespace Dialect

theorem onlyTooLarge_convert (formula : Text) : OnlyTooLarge (convert formula) :=
  ((Step.onlyTooLarge_runAll Step.all _).bind fun _ => onlyTooLarge_ok _).bind
    fun _ => onlyTooLarge_ok _

theorem exists_convert_iff {formula : Text} : (∃ c, convert formula = .ok c) ↔
    ∀ s ∈ Node.sequences (Parser.parse formula), ¬ Percent.Overflows s := by
  rw [← exists_convertTree_iff]
  simp only [convert_eq_ok]
  constructor
  · rintro ⟨_, e, converted, -⟩
    exact ⟨e, converted⟩
  · rintro ⟨e, converted⟩
    exact ⟨_, e, converted, rfl⟩

/-- Every formula is converted, except that a number with at least 155 percent signs directly behind
it, in any sequence at any depth, is too large. Nothing else can fail, for whatever tree: no step
but the first fails at all; the numbers of a formula are read; the cells of areas have addresses that
are read, so that there are column letters and row digits for all of them; and while sums over columns
are spelled out no other sum is met, so that it would not matter what is done with it. -/
theorem convert_fails_iff (formula : Text) :
    (∀ e, convert formula = .error e ↔ e = .tooLarge ∧
      ∃ s ∈ Node.sequences (Parser.parse formula), ∃ t,
        .leaf (.number t) :: List.replicate 155 (.leaf (.op ['%'])) <:+: s) ∧
    ((∃ c, convert formula = .ok c) ↔
      ¬ ∃ s ∈ Node.sequences (Parser.parse formula), ∃ t,
        .leaf (.number t) :: List.replicate 155 (.leaf (.op ['%'])) <:+: s) ∧
    (∀ step ≠ Step.percentages, ∀ ns, ∃ e, step.run ns = .ok e) ∧
    (∀ t, .leaf (.number t) ∈ Node.walkAll (Parser.parse formula) →
      (Binary64.read? t).isSome) ∧
    (∀ first last, ∀ address ∈ Area.cells first last,
      (Area.placeThen? (· = []) address).isSome) ∧
    ∀ ns, (∀ args ∈ Sum.sums ns, (Sum.columnRefs? args).isSome) → ∀ otherwise,
      Node.expandAll (Sum.spellOutOr otherwise) ns = Node.expandAll Sum.spellOut ns := by
  have returns : (∃ c, convert formula = .ok c) ↔
      ¬ ∃ s ∈ Node.sequences (Parser.parse formula), Percent.Overflows s := by
    rw [exists_convert_iff]
    simp only [not_exists, not_and]
  refine ⟨fun e => ?_, returns, ?_, fun t => Parser.isSome_read?,
    fun first last address => Area.isSome_placeThen?_of_mem_cells,
    fun ns columns otherwise => Sum.expandAll_spellOutOr otherwise (Sum.spellable_of_sums columns)⟩
  · constructor
    · intro failed
      refine ⟨onlyTooLarge_convert formula e failed, ?_⟩
      by_contra none
      obtain ⟨c, converted⟩ := returns.2 none
      rw [converted] at failed
      cases failed
    · rintro ⟨rfl, overflows⟩
      cases result : convert formula with
      | ok c => exact absurd overflows (returns.1 ⟨c, result⟩)
      | error e => rw [onlyTooLarge_convert formula e result]
  · intro step later ns
    cases step with
    | percentages => exact absurd rfl later
    | _ => exact ⟨_, rfl⟩

end Dialect
end CellGraph
