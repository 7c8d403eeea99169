import CellGraph.Proofs.Dialect.Keeps
import CellGraph.Proofs.Dialect.Percent
import CellGraph.Proofs.Numeral.Notation

/-!
# Percentages keep dependencies

A number divided by powers of a hundred is written without sign: as a number, or as a word that is
read back as a name. It stays apart from what stands behind its percent signs, as long as no operand
does.
-/

namespace CellGraph

open Token (Whole)
open Node (Tight TightAll TightArgs Parted Replaces Keeps KeepsAll Conserves joins dependencies
  walk walkAll walkArgs sequencesIn)

namespace Percent

/-! ## Quotients -/

theorem whole_settle_word {t : Text} (word : t = "inf" ∨ t = "nan") :
    (Token.settle (.number t)).Whole := by
  rw [Token.settle, if_pos word]
  rcases word with rfl | rfl
  · exact ⟨'i', ['n', 'f'], rfl, .inl rfl, List.all_eq_true.1 rfl, rfl⟩
  · exact ⟨'n', ['a', 'n'], rfl, .inl rfl, List.all_eq_true.1 rfl, rfl⟩

/-- A quotient is a number or is read back as a name. -/
theorem whole_settle_quotient {number value : Text} {signs : Nat}
    (whole : (Token.settle (.number number)).Whole) (found : quotient number signs = .ok value) :
    (Token.settle (.number value)).Whole := by
  have noSign : number.head? ≠ some '-' := by
    obtain ⟨c, t, start, first⟩ := Token.start_of_operand whole rfl
    rw [show number = c :: t from start]
    rintro ⟨⟩
    rcases first with listed | word
    · revert listed
      decide
    · revert word
      decide
  have unsigned : ((Binary64.read? number).getD .nan).Unsigned := by
    cases read : Binary64.read? number with
    | none => trivial
    | some x => exact Binary64.unsigned_read? noSign read
  unfold quotient at found
  split at found
  · cases found
  · next scale power =>
    cases found
    have positive := Binary64.unsigned_ofInt? power
    rcases (unsigned.div positive).plainText_cases with word | word | number
    · exact whole_settle_word (.inl word)
    · exact whole_settle_word (.inr word)
    · rwa [Token.settle_of_whole number]

/-! ## One sequence -/

/-- What a sequence is folded to: numbers take the percent signs behind them. -/
inductive Folds : List Node → List Node → Prop
  | nil : Folds [] []
  | keep {n : Node} {ns ms : List Node} (rest : Folds ns ms) : Folds (n :: ns) (n :: ms)
  | number {t value : Text} {count signs : Nat} {ns ms : List Node}
      (found : quotient t count = .ok value) (rest : Folds ns ms) :
      Folds (.leaf (.number t) :: (List.replicate signs sign ++ ns)) (.leaf (.number value) :: ms)

/-- Behind a number first come its percent signs, and elsewhere none are dropped. -/
theorem folds_of_fold {behind : Bool} {ns ms : List Node} (found : fold behind ns = .ok ms) :
    ∃ signs rest, ns = List.replicate signs sign ++ rest ∧ (behind = false → signs = 0) ∧
      Folds rest ms := by
  fun_induction fold behind ns generalizing ms with
  | case1 =>
    cases found
    exact ⟨0, [], rfl, fun _ => rfl, .nil⟩
  | case2 behind n ns isBehind ih =>
    obtain ⟨signs, rest, rfl, -, folds⟩ := ih found
    simp only [Bool.and_eq_true] at isBehind
    obtain rfl := isSign_iff.1 isBehind.2
    exact ⟨signs + 1, rest, by simp [List.replicate_succ], by simp [isBehind.1], folds⟩
  | case3 behind ns t signs _ _ ih =>
    obtain ⟨value, divided, found⟩ := Except.bind_eq_ok.1 found
    obtain ⟨rest, restFound, found⟩ := Except.bind_eq_ok.1 found
    cases found
    obtain ⟨signs, _, rfl, -, folds⟩ := ih restFound
    exact ⟨0, _, rfl, fun _ => rfl, .number divided folds⟩
  | case4 behind n ns _ _ ih =>
    obtain ⟨rest, restFound, found⟩ := Except.bind_eq_ok.1 found
    cases found
    obtain ⟨signs, _, rfl, none_dropped, folds⟩ := ih restFound
    obtain rfl := none_dropped rfl
    exact ⟨0, _, rfl, fun _ => rfl, .keep folds⟩

/-- No operand directly behind another or behind a percent sign. -/
def Divided (m n : Node) : Prop := ¬ ((m.isTerm ∨ isSign m) ∧ n.isTerm)

instance : DecidableRel Divided := fun _ _ => inferInstanceAs (Decidable (¬ _))

variable {s : Site} {ns ms : List Node}

theorem Folds.replaces_head (folds : Folds ns ms) :
    ∀ m ∈ ms.head?, ∃ n ∈ ns.head?, Replaces n m := by
  cases folds with
  | nil => simp
  | @keep n _ _ rest =>
    rintro _ ⟨⟩
    exact ⟨n, rfl, .refl n⟩
  | @number t value _ _ _ _ _ rest =>
    rintro _ ⟨⟩
    exact ⟨_, rfl, .inr ⟨rfl, Node.compact_leaf rfl trivial⟩⟩

/-- Folding makes no ranges. -/
theorem Folds.joins (folds : Folds ns ms) {n : Node} (apart : joins n ns = false) :
    joins n ms = false := by
  rw [Bool.eq_false_iff]
  intro joined
  obtain ⟨r, k, behind, rfl, range, rfl⟩ := Node.joins_eq_true joined
  cases folds with
  | keep rest =>
    cases rest with
    | keep rest =>
      rw [Node.joins_of_startsRange r range] at apart
      cases apart
    | number found rest => cases range

theorem Folds.dependencies (folds : Folds ns ms) : dependencies ms = dependencies ns := by
  induction folds with
  | nil => rfl
  | keep _ ih => simp [ih]
  | @number t value count signs ns ms found rest ih =>
    have none_named : Node.dependencies (List.replicate signs sign) = [] := by
      clear rest ih
      induction signs with
      | zero => rfl
      | succ signs ih => simp [List.replicate_succ, ih]
    simp [ih, none_named]

theorem tightAll_of_append (tight : TightAll s (ms ++ ns)) : TightAll s ns := by
  induction ms with
  | nil => exact tight
  | cons m ms ih => exact ih tight.2.2.2

/-- What stands behind a number and its percent signs is no operand. -/
theorem not_term_behind {t : Text} {signs : Nat}
    (divided : (.leaf (.number t) :: (List.replicate signs sign ++ ns)).IsChain Divided) :
    ∀ n ∈ ns.head?, n.isTerm = false := by
  intro n first
  rw [← List.cons_append, List.isChain_append] at divided
  obtain ⟨k, last⟩ : ∃ k, k ∈ (.leaf (.number t) :: List.replicate signs sign : List Node).getLast? :=
    ⟨_, List.getLast?_eq_some_getLast (by simp)⟩
  have ends : k.isTerm ∨ isSign k := by
    rcases List.mem_cons.1 (List.mem_of_mem_getLast? last) with rfl | isSign
    · exact .inl rfl
    · exact .inr (isSign_iff.2 (List.eq_of_mem_replicate isSign))
  have apart := divided.2.2 k last n first
  simpa using fun term => apart ⟨ends, term⟩

theorem Folds.tightAll (folds : Folds ns ms) (tight : TightAll s ns) (divided : ns.IsChain Divided) :
    TightAll s ms := by
  induction folds with
  | nil => trivial
  | keep rest ih =>
    obtain ⟨first, apart, parted, others⟩ := tight
    refine ⟨first, rest.joins apart, fun m head => ?_, ih others divided.tail⟩
    obtain ⟨n, same, replaces⟩ := rest.replaces_head m head
    exact (parted n same).replace (.refl _) replaces
  | @number t value count signs ns ms found rest ih =>
    have others : TightAll s ns := tightAll_of_append tight.2.2.2
    have dividedRest : ns.IsChain Divided := divided.tail.right_of_append
    have written : Tight s (.leaf (.number value)) :=
      ⟨whole_settle_quotient tight.1.1 found, by cases s <;> rfl, fun _ => trivial⟩
    refine ⟨written, rfl, fun m head => ?_, ih others dividedRest⟩
    obtain ⟨n, same, replaces⟩ := rest.replaces_head m head
    have noTerm : m.isTerm = false := by
      rw [replaces.isTerm, not_term_behind divided n same]
    refine ⟨by simp [noTerm], by simp [Node.isSpace], ?_, by simp⟩
    rintro _ ⟨⟩
    trivial

theorem conserves_fold {folded : List Node} (tight : TightAll s ns) (divided : ns.IsChain Divided)
    (found : fold false ns = .ok folded) : Conserves s ns folded := by
  obtain ⟨signs, rest, rfl, none_dropped, folds⟩ := folds_of_fold found
  obtain rfl := none_dropped rfl
  exact ⟨folds.tightAll tight divided, by simp [folds.dependencies]⟩

/-! ## Whole trees -/

theorem isSign_of_replaces {n m : Node} (replaces : Replaces n m) : isSign m = isSign n := by
  have noSign : ∀ {k : Node}, k.isTerm → isSign k = false := fun {k} term => by
    rw [Bool.eq_false_iff, ne_eq, isSign_iff]
    rintro rfl
    cases term
  rcases replaces with rfl | ⟨before, after⟩
  · rfl
  · rw [noSign before, noSign after.term]

theorem divided_of_keeps (keeps : KeepsAll s ns ms) (divided : ns.IsChain Divided) :
    ms.IsChain Divided := by
  induction keeps with
  | nil => exact .nil
  | @cons n m ns ms first rest ih =>
    rw [List.isChain_cons] at divided ⊢
    refine ⟨?_, ih divided.2⟩
    cases rest with
    | nil => simp
    | @cons n' m' ns ms second _ =>
      rintro k ⟨⟩
      have before := divided.1 n' rfl
      unfold Divided at before ⊢
      rwa [first.replaces.isTerm, isSign_of_replaces first.replaces, second.replaces.isTerm]

/-- A sequence that is folded after its nodes. -/
theorem conserves_fold_of_keeps {inner folded : List Node} (tight : TightAll s ns)
    (divided : ns.IsChain Divided) (keeps : KeepsAll s ns inner)
    (found : fold false inner = .ok folded) : Conserves s ns folded := by
  have inside := keeps.conserves tight
  exact inside.trans (conserves_fold inside.tight (divided_of_keeps keeps divided) found)

mutual

theorem keeps_inside : ∀ {n folded : Node} {s : Site}, Tight s n →
    (∀ m ∈ walk n, ∀ q ∈ m.sequencesIn, q.IsChain Divided) → inside n = .ok folded →
    Keeps s n folded
  | .leaf _, _, _, tight, _, found | .ref _, _, _, tight, _, found
  | .range _ _, _, _, tight, _, found => by
    cases found
    exact .refl tight
  | .group body closed, folded, s, tight, divided, found => by
    obtain ⟨inner, outer, innerFound, outerFound, rfl⟩ := inside_group_eq_ok.1 found
    simp only [walk, List.forall_mem_cons, sequencesIn] at divided
    have keeps := keeps_insideAll tight.2 divided.2 innerFound
    exact .group (conserves_fold_of_keeps tight.2 divided.1.1 keeps outerFound) tight
  | .call name args closed, folded, s, tight, divided, found => by
    obtain ⟨inner, innerFound, rfl⟩ := inside_call_eq_ok.1 found
    simp only [walk, List.forall_mem_cons, sequencesIn] at divided
    exact .call (conserves_insideArgs tight.2.2.2 divided.1 divided.2 innerFound) tight

theorem keeps_insideAll : ∀ {ns folded : List Node} {s : Site}, TightAll s ns →
    (∀ m ∈ walkAll ns, ∀ q ∈ m.sequencesIn, q.IsChain Divided) → insideAll ns = .ok folded →
    KeepsAll s ns folded
  | [], _, _, _, _, found => by
    cases found
    exact .nil
  | n :: ns, folded, s, ⟨tight, _, _, others⟩, divided, found => by
    obtain ⟨first, rest, firstFound, restFound, rfl⟩ := insideAll_cons_eq_ok.1 found
    rw [walkAll, List.forall_mem_append] at divided
    exact .cons (keeps_inside tight divided.1 firstFound)
      (keeps_insideAll others divided.2 restFound)

theorem conserves_insideArgs : ∀ {args folded : List (List Node)}, TightArgs args →
    (∀ arg ∈ args, arg.IsChain Divided) →
    (∀ m ∈ walkArgs args, ∀ q ∈ m.sequencesIn, q.IsChain Divided) → insideArgs args = .ok folded →
    List.Forall₂ (Conserves .argument) args folded
  | [], _, _, _, _, found => by
    cases found
    exact .nil
  | arg :: args, folded, ⟨tight, others⟩, own, divided, found => by
    obtain ⟨inner, first, rest, innerFound, firstFound, restFound, rfl⟩ :=
      insideArgs_cons_eq_ok.1 found
    rw [walkArgs, List.forall_mem_append] at divided
    rw [List.forall_mem_cons] at own
    have keeps := keeps_insideAll tight divided.1 innerFound
    exact .cons (conserves_fold_of_keeps tight own.1 keeps firstFound)
      (conserves_insideArgs others own.2 divided.2 restFound)

end

/-- Folding percentages keeps tight trees tight and their cells the same, if no operand stands
directly behind another or behind a percent sign. -/
theorem conserves_foldAll {folded : List Node} (tight : TightAll s ns)
    (divided : ∀ q ∈ Node.sequences ns, q.IsChain Divided) (found : foldAll ns = .ok folded) :
    Conserves s ns folded := by
  obtain ⟨inner, innerFound, found⟩ := foldAll_eq_ok.1 found
  rw [Node.forall_sequences] at divided
  exact conserves_fold_of_keeps tight divided.1 (keeps_insideAll tight divided.2 innerFound) found

end Percent
end CellGraph
