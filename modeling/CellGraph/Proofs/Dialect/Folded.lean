import CellGraph.Proofs.Dialect.Percent
import CellGraph.Proofs.Parsing.Tight

/-!
# Folded percentages

A tree is folded if no number has a percent sign directly behind it, at any depth. Folding
percentages makes trees folded (`foldedAll_of_foldAll`) and leaves folded trees as they are
(`foldAll_of_folded`).
-/

namespace CellGraph.Percent

/-! ## Folded trees -/

def isNumber : Node → Bool
  | .leaf (.number _) => true
  | _ => false

/-- The second node is no percent sign of the first. -/
def Apart (m n : Node) : Prop := ¬ (isNumber m ∧ isSign n)

mutual

/-- A node inside which no number has a percent sign directly behind it. -/
def Folded : Node → Prop
  | .group body _ => FoldedAll body
  | .call _ args _ => FoldedArgs args
  | _ => True

/-- A sequence in which, at any depth, no number has a percent sign directly behind it. -/
def FoldedAll : List Node → Prop
  | [] => True
  | n :: ns => Folded n ∧ (∀ m ∈ ns.head?, Apart n m) ∧ FoldedAll ns

def FoldedArgs : List (List Node) → Prop
  | [] => True
  | arg :: args => FoldedAll arg ∧ FoldedArgs args

end

variable {ns ms : List Node} {behind : Bool}

theorem foldedAll_iff : FoldedAll ns ↔ (∀ n ∈ ns, Folded n) ∧ ns.IsChain Apart := by
  induction ns with
  | nil => simp [FoldedAll]
  | cons n ns ih =>
    rw [FoldedAll, ih, List.forall_mem_cons, List.isChain_cons]
    tauto

theorem foldedArgs_iff {args : List (List Node)} :
    FoldedArgs args ↔ ∀ arg ∈ args, FoldedAll arg := by
  induction args with
  | nil => simp [FoldedArgs]
  | cons arg args ih => simp [FoldedArgs, ih]

theorem isNumber_iff {n : Node} : isNumber n ↔ ∃ t, n = .leaf (.number t) := by
  unfold isNumber
  split <;> simp_all

/-! ## One sequence -/

/-- No percent sign stands at the start of what is behind a number, and where no number is in front
only a percent sign that is there gives one. -/
theorem sign_head_of_fold (found : fold behind ns = .ok ms) {m : Node} (head : m ∈ ms.head?)
    (isSign : isSign m) : behind = false ∧ m ∈ ns.head? := by
  fun_induction fold behind ns generalizing ms with
  | case1 =>
    cases found
    cases head
  | case2 behind n ns _ ih =>
    obtain ⟨noBehind, -⟩ := ih found head
    cases noBehind
  | case3 behind ns t signs =>
    obtain ⟨value, -, found⟩ := Except.bind_eq_ok.1 found
    obtain ⟨rest, -, found⟩ := Except.bind_eq_ok.1 found
    cases found
    cases head
    cases isSign
  | case4 behind n ns here _ ih =>
    obtain ⟨rest, -, found⟩ := Except.bind_eq_ok.1 found
    cases found
    cases head
    exact ⟨by simpa [isSign] using here, rfl⟩

/-- Percent signs behind numbers are folded. -/
theorem isChain_of_fold (found : fold behind ns = .ok ms) : ms.IsChain Apart := by
  fun_induction fold behind ns generalizing ms with
  | case1 =>
    cases found
    exact .nil
  | case2 behind n ns _ ih => exact ih found
  | case3 behind ns t signs _ _ ih =>
    obtain ⟨value, -, found⟩ := Except.bind_eq_ok.1 found
    obtain ⟨rest, folded, found⟩ := Except.bind_eq_ok.1 found
    cases found
    refine List.isChain_cons.2 ⟨fun m head both => ?_, ih folded⟩
    exact absurd (sign_head_of_fold folded head both.2).1 (by decide)
  | case4 behind n ns _ noCount ih =>
    obtain ⟨rest, folded, found⟩ := Except.bind_eq_ok.1 found
    cases found
    refine List.isChain_cons.2 ⟨fun m head both => ?_, ih folded⟩
    obtain ⟨t, rfl⟩ := isNumber_iff.1 both.1
    obtain ⟨ns, rfl⟩ := List.head?_eq_some_iff.1 (sign_head_of_fold folded head both.2).2
    exact noCount t _ rfl (by simp [both.2]; rfl)

theorem folded_of_mem_fold (inside : ∀ n ∈ ns, Folded n) (found : fold behind ns = .ok ms) :
    ∀ m ∈ ms, Folded m := by
  fun_induction fold behind ns generalizing ms with
  | case1 =>
    cases found
    simp
  | case2 behind n ns _ ih => exact ih (fun m member => inside m (by simp [member])) found
  | case3 behind ns t signs _ _ ih =>
    obtain ⟨value, -, found⟩ := Except.bind_eq_ok.1 found
    obtain ⟨rest, folded, found⟩ := Except.bind_eq_ok.1 found
    cases found
    have others := ih (fun m member => inside m (by simp [member])) folded
    exact List.forall_mem_cons.2 ⟨trivial, others⟩
  | case4 behind n ns _ _ ih =>
    obtain ⟨rest, folded, found⟩ := Except.bind_eq_ok.1 found
    cases found
    have others := ih (fun m member => inside m (by simp [member])) folded
    exact List.forall_mem_cons.2 ⟨inside n (by simp), others⟩

theorem foldedAll_of_fold (inside : ∀ n ∈ ns, Folded n) (found : fold behind ns = .ok ms) :
    FoldedAll ms :=
  foldedAll_iff.2 ⟨folded_of_mem_fold inside found, isChain_of_fold found⟩

/-- Where no percent sign stands behind a number nothing is folded. -/
theorem fold_of_isChain (apart : ns.IsChain Apart) : fold false ns = .ok ns := by
  induction ns with
  | nil => rfl
  | cons n ns ih =>
    rw [List.isChain_cons] at apart
    have noCount : ∀ (t : Text) (signs : Nat), n = .leaf (.number t) →
        (ns.takeWhile isSign).length = signs.succ → False := by
      rintro t signs rfl count
      cases ns with
      | nil => cases count
      | cons m ns =>
        have noSign : ¬ isSign m := fun isSign => apart.1 m rfl ⟨rfl, isSign⟩
        simp [noSign] at count
    rw [fold.eq_3 _ _ _ noCount, Bool.false_and, if_neg Bool.false_ne_true]
    exact Except.bind_eq_ok.2 ⟨ns, ih apart.2, rfl⟩

/-! ## Whole trees -/

mutual

theorem folded_of_inside : ∀ {n m : Node}, inside n = .ok m → Folded m
  | .leaf _, _, found | .ref _, _, found | .range _ _, _, found => by
    cases found
    trivial
  | .group body closed, _, found => by
    obtain ⟨inner, outer, innerFound, outerFound, rfl⟩ := inside_group_eq_ok.1 found
    exact foldedAll_of_fold (folded_of_insideAll innerFound) outerFound
  | .call name args closed, _, found => by
    obtain ⟨inner, innerFound, rfl⟩ := inside_call_eq_ok.1 found
    exact folded_of_insideArgs innerFound

theorem folded_of_insideAll : ∀ {ns ms : List Node}, insideAll ns = .ok ms → ∀ m ∈ ms, Folded m
  | [], _, found => by
    cases found
    simp
  | n :: ns, _, found => by
    obtain ⟨first, rest, firstFound, restFound, rfl⟩ := insideAll_cons_eq_ok.1 found
    exact List.forall_mem_cons.2 ⟨folded_of_inside firstFound, folded_of_insideAll restFound⟩

theorem folded_of_insideArgs : ∀ {args folded : List (List Node)},
    insideArgs args = .ok folded → FoldedArgs folded
  | [], _, found => by
    cases found
    trivial
  | arg :: args, _, found => by
    obtain ⟨inner, first, rest, innerFound, firstFound, restFound, rfl⟩ :=
      insideArgs_cons_eq_ok.1 found
    exact ⟨foldedAll_of_fold (folded_of_insideAll innerFound) firstFound,
      folded_of_insideArgs restFound⟩

end

/-- After folding no number has a percent sign directly behind it. -/
theorem foldedAll_of_foldAll (found : foldAll ns = .ok ms) : FoldedAll ms := by
  obtain ⟨inner, innerFound, found⟩ := foldAll_eq_ok.1 found
  exact foldedAll_of_fold (folded_of_insideAll innerFound) found

mutual

theorem inside_of_folded : ∀ {n : Node}, Folded n → inside n = .ok n
  | .leaf _, _ | .ref _, _ | .range _ _, _ => rfl
  | .group body _, folded =>
    inside_group_eq_ok.2 ⟨body, body, insideAll_of_folded folded,
      fold_of_isChain (foldedAll_iff.1 folded).2, rfl⟩
  | .call _ args _, folded => inside_call_eq_ok.2 ⟨args, insideArgs_of_folded folded, rfl⟩

theorem insideAll_of_folded : ∀ {ns : List Node}, FoldedAll ns → insideAll ns = .ok ns
  | [], _ => rfl
  | n :: ns, ⟨folded, _, others⟩ =>
    insideAll_cons_eq_ok.2 ⟨n, ns, inside_of_folded folded, insideAll_of_folded others, rfl⟩

theorem insideArgs_of_folded : ∀ {args : List (List Node)}, FoldedArgs args →
    insideArgs args = .ok args
  | [], _ => rfl
  | arg :: args, ⟨folded, others⟩ =>
    insideArgs_cons_eq_ok.2 ⟨arg, arg, args, insideAll_of_folded folded,
      fold_of_isChain (foldedAll_iff.1 folded).2, insideArgs_of_folded others, rfl⟩

end

/-- A folded tree has no percentages. -/
theorem foldAll_of_folded (folded : FoldedAll ns) : foldAll ns = .ok ns :=
  foldAll_eq_ok.2 ⟨ns, insideAll_of_folded folded, fold_of_isChain (foldedAll_iff.1 folded).2⟩

/-! ## Reading back -/

theorem isNumber_of_settle {n : Node} (number : isNumber n.settle) : isNumber n := by
  cases n with
  | leaf t =>
    rcases t.settle_cases with same | ⟨w, rfl, -⟩
    · rwa [Node.settle, same] at number
    · rfl
  | _ => cases number

theorem isSign_settle (n : Node) : isSign n.settle = isSign n := by
  cases n with
  | leaf t =>
    rcases t.settle_cases with same | ⟨w, rfl, read⟩
    · rw [Node.settle, same]
    · rw [Node.settle, read]
      rfl
  | _ => rfl

theorem Apart.settle {m n : Node} (apart : Apart m n) : Apart m.settle n.settle := by
  rintro ⟨number, sign⟩
  rw [isSign_settle] at sign
  exact apart ⟨isNumber_of_settle number, sign⟩

mutual

theorem Folded.settle : ∀ {n : Node}, Folded n → Folded n.settle
  | .leaf _, _ | .ref _, _ | .range _ _, _ => trivial
  | .group _ _, folded => FoldedAll.settleAll folded
  | .call _ _ _, folded => FoldedArgs.settleArgs folded

/-- A folded tree is read back as one. -/
theorem FoldedAll.settleAll : ∀ {ns : List Node}, FoldedAll ns → FoldedAll (Node.settleAll ns)
  | [], _ => trivial
  | [_], ⟨folded, _⟩ => ⟨folded.settle, by simp [Node.settleAll], trivial⟩
  | n :: m :: ns, ⟨folded, apart, others⟩ => by
    refine ⟨folded.settle, ?_, others.settleAll⟩
    rintro _ ⟨⟩
    exact (apart m rfl).settle

theorem FoldedArgs.settleArgs : ∀ {args : List (List Node)}, FoldedArgs args →
    FoldedArgs (Node.settleArgs args)
  | [], _ => trivial
  | _ :: _, ⟨folded, others⟩ => ⟨folded.settleAll, others.settleArgs⟩

end

end CellGraph.Percent
