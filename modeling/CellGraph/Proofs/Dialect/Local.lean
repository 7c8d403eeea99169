import CellGraph.Proofs.Dialect.Changes
import CellGraph.Proofs.Parsing.Flat
import Mathlib.Data.List.TakeWhile

/-!
# Conversion is local

Apart from the one decision about its sums, a formula is converted piece by piece: every node of its
top level has an image of its own, a number together with its percent signs, and the converted
formula is made of these images in their order (`convert_local`). What the steps have nothing to do
with is its own image.
-/

namespace CellGraph

open Node (expandAll)

/-! ## Pieces of a sequence -/

namespace Percent

/-- The pieces of a sequence that are converted by themselves: numbers with the percent signs
directly behind them, and all other nodes one by one. -/
def pieces : List Node → List (List Node)
  | [] => []
  | .leaf (.number t) :: ns =>
    (.leaf (.number t) :: ns.takeWhile isSign) :: pieces (ns.dropWhile isSign)
  | n :: ns => [n] :: pieces ns
termination_by ns => ns.length
decreasing_by
  · exact Nat.lt_succ_of_le (List.dropWhile_sublist _).length_le
  · simp

variable {n : Node} {ns ms folded : List Node} {t : Text}

theorem flatten_pieces (ns : List Node) : (pieces ns).flatten = ns := by
  fun_induction pieces ns with
  | case1 => rfl
  | case2 t ns ih => simp [ih]
  | case3 n ns _ ih => simp [ih]

/-! ## Folding piece by piece -/

/-- What belongs to a number in front has no further meaning. -/
theorem fold_behind (ns : List Node) : fold true ns = fold false (ns.dropWhile isSign) := by
  induction ns with
  | nil => rfl
  | cons n ns ih =>
    cases sign : isSign n with
    | true => simp [fold, sign, ih]
    | false => simp [fold, sign]

theorem fold_of_other (other : isNumber n = false) (ns : List Node) :
    fold false (n :: ns) = (fold false ns).map (n :: ·) := by
  have noNumber : ∀ (t : Text) (signs : Nat), n = .leaf (.number t) →
      (ns.takeWhile isSign).length = signs.succ → False := by
    rintro t signs rfl -
    cases other
  rw [fold.eq_3 _ _ _ noNumber, Bool.false_and, if_neg Bool.false_ne_true]
  rfl

/-- A number is folded with its percent signs, and the rest by itself. -/
theorem fold_number (found : fold false (.leaf (.number t) :: ns) = .ok folded) :
    ∃ first rest, fold false (.leaf (.number t) :: ns.takeWhile isSign) = .ok first ∧
      fold false (ns.dropWhile isSign) = .ok rest ∧ folded = first ++ rest := by
  have own : (ns.takeWhile isSign).takeWhile isSign = ns.takeWhile isSign := List.takeWhile_idem
  cases count : (ns.takeWhile isSign).length with
  | zero =>
    rw [List.length_eq_zero_iff] at count
    have whole : ns.dropWhile isSign = ns := by
      simpa [count] using List.takeWhile_append_dropWhile (p := isSign) (l := ns)
    simp only [fold, Bool.false_and, if_neg Bool.false_ne_true, count, List.length_nil] at found
    obtain ⟨rest, others, found⟩ := Except.bind_eq_ok.1 found
    cases found
    exact ⟨[_], rest, by rw [count]; rfl, by rw [whole]; exact others, rfl⟩
  | succ signs =>
    simp only [fold, Bool.false_and, if_neg Bool.false_ne_true, count] at found
    obtain ⟨value, divided, found⟩ := Except.bind_eq_ok.1 found
    obtain ⟨rest, others, found⟩ := Except.bind_eq_ok.1 found
    cases found
    rw [fold_behind] at others
    refine ⟨[.leaf (.number value)], rest, ?_, others, rfl⟩
    have nothing : (ns.takeWhile isSign).dropWhile isSign = [] := by
      simpa using fun m member => List.mem_takeWhile_imp member
    simp only [fold, Bool.false_and, if_neg Bool.false_ne_true, own, count]
    refine Except.bind_eq_ok.2 ⟨value, divided, Except.bind_eq_ok.2 ⟨[], ?_, rfl⟩⟩
    rw [fold_behind, nothing]
    rfl

/-- There is nothing to fold inside a leaf. -/
theorem isNumber_of_inside {m : Node} (found : inside n = .ok m) : isNumber m = isNumber n := by
  rw [Bool.eq_iff_iff, isNumber_iff, isNumber_iff]
  exact exists_congr fun t => leaf_of_inside found (.number t)

/-- So the percent signs at the start stay. -/
theorem signs_insideAll (found : insideAll ns = .ok ms) :
    insideAll (ns.takeWhile isSign) = .ok (ms.takeWhile isSign) ∧
      insideAll (ns.dropWhile isSign) = .ok (ms.dropWhile isSign) := by
  induction ns generalizing ms with
  | nil =>
    cases found
    exact ⟨rfl, rfl⟩
  | cons n ns ih =>
    obtain ⟨m, ms, first, others, rfl⟩ := insideAll_cons_eq_ok.1 found
    have same := isSign_of_inside first
    cases sign : isSign n with
    | true =>
      obtain ⟨signs, behind⟩ := ih others
      simp only [List.takeWhile_cons, List.dropWhile_cons, same, sign, if_true]
      exact ⟨insideAll_cons_eq_ok.2 ⟨m, _, first, signs, rfl⟩, behind⟩
    | false =>
      simp only [List.takeWhile_cons, List.dropWhile_cons, same, sign, if_neg Bool.false_ne_true]
      exact ⟨rfl, found⟩

/-- Percentages are folded piece by piece. -/
theorem foldAll_pieces (found : foldAll ns = .ok folded) :
    ∃ images, List.Forall₂ (fun piece image => foldAll piece = .ok image) (pieces ns) images ∧
      folded = images.flatten := by
  fun_induction pieces ns generalizing folded with
  | case1 =>
    cases found
    exact ⟨[], .nil, rfl⟩
  | case2 t ns ih =>
    obtain ⟨_, inner, outer⟩ := foldAll_eq_ok.1 found
    obtain ⟨_, ms, first, others, rfl⟩ := insideAll_cons_eq_ok.1 inner
    cases first
    obtain ⟨first, rest, firstFound, restFound, rfl⟩ := fold_number outer
    obtain ⟨signs, behind⟩ := signs_insideAll others
    obtain ⟨images, related, rfl⟩ := ih (foldAll_eq_ok.2 ⟨_, behind, restFound⟩)
    have whole : foldAll (.leaf (.number t) :: ns.takeWhile isSign) = .ok first :=
      foldAll_eq_ok.2 ⟨_, insideAll_cons_eq_ok.2 ⟨_, _, rfl, signs, rfl⟩, firstFound⟩
    exact ⟨first :: images, .cons whole related, rfl⟩
  | case3 n ns noNumber ih =>
    obtain ⟨_, inner, outer⟩ := foldAll_eq_ok.1 found
    obtain ⟨m, ms, first, others, rfl⟩ := insideAll_cons_eq_ok.1 inner
    have other : isNumber n = false := by
      rw [Bool.eq_false_iff, ne_eq, isNumber_iff]
      exact fun ⟨t, isNumber⟩ => noNumber t isNumber
    have alone := fold_of_other ((isNumber_of_inside first).trans other)
    obtain ⟨rest, restFound, found⟩ := Except.map_eq_ok.1 ((alone ms).symm.trans outer)
    subst found
    obtain ⟨images, related, rfl⟩ := ih (foldAll_eq_ok.2 ⟨ms, others, restFound⟩)
    have whole : foldAll [n] = .ok [m] :=
      foldAll_eq_ok.2 ⟨[m], insideAll_cons_eq_ok.2 ⟨m, [], first, rfl, rfl⟩, alone []⟩
    exact ⟨[m] :: images, .cons whole related, rfl⟩

end Percent

/-! ## Sums -/

namespace Sum

/-- How the sums of a formula are converted. -/
inductive Manner where
  | keep
  | rename
  | spellOut
  deriving DecidableEq, Repr

/-- What becomes of a single node. -/
def Manner.change : Manner → Node → Expansion
  | keep => .keep
  | rename => Sum.rename
  | spellOut => Sum.spellOut

/-- The manner for the sums of a formula, which is the same for all of them. -/
def manner (ns : List Node) : Manner :=
  if sums ns = [] then .keep
  else if (sums ns).all addsReferences then .rename
  else if (sums ns).all fun args => (columnRefs? args).isSome then .spellOut
  else .keep

theorem nodes_inline (ns : List Node) :
    (inline ns).nodes = (expandAll (manner ns).change ns).nodes := by
  have kept : expandAll .keep ns = .of ns := Node.expandAll_of_keep fun _ _ => rfl
  unfold inline manner
  dsimp only
  split
  · rw [Manner.change, kept]
  · split
    · rfl
    · split
      · rfl
      · rw [Manner.change, kept]
        rfl

end Sum

/-! ## Plain trees -/

namespace Node

/-- The functions that are converted. -/
def converted : List Text := ["SUMPRODUCT", "AVERAGE", "SUM", "LN", "PV"]

/-- A node without a call of a function that is converted and without a number that has a percent
sign directly behind it, at any depth. -/
def Plain (n : Node) : Prop := Percent.Folded n ∧ ∀ c ∈ n.calls, Inline.key c.name ∉ converted

/-- A sequence of which the same is true. -/
def PlainAll (ns : List Node) : Prop :=
  Percent.FoldedAll ns ∧ ∀ c ∈ callsAll ns, Inline.key c.name ∉ converted

theorem plainAll_single {n : Node} (plain : n.Plain) : PlainAll [n] :=
  ⟨⟨plain.1, by simp, trivial⟩, by simpa using plain.2⟩

/-- A change that keeps all nodes but calls of functions that are converted. -/
def Sparing (f : Node → Expansion) : Prop :=
  ∀ n : Node, (∀ c, n.call? = some c → Inline.key c.name ∉ converted) → f n = .keep n

theorem expandAll_of_plain {f : Node → Expansion} (sparing : Sparing f) {ns : List Node}
    (plain : PlainAll ns) : expandAll f ns = .of ns :=
  expandAll_of_keep fun n inside => sparing n fun c isCall =>
    plain.2 c (List.mem_filterMap.2 ⟨n, inside, isCall⟩)

theorem sparing_expandCall {name : Text} (named : name ∈ converted) (spell : Inline.Speller) :
    Sparing (Inline.expandCall name spell) := by
  intro n other
  unfold Inline.expandCall
  split
  · next written args closed =>
    have differs : Inline.key written ≠ name := by
      rintro rfl
      exact other _ rfl named
    rw [if_neg differs]
  · rfl

theorem sparing_manner (m : Sum.Manner) : Sparing m.change := by
  intro n other
  have named : Sum.name ∈ converted := by decide
  cases m with
  | keep => rfl
  | rename =>
    cases n with
    | call written args closed =>
      have differs : Inline.key written ≠ Sum.name := by
        intro same
        exact other _ rfl (same ▸ named)
      simp only [Sum.Manner.change, Sum.rename, if_neg differs]
    | _ => rfl
  | spellOut =>
    have noSum : Sum.summands? n = none := by
      rw [Option.eq_none_iff_forall_ne_some]
      intro summands isSum
      obtain ⟨written, args, closed, rfl, same, -⟩ := Sum.summands?_eq_some isSum
      exact other _ rfl (same ▸ named)
    simp only [Sum.Manner.change, Sum.spellOut, noSum, Option.bind_none]

end Node

namespace Step

/-- Steps do nothing to plain trees, and report nothing. -/
theorem run_of_plain (step : Step) {ns : List Node} (plain : Node.PlainAll ns) :
    step.run ns = .ok (.of ns) := by
  have inline : ∀ name ∈ Node.converted, ∀ spell, Inline.inline name spell ns = .of ns :=
    fun name named spell => Node.expandAll_of_plain (Node.sparing_expandCall named spell) plain
  cases step with
  | percentages =>
    rw [run, Percent.foldAll_of_folded plain.1]
    rfl
  | sums =>
    have noSums : Sum.sums ns = [] := by
      rw [Sum.sums, List.filterMap_eq_nil_iff]
      intro n inside
      rw [Option.eq_none_iff_forall_ne_some]
      intro summands isSum
      obtain ⟨written, args, closed, rfl, same, -⟩ := Sum.summands?_eq_some isSum
      exact plain.2 _ (List.mem_filterMap.2 ⟨_, inside, rfl⟩)
        (same ▸ (by decide : Sum.name ∈ Node.converted))
    simp only [run, Sum.inline, noSums, if_true]
  | sumproduct => exact congrArg Except.ok (inline _ (by decide) _)
  | average => exact congrArg Except.ok (inline _ (by decide) _)
  | ln => exact congrArg Except.ok (inline _ (by decide) _)
  | pv => exact congrArg Except.ok (inline _ (by decide) _)

theorem runAll_of_plain (steps : List Step) {ns : List Node} (plain : Node.PlainAll ns) :
    runAll steps ns = .ok (.of ns) := by
  induction steps with
  | nil => rfl
  | cons step steps ih =>
    exact runAll_cons_eq_ok.2 ⟨_, _, step.run_of_plain plain, ih, rfl⟩

end Step

/-! ## Images -/

namespace Dialect

/-- Changes one after another. -/
def applyAll (changes : List (Node → Expansion)) (ns : List Node) : List Node :=
  changes.foldl (fun ns f => (expandAll f ns).nodes) ns

/-- The changes that follow the percentages if sums are converted in the given manner. -/
def changes (m : Sum.Manner) : List (Node → Expansion) :=
  [Inline.expandCall "SUMPRODUCT" Inline.sumproduct, Inline.expandCall "AVERAGE" Inline.average,
    m.change, Inline.expandCall "LN" Inline.ln, Inline.expandCall "PV" Inline.pv]

/-- What a piece of a formula becomes, without regard to the rest of the formula. -/
def image (m : Sum.Manner) (piece : List Node) : Except NumberError (List Node) :=
  (Percent.foldAll piece).map (applyAll (changes m))

theorem nodes_expandAll_append (f : Node → Expansion) (ms ns : List Node) :
    (expandAll f (ms ++ ns)).nodes = (expandAll f ms).nodes ++ (expandAll f ns).nodes := by
  induction ms with
  | nil => rfl
  | cons m ms ih => simp [expandAll, ih]

theorem applyAll_append (fs : List (Node → Expansion)) (ms ns : List Node) :
    applyAll fs (ms ++ ns) = applyAll fs ms ++ applyAll fs ns := by
  induction fs generalizing ms ns with
  | nil => rfl
  | cons f fs ih => simp only [applyAll, List.foldl_cons, nodes_expandAll_append] at ih ⊢; rw [ih]

theorem applyAll_flatten (fs : List (Node → Expansion)) (parts : List (List Node)) :
    applyAll fs parts.flatten = (parts.map (applyAll fs)).flatten := by
  induction parts with
  | nil =>
    induction fs with
    | nil => rfl
    | cons f fs ih => exact ih
  | cons part parts ih => rw [List.flatten_cons, applyAll_append, ih, List.map_cons, List.flatten_cons]

theorem applyAll_of_plain {fs : List (Node → Expansion)} (sparing : ∀ f ∈ fs, Node.Sparing f)
    {ns : List Node} (plain : Node.PlainAll ns) : applyAll fs ns = ns := by
  induction fs with
  | nil => rfl
  | cons f fs ih =>
    obtain ⟨first, others⟩ := List.forall_mem_cons.1 sparing
    rw [applyAll, List.foldl_cons, Node.expandAll_of_plain first plain]
    exact ih others

theorem sparing_changes (m : Sum.Manner) : ∀ f ∈ changes m, Node.Sparing f := by
  simp only [changes, List.forall_mem_cons, List.not_mem_nil, false_imp_iff, implies_true, and_true]
  exact ⟨Node.sparing_expandCall (by decide) _, Node.sparing_expandCall (by decide) _,
    Node.sparing_manner m, Node.sparing_expandCall (by decide) _,
    Node.sparing_expandCall (by decide) _⟩

theorem image_of_plain (m : Sum.Manner) {n : Node} (plain : n.Plain) : image m [n] = .ok [n] := by
  have whole := Node.plainAll_single plain
  rw [image, Percent.foldAll_of_folded whole.1]
  exact congrArg Except.ok (applyAll_of_plain (sparing_changes m) whole)

/-- A conversion folds the percentages and makes the changes of one manner. -/
theorem exists_manner {ns : List Node} {e : Expansion} (converted : convertTree ns = .ok e) :
    ∃ folded m, Percent.foldAll ns = .ok folded ∧ e.nodes = applyAll (changes m) folded := by
  obtain ⟨folded, rest, found, ran, rfl⟩ := convertTree_eq_ok.1 converted
  cases ran
  -- the sums are looked at when the steps in front of theirs are done
  let before := Inline.inline "AVERAGE" Inline.average
    (Inline.inline "SUMPRODUCT" Inline.sumproduct folded).nodes
  refine ⟨folded, Sum.manner before.nodes, found, ?_⟩
  show (Inline.inline "PV" Inline.pv
    (Inline.inline "LN" Inline.ln (Sum.inline before.nodes).nodes).nodes).nodes = _
  rw [Sum.nodes_inline]
  rfl

/-- The conversion of a formula is local. The tree is made of the pieces of its top level. If the
conversion succeeds, every piece has an image, which depends on the piece and on how sums are
converted in this formula, and the converted tree is made of the images in their order; a node
without a call of a function that is converted and without a percentage is its own image, whatever
stands around it. A formula without such calls and percentages is converted to itself, and nothing
is reported. -/
theorem convert_local (formula : Text) :
    (Percent.pieces (Parser.parse formula)).flatten = Parser.parse formula ∧
    (∀ e, convertTree (Parser.parse formula) = .ok e → ∃ (m : Sum.Manner) (images : List (List Node)),
      List.Forall₂ (fun piece i => image m piece = .ok i) (Percent.pieces (Parser.parse formula))
        images ∧
      e.nodes = images.flatten ∧ ∀ n : Node, n.Plain → image m [n] = .ok [n]) ∧
    (Node.PlainAll (Parser.parse formula) → convert formula = .ok ⟨formula, []⟩) := by
  refine ⟨Percent.flatten_pieces _, ?_, ?_⟩
  · intro e converted
    obtain ⟨folded, m, found, nodes⟩ := exists_manner converted
    obtain ⟨parts, related, rfl⟩ := Percent.foldAll_pieces found
    refine ⟨m, parts.map (applyAll (changes m)), ?_, ?_, fun n plain => image_of_plain m plain⟩
    · rw [List.forall₂_map_right_iff]
      refine related.imp fun piece part folded => ?_
      rw [image, folded]
      rfl
    · rw [nodes, applyAll_flatten]
  · intro plain
    have ran := Step.runAll_of_plain Step.all plain
    rw [convert, convertTree, ran]
    show Except.ok (Converted.mk (Node.textAll (Parser.parse formula)) []) = _
    rw [Parser.textAll_parse]

/-- A call that is not closed is a piece, and a plain call of another function is its own image. -/
theorem convert_local_open :
    (∃ (e : Expansion) (m : Sum.Manner) (images : List (List Node)),
      Node.textAll e.nodes = "=0.0003*SUMIF(A1)-(B1+B2)" ∧
      List.Forall₂ (fun piece i => image m piece = .ok i)
        (Percent.pieces (Parser.parse "=3%%*SUMIF(A1)-Sum(B1:B2")) images ∧
      e.nodes = images.flatten ∧
      image m [.call "SUMIF" [[.ref ⟨none, "A1", "A1"⟩]] true] =
        .ok [.call "SUMIF" [[.ref ⟨none, "A1", "A1"⟩]] true]) ∧
    convert "=SUMIF(A1,\"LN(5%)\")%" = .ok ⟨"=SUMIF(A1,\"LN(5%)\")%", []⟩ := by
  have ok : convert "=3%%*SUMIF(A1)-Sum(B1:B2" =
      .ok ⟨"=0.0003*SUMIF(A1)-(B1+B2)", []⟩ := by
    decide +kernel
  have plain : Node.Plain (.call "SUMIF" [[.ref ⟨none, "A1", "A1"⟩]] true) :=
    ⟨⟨⟨trivial, by simp, trivial⟩, trivial⟩, by simpa using by decide⟩
  obtain ⟨e, converted, same⟩ := Except.bind_eq_ok.1 ok
  obtain ⟨m, images, related, nodes, own⟩ := (convert_local _).2.1 e converted
  refine ⟨⟨e, m, images, ?_, related, nodes, own _ plain⟩, (convert_local _).2.2 ?_⟩
  · exact congrArg Converted.formula (Except.ok.inj same)
  · have tokens : Token.tokens "=SUMIF(A1,\"LN(5%)\")%" = [.op ['='], .func "SUMIF", .lparen,
        .ref ⟨none, "A1", "A1"⟩, .comma, .string "\"LN(5%)\"", .rparen, .op ['%']] := by
      decide +kernel
    have parsed : Parser.parse "=SUMIF(A1,\"LN(5%)\")%" = [.leaf (.op ['=']),
        .call "SUMIF" [[.ref ⟨none, "A1", "A1"⟩], [.leaf (.string "\"LN(5%)\"")]] true,
        .leaf (.op ['%'])] := by
      rw [Parser.parse, tokens]
      rfl
    rw [parsed]
    refine ⟨?_, by simpa using by decide⟩
    simp [Percent.FoldedAll, Percent.Folded, Percent.FoldedArgs, Percent.Apart, Percent.isNumber]

end Dialect
end CellGraph
