import CellGraph.Proofs.Dialect.Brackets
import CellGraph.Proofs.Dialect.Folded
import CellGraph.Proofs.Expr.Calls

/-!
# Calls in spelled out calls

Whether a call is spelled out depends on the surfaces of its arguments alone
(`Speller.SeesSurfaces`). The bracket that it is spelled out as copies the calls of the arguments
(`Copied`): it drops none of them, and it brings no others but logarithms.
-/

namespace CellGraph

open Node (surfaces solid sole? range? textAll callsAll)

/-! ## Brackets in texts -/

namespace Node

/-- Groups and calls. -/
def isBracket : Node → Bool
  | .group _ _ | .call _ _ _ => true
  | _ => false

theorem mem_textAll_of_isBracket {n : Node} {ns : List Node} (member : n ∈ ns)
    (bracket : n.isBracket) : '(' ∈ textAll ns := by
  obtain ⟨before, behind, rfl⟩ := List.append_of_mem member
  rw [textAll_append]
  refine List.mem_append_right _ ?_
  cases n with
  | group body closed => simp [textAll, writeAll, write]
  | call name args closed => simp [textAll, writeAll, write]
  | _ => cases bracket

theorem isBracket_surface (n : Node) : n.surface.isBracket = n.isBracket := by
  cases n <;> rfl

theorem text_surface {n : Node} (plain : n.isBracket = false) : n.surface.text = n.text := by
  cases n with
  | leaf t => simp [surface, text, write]
  | group | call => cases plain
  | _ => rfl

theorem textAll_surfaces {ns : List Node} (plain : ∀ n ∈ ns, n.isBracket = false) :
    textAll (surfaces ns) = textAll ns := by
  induction ns with
  | nil => rfl
  | cons n ns ih =>
    have first := text_surface (plain n (by simp))
    have rest := ih fun m member => plain m (by simp [member])
    simp only [text, textAll] at first rest
    simp [textAll, writeAll, first, rest]

theorem callsAll_of_plain {ns : List Node} (plain : ∀ n ∈ ns, n.isBracket = false) :
    callsAll ns = [] := by
  induction ns with
  | nil => rfl
  | cons n ns ih =>
    rw [callsAll_cons, ih fun m member => plain m (by simp [member]), List.append_nil]
    have first := plain n (by simp)
    cases n with
    | group | call => cases first
    | _ => rfl

/-- What is written as a one has no brackets. -/
theorem plain_of_trim {ns : List Node} (one : Text.trim (textAll ns) = ['1']) :
    ∀ n ∈ ns, n.isBracket = false := by
  intro n member
  rw [Bool.eq_false_iff]
  intro bracket
  have trimmed := Text.mem_trim (mem_textAll_of_isBracket member bracket) (by decide)
  rw [one] at trimmed
  exact absurd trimmed (by decide)

theorem trim_surfaces {ns : List Node} :
    Text.trim (textAll (surfaces ns)) = ['1'] ↔ Text.trim (textAll ns) = ['1'] := by
  constructor
  · intro one
    have plain := plain_of_trim one
    simp only [List.forall_mem_map, isBracket_surface] at plain
    rwa [textAll_surfaces plain] at one
  · intro one
    rwa [textAll_surfaces (plain_of_trim one)]

end Node

open Node (sole?_surfaces solid_surfaces)

/-! ## Spellers -/

namespace Inline

/-- A speller that sees of the arguments their surfaces when it decides. -/
def Speller.SeesSurfaces (spell : Speller) : Prop :=
  ∀ args, (spell (args.map surfaces)).isSome = (spell args).isSome

theorem sumproduct_seesSurfaces : Speller.SeesSurfaces sumproduct := by
  intro args
  match args with
  | [] | [_] | _ :: _ :: _ :: _ => rfl
  | [first, second] =>
    simp only [sumproduct, List.map_cons, List.map_nil, sole?_surfaces]
    cases sole? first with
    | none => rfl
    | some n =>
      cases n with
      | range a b =>
        cases sole? second with
        | none => rfl
        | some m => cases m <;> rfl
      | _ => rfl

theorem isSome_terms?_surfaces (arg : List Node) :
    (terms? (surfaces arg)).isSome = (terms? arg).isSome := by
  unfold terms?
  rw [sole?_surfaces]
  cases sole? arg with
  | none => rfl
  | some n => cases n <;> rfl

theorem terms_ne_nil {arg : List Node} {ts : List Text} (found : terms? arg = some ts) :
    ts ≠ [] := by
  unfold terms? at found
  split at found
  · split at found
    · cases found
    · next some_ref =>
      cases found
      simpa using some_ref
  · cases found
    simp

/-- A mean is spelled out if it has arguments and none of them is a range without cells. -/
theorem isSome_average_iff {args : List (List Node)} :
    (average args).isSome ↔ args ≠ [] ∧ ∀ arg ∈ args, (terms? arg).isSome := by
  rw [← Option.exists_mapM_eq_some]
  simp only [average, Option.bind_eq_bind, Option.isSome_bind]
  cases found : args.mapM terms? with
  | none => simp
  | some tss =>
    have each := Option.forall₂_of_mapM found
    cases each with
    | nil => simp
    | cons first _ => simp [terms_ne_nil first]

theorem average_seesSurfaces : Speller.SeesSurfaces average := by
  intro args
  rw [Bool.eq_iff_iff, isSome_average_iff, isSome_average_iff]
  simp [isSome_terms?_surfaces]

theorem ln_seesSurfaces : Speller.SeesSurfaces ln := by
  intro args
  rcases args with _ | ⟨arg, _ | ⟨next, args⟩⟩ <;> rfl

theorem pv_seesSurfaces : Speller.SeesSurfaces pv := by
  intro args
  match args with
  | [] | [_] | [_, _] | [_, _, _] | [_, _, _, _] | _ :: _ :: _ :: _ :: _ :: _ :: _ => rfl
  | [rate, nper, pmt, future, due] =>
    simp only [pv, List.map_cons, List.map_nil, solid_surfaces, List.map_eq_nil_iff,
      Node.trim_surfaces]
    by_cases ignored : solid future = [] ∧ Text.trim (textAll due) = ['1']
    · simp [ignored]
    · simp [ignored]

end Inline

namespace Sum

theorem isReference_surfaces (arg : List Node) : isReference (surfaces arg) = isReference arg := by
  unfold isReference
  rw [sole?_surfaces]
  cases sole? arg with
  | none => rfl
  | some n => cases n <;> rfl

theorem addsReferences_surfaces (args : List (List Node)) :
    addsReferences (args.map surfaces) = addsReferences args := by
  simp [addsReferences, Function.comp_def, isReference_surfaces]

theorem columnRefs?_surfaces (args : List (List Node)) :
    columnRefs? (args.map surfaces) = columnRefs? args := by
  match args with
  | [] | _ :: _ :: _ => rfl
  | [arg] =>
    simp only [columnRefs?, List.map_cons, List.map_nil, sole?_surfaces]
    cases sole? arg with
    | none => rfl
    | some n => cases n <;> rfl

end Sum

/-! ## Spelled out calls -/

namespace Percent

theorem isSign_operator {c : Char} (joiner : Node.Joiner c) :
    isSign (Node.operator c) = false := by
  rw [Bool.eq_false_iff, ne_eq, isSign_iff]
  rintro ⟨⟩
  exact absurd joiner (by decide)

theorem foldedAll_append_operator {ms ns : List Node} {c : Char} (joiner : Node.Joiner c)
    (first : FoldedAll ms) (second : FoldedAll ns) :
    FoldedAll (ms ++ Node.operator c :: ns) := by
  rw [foldedAll_iff] at first second ⊢
  constructor
  · rw [List.forall_mem_append, List.forall_mem_cons]
    exact ⟨first.1, trivial, second.1⟩
  · rw [List.isChain_append, List.isChain_cons]
    refine ⟨first.2, ⟨fun n _ both => Bool.false_ne_true both.1, second.2⟩, ?_⟩
    rintro m - _ ⟨⟩ both
    rw [isSign_operator joiner] at both
    exact Bool.false_ne_true both.2

theorem foldedAll_operator_cons {ns : List Node} {c : Char} (joiner : Node.Joiner c)
    (behind : FoldedAll ns) : FoldedAll (Node.operator c :: ns) := by
  have nothing : FoldedAll [] := trivial
  exact foldedAll_append_operator joiner nothing behind

theorem foldedAll_single {n : Node} (folded : Folded n) : FoldedAll [n] := by
  simpa [FoldedAll] using folded

theorem foldedAll_joined {terms : List (List Node)} (folded : ∀ t ∈ terms, FoldedAll t) :
    FoldedAll (Node.joined terms) := by
  induction terms with
  | nil => trivial
  | cons t terms ih =>
    have first := folded t (by simp)
    have rest := ih fun u member => folded u (by simp [member])
    cases terms with
    | nil => simpa [Node.joined] using first
    | cons u terms =>
      rw [Node.joined, List.intercalate_cons_cons, List.append_assoc]
      exact foldedAll_append_operator (by decide) first rest

end Percent

open Percent (FoldedAll FoldedArgs)

/-- The function that the dialect has for logarithms. -/
def Inline.made : Text := "LOG10"

namespace Node

/-- The inside of a bracket that stands for a call: it is tight, it holds the calls of the arguments
and no others but logarithms, and it is folded if the arguments are. -/
structure Copied (args : List (List Node)) (body : List Node) : Prop where
  tight : TightAll .group body
  calls : ∀ c : Call, Inline.key c.name ≠ Inline.made →
    (c ∈ callsAll body ↔ c ∈ args.flatMap callsAll)
  folded : FoldedArgs args → FoldedAll body

theorem callsAll_joined (terms : List (List Node)) :
    callsAll (joined terms) = terms.flatMap callsAll := by
  induction terms with
  | nil => rfl
  | cons t terms ih =>
    cases terms with
    | nil => simp [joined]
    | cons u terms =>
      rw [joined] at ih ⊢
      simp [List.intercalate_cons_cons, ih]

theorem callsAll_termNodes (arg : List Node) :
    (termNodes arg).flatMap callsAll = callsAll arg := by
  unfold termNodes
  split
  · next a b range =>
    rw [callsAll_of_range? range, List.flatMap_map]
    simp
  · simp

theorem foldedAll_of_mem_termNodes {arg t : List Node} (folded : FoldedAll arg)
    (member : t ∈ termNodes arg) : FoldedAll t := by
  unfold termNodes at member
  split at member
  · obtain ⟨r, -, rfl⟩ := List.mem_map.1 member
    exact Percent.foldedAll_single trivial
  · rwa [List.mem_singleton.1 member]

theorem copied_mean {args : List (List Node)} (tight : TightArgs args) :
    Copied args (mean (args.flatMap termNodes)) where
  tight := (spelled_mean tight).tight
  calls := by
    have same : args.flatMap (fun arg => (termNodes arg).flatMap callsAll) =
        args.flatMap callsAll := by simp only [callsAll_termNodes]
    simp [mean, callsAll_joined, List.flatMap_assoc, same]
  folded := by
    intro folded
    have terms : ∀ t ∈ args.flatMap termNodes, FoldedAll t := by
      intro t member
      obtain ⟨arg, inArgs, inTerms⟩ := List.mem_flatMap.1 member
      exact foldedAll_of_mem_termNodes (Percent.foldedArgs_iff.1 folded arg inArgs) inTerms
    have inside := Percent.foldedAll_joined terms
    have divisor : FoldedAll [.leaf (.number (Text.ofNat (args.flatMap termNodes).length))] :=
      Percent.foldedAll_single trivial
    exact Percent.foldedAll_append_operator (c := '/') (by decide)
      (Percent.foldedAll_single (n := .group _ true) inside) divisor

theorem copied_column {arg : List Node} {a b : Ref} (tight : TightArgs [arg])
    (range : range? arg = some (a, b)) :
    Copied [arg] (joined ((Area.refs a b).map fun r => [.ref r])) where
  tight := (spelled_column tight range).tight
  calls := by
    simp [callsAll_joined, callsAll_of_range? range, List.flatMap_map]
  folded := by
    intro _
    refine Percent.foldedAll_joined fun t member => ?_
    obtain ⟨r, -, rfl⟩ := List.mem_map.1 member
    exact Percent.foldedAll_single trivial

theorem copied_products {first second : List Node} {a b c d : Ref}
    (tight : TightArgs [first, second]) (left : range? first = some (a, b))
    (right : range? second = some (c, d))
    (fits : (Area.refs a b).length = (Area.refs c d).length) :
    Copied [first, second] (products ((Area.refs a b).zip (Area.refs c d))) where
  tight := (spelled_products tight left right fits).tight
  calls := by
    simp [products, product, callsAll_joined, callsAll_of_range? left, callsAll_of_range? right,
      List.flatMap_map]
  folded := by
    intro _
    refine Percent.foldedAll_operator_cons (by decide) (Percent.foldedAll_joined fun t member => ?_)
    obtain ⟨p, -, rfl⟩ := List.mem_map.1 member
    exact Percent.foldedAll_append_operator (c := '*') (by decide)
      (Percent.foldedAll_single (n := .ref p.1) trivial)
      (Percent.foldedAll_single (n := .ref p.2) trivial)

theorem copied_naturalLogarithm {arg : List Node} (tight : TightArgs [arg]) :
    Copied [arg] (naturalLogarithm arg) where
  tight := (spelled_naturalLogarithm tight).tight
  calls := by
    intro c other
    have noLogarithm : ∀ args, c ≠ ⟨['l', 'o', 'g', '1', '0'], args⟩ := by
      rintro args rfl
      exact other rfl
    simp [naturalLogarithm, logarithm, one, base, noLogarithm]
  folded := by
    rintro ⟨folded, -⟩
    simp [naturalLogarithm, logarithm, one, base, Percent.FoldedAll, Percent.Folded,
      Percent.FoldedArgs, Percent.Apart, Percent.isNumber, Percent.isSign, folded]

theorem copied_presentValue {rate nper pmt : List Node} (tight : TightArgs [rate, nper, pmt]) :
    Copied [rate, nper, pmt] (presentValue rate nper pmt) where
  tight := (spelled_presentValue tight).tight
  calls := by
    intro c _
    simp only [presentValue, discount, one, callsAll_cons, callsAll_nil, calls_leaf, calls_group,
      List.nil_append, List.append_nil, List.mem_append, List.flatMap_cons, List.flatMap_nil]
    tauto
  folded := by
    rintro ⟨rateFolded, nperFolded, pmtFolded, -⟩
    simp [presentValue, discount, one, Percent.FoldedAll, Percent.Folded, Percent.Apart,
      Percent.isSign, rateFolded, nperFolded, pmtFolded]

end Node
end CellGraph
