import CellGraph.Proofs.Dialect.Blind
import CellGraph.Proofs.Dialect.Folding

/-!
# Sums and percentages see no literals

Sums are counted and renamed or spelled out whatever literals stand around them (`blind_rename`,
`blind_spellOut`), and percentages are folded whatever the literals are (`foldAll_mapLiterals`). A
folded percentage is a number without quote marks, so it may take the place of the number and its
percent signs (`fills_insideAll`).
-/

namespace CellGraph

open Token (Trades Sealed Fills)
open Text (Unquoted)
open Node (flat flatAll flatArgs mapAll mapArgs mapAll_eq_map mapArgs_eq_map sole?_mapAll textAll)

variable {g : Text → Text}

/-! ## Sums -/

namespace Sum

theorem isReference_mapLiterals (arg : List Node) :
    isReference (mapAll (.literals g) arg) = isReference arg := by
  unfold isReference
  rw [sole?_mapAll]
  cases Node.sole? arg with
  | none => rfl
  | some n => cases n <;> rfl

theorem addsReferences_mapLiterals (args : List (List Node)) :
    addsReferences (mapArgs (.literals g) args) = addsReferences args := by
  simp [addsReferences, mapArgs_eq_map, Function.comp_def, isReference_mapLiterals]

theorem columnRefs?_mapLiterals (args : List (List Node)) :
    columnRefs? (mapArgs (.literals g) args) = columnRefs? args := by
  match args with
  | [] | _ :: _ :: _ => rfl
  | [arg] =>
    simp only [columnRefs?, mapArgs, sole?_mapAll]
    cases Node.sole? arg with
    | none => rfl
    | some n => cases n <;> rfl

theorem summands?_mapLiterals (n : Node) :
    summands? (n.map (.literals g)) = (summands? n).map (mapArgs (.literals g)) := by
  cases n with
  | call written args closed =>
    simp only [Node.map, summands?, Node.arguments_mapArgs]
    split <;> rfl
  | _ => rfl

theorem sums_mapLiterals (ns : List Node) :
    sums (mapAll (.literals g) ns) = (sums ns).map (mapArgs (.literals g)) := by
  have each : summands? ∘ Node.map (.literals g) =
      fun n => (summands? n).map (mapArgs (.literals g)) := funext summands?_mapLiterals
  rw [sums, Node.walkAll_mapAll, mapAll_eq_map, List.filterMap_map, each, sums,
    List.map_filterMap]

theorem blind_rename : Node.Blind rename where
  keeps n plain := by
    cases n with
    | group | call => cases plain
    | _ => rfl
  fills n := by
    have kept : Fills (flat n) (flatAll [n]) := by simpa [flatAll] using .refl _
    unfold rename
    split
    · next written args closed =>
      split
      · next same =>
        have named := Inline.continues_of_key same ⟨'S', rfl, rfl⟩
        have first : Fills [.func written] [.func "sum"] :=
          Token.fills_plain (fun _ => (by decide : Unquoted ['s', 'u', 'm'])) rfl (by decide)
            (by simpa [Token.text] using named) (by simp)
        have rest : Fills (.lparen :: (flatArgs args ++ Node.closingToken closed)) _ := .refl _
        simpa [Expansion.of, flatAll, flat] using first.append rest
      · exact kept
    · exact kept
  literals {g} _ n _ := by
    cases n with
    | call written args closed =>
      simp only [Node.map, rename]
      split <;> rfl
    | _ => rfl

/-- A call that is spelled out as a column. -/
theorem call_of_columnRefs? {n : Node} {refs : List Ref}
    (found : (summands? n).bind columnRefs? = some refs) : ∃ written arg closed a b,
      n = .call written [arg] closed ∧ Inline.key written = name ∧
        Node.range? arg = some (a, b) ∧ refs = Area.refs a b := by
  obtain ⟨summands, isSum, column⟩ := Option.bind_eq_some_iff.1 found
  obtain ⟨written, args, closed, rfl, same, rfl⟩ := summands?_eq_some isSum
  obtain ⟨arg, a, b, single, alone, rfl, -⟩ := columnRefs?_eq_some column
  have whole : args = [arg] := by
    rcases Node.arguments_cases args with all | none
    · rw [← all, single]
    · rw [none] at single
      cases single
  subst whole
  exact ⟨written, arg, closed, a, b, rfl, same, Node.range?_of_sole? alone, rfl⟩

theorem blind_spellOut : Node.Blind spellOut where
  keeps n plain := by
    cases n with
    | group | call => cases plain
    | _ => rfl
  fills n := by
    unfold spellOut
    split
    · next refs found =>
      obtain ⟨written, arg, closed, a, b, rfl, same, range, rfl⟩ := call_of_columnRefs? found
      rw [← Node.textAll_column]
      exact Node.fills_call (Inline.continues_of_key same ⟨'S', rfl, rfl⟩) fun given =>
        Node.holds_column (given arg (by simp)) range
    · simpa [Expansion.keep, flatAll] using .refl _
  literals {g} trades n isSealed := by
    have found : (summands? (n.map (.literals g))).bind columnRefs? =
        (summands? n).bind columnRefs? := by
      rw [summands?_mapLiterals]
      cases summands? n with
      | none => rfl
      | some summands => exact columnRefs?_mapLiterals summands
    unfold spellOut
    rw [found]
    split
    · next refs column =>
      obtain ⟨written, arg, closed, a, b, rfl, -, range, rfl⟩ := call_of_columnRefs? column
      have given := Node.sealedAll_of_sealed (Node.sealed_arguments isSealed)
      have inside := (Node.holds_column (given arg (by simp)) range).isSealed
      have read := Parser.parse_textAll_literals trades (Node.sealedAll_bracket inside)
      have same : mapAll (.literals g) (Node.joined ((Area.refs a b).map fun r => [.ref r])) =
          Node.joined ((Area.refs a b).map fun r => [.ref r]) := by
        rw [Node.mapLiteralsAll_joined, List.map_map]
        rfl
      simp only [mapAll, Node.map, same, Node.textAll_column] at read
      exact congrArg Expansion.of read
    · rfl

end Sum

/-! ## Percentages -/

namespace Percent

theorem isSign_mapLiterals (n : Node) : isSign (n.map (.literals g)) = isSign n := by
  cases n with
  | leaf t => cases t <;> rfl
  | _ => rfl

theorem length_signs_mapLiterals (ns : List Node) :
    ((mapAll (.literals g) ns).takeWhile isSign).length = (ns.takeWhile isSign).length := by
  have each : isSign ∘ Node.map (.literals g) = isSign := funext isSign_mapLiterals
  rw [mapAll_eq_map, List.takeWhile_map, List.length_map, each]

theorem eq_number_of_mapLiterals {n : Node} {t : Text}
    (same : n.map (.literals g) = .leaf (.number t)) : n = .leaf (.number t) := by
  cases n with
  | leaf u =>
    cases u with
    | number w => exact same
    | _ => cases same
  | _ => cases same

variable {ns ms : List Node} {behind : Bool}

theorem fold_mapLiterals (found : fold behind ns = .ok ms) :
    fold behind (mapAll (.literals g) ns) = .ok (mapAll (.literals g) ms) := by
  fun_induction fold behind ns generalizing ms with
  | case1 =>
    cases found
    rfl
  | case2 behind n ns isBehind ih =>
    have isBehind' : (behind && isSign (n.map (.literals g))) = true := by rwa [isSign_mapLiterals]
    rw [mapAll]
    unfold fold
    rw [if_pos isBehind', ih found]
  | case3 behind ns t signs count noSign ih =>
    obtain ⟨value, divided, found⟩ := Except.bind_eq_ok.1 found
    obtain ⟨rest, restFound, found⟩ := Except.bind_eq_ok.1 found
    cases found
    have again : ((mapAll (.literals g) ns).takeWhile isSign).length = signs + 1 := by
      rw [length_signs_mapLiterals, count]
    show fold behind (.leaf (.number t) :: mapAll (.literals g) ns) = _
    simp only [fold, again, if_neg noSign]
    exact Except.bind_eq_ok.2 ⟨value, divided, Except.bind_eq_ok.2 ⟨_, ih restFound, rfl⟩⟩
  | case4 behind n ns noSign noCount ih =>
    obtain ⟨rest, restFound, found⟩ := Except.bind_eq_ok.1 found
    cases found
    have noCount' : ∀ (t : Text) (signs : Nat), n.map (.literals g) = .leaf (.number t) →
        ((mapAll (.literals g) ns).takeWhile isSign).length = signs.succ → False := by
      intro t signs isNumber count
      rw [length_signs_mapLiterals] at count
      exact noCount t signs (eq_number_of_mapLiterals isNumber) count
    rw [mapAll, fold.eq_3 _ _ _ noCount', isSign_mapLiterals, if_neg noSign]
    exact Except.bind_eq_ok.2 ⟨_, ih restFound, rfl⟩

mutual

theorem inside_mapLiterals : ∀ {n m : Node}, inside n = .ok m →
    inside (n.map (.literals g)) = .ok (m.map (.literals g))
  | .leaf _, _, found | .ref _, _, found | .range _ _, _, found => by
    cases found
    rfl
  | .group body closed, _, found => by
    obtain ⟨inner, outer, innerFound, outerFound, rfl⟩ := inside_group_eq_ok.1 found
    exact inside_group_eq_ok.2
      ⟨_, _, insideAll_mapLiterals innerFound, fold_mapLiterals outerFound, rfl⟩
  | .call name args closed, _, found => by
    obtain ⟨inner, innerFound, rfl⟩ := inside_call_eq_ok.1 found
    exact inside_call_eq_ok.2 ⟨_, insideArgs_mapLiterals innerFound, rfl⟩

theorem insideAll_mapLiterals : ∀ {ns ms : List Node}, insideAll ns = .ok ms →
    insideAll (mapAll (.literals g) ns) = .ok (mapAll (.literals g) ms)
  | [], _, found => by
    cases found
    rfl
  | n :: ns, _, found => by
    obtain ⟨first, rest, firstFound, restFound, rfl⟩ := insideAll_cons_eq_ok.1 found
    exact insideAll_cons_eq_ok.2
      ⟨_, _, inside_mapLiterals firstFound, insideAll_mapLiterals restFound, rfl⟩

theorem insideArgs_mapLiterals : ∀ {args folded : List (List Node)}, insideArgs args = .ok folded →
    insideArgs (mapArgs (.literals g) args) = .ok (mapArgs (.literals g) folded)
  | [], _, found => by
    cases found
    rfl
  | arg :: args, _, found => by
    obtain ⟨inner, first, rest, innerFound, firstFound, restFound, rfl⟩ :=
      insideArgs_cons_eq_ok.1 found
    exact insideArgs_cons_eq_ok.2 ⟨_, _, _, insideAll_mapLiterals innerFound,
      fold_mapLiterals firstFound, insideArgs_mapLiterals restFound, rfl⟩

end

/-- Percentages are folded whatever the literals are. -/
theorem foldAll_mapLiterals (found : foldAll ns = .ok ms) :
    foldAll (mapAll (.literals g) ns) = .ok (mapAll (.literals g) ms) := by
  obtain ⟨inner, innerFound, found⟩ := foldAll_eq_ok.1 found
  exact foldAll_eq_ok.2 ⟨_, insideAll_mapLiterals innerFound, fold_mapLiterals found⟩

/-! ## What takes the place of percentages -/

/-- Numbers start as words do. -/
def NumbersGoOn (ts : List Token) : Prop := ∀ t, .number t ∈ ts → Ref.continues t

theorem numbersGoOn_tokens (formula : Text) : NumbersGoOn (Token.tokens formula) := by
  intro t member
  obtain ⟨l, formed, rfl⟩ : Token.Whole (.number t) :=
    Token.whole_of_mem_tokens member rfl (by simp)
  obtain ⟨c, u, start, first⟩ := formed.head
  rw [start]
  rcases first with digit | rfl
  · have word := Text.isWordChar_of_isDigit digit
    simp [Ref.continues, SheetName.isBareChar, word]
  · rfl

theorem unquoted_quotient {number value : Text} {signs : Nat}
    (found : quotient number signs = .ok value) : Unquoted value ∧ value ≠ [] := by
  unfold quotient at found
  split at found
  · cases found
  · next scale power =>
    cases found
    obtain ⟨sign, t, written, -, word⟩ := Binary64.plainText_cases
      (((Binary64.read? number).getD .nan).div scale)
    refine ⟨fun c member => ?_, ?_⟩
    · rw [Bool.eq_false_iff]
      intro mark
      refine Binary64.not_mem_plainText (c := c) ?_ ?_ _ member <;>
        (simp only [Text.isQuoteMark, Bool.or_eq_true, beq_iff_eq] at mark
         rcases mark with rfl | rfl <;> decide)
    · rw [written]
      rcases word with rfl | rfl | ⟨l, formed, rfl⟩
      · simp
      · simp
      · obtain ⟨c, u, start, -⟩ := formed.head
        simp [start]

theorem fills_number {t value : Text} {count : Nat} (signs : Nat) (goesOn : Ref.continues t)
    (found : quotient t count = .ok value) :
    Fills (flatAll (.leaf (.number t) :: List.replicate signs sign)) [.number value] := by
  obtain ⟨plain, some_char⟩ := unquoted_quotient found
  refine Token.fills_plain (fun _ => plain) rfl some_char ?_ fun w member => ?_
  · exact Token.continues_append goesOn _
  · obtain ⟨n, inside, found⟩ := Node.mem_flatAll.1 member
    rcases List.mem_cons.1 inside with rfl | isSign
    · simp [flat] at found
    · rw [List.eq_of_mem_replicate isSign] at found
      simp [flat] at found

/-- What a sequence is folded to takes its place. -/
theorem Folds.fills (folds : Folds ns ms) (goOn : ∀ t, .leaf (.number t) ∈ ns → Ref.continues t) :
    Fills (flatAll ns) (flatAll ms) := by
  induction folds with
  | nil => exact .refl []
  | @keep n ns ms rest ih =>
    have own : Fills (flat n) (flat n) := .refl _
    exact own.append (ih fun t member => goOn t (by simp [member]))
  | @number t value count signs ns ms found rest ih =>
    have own := fills_number signs (goOn t (by simp)) found
    have whole : flatAll (.leaf (.number t) :: (List.replicate signs sign ++ ns)) =
        flatAll (.leaf (.number t) :: List.replicate signs sign) ++ flatAll ns := by
      rw [← Node.flatAll_append, List.cons_append]
    rw [whole]
    exact own.append (ih fun t member => goOn t (by simp [member]))

theorem forall₂_of_insideAll (found : insideAll ns = .ok ms) :
    List.Forall₂ (fun n m => inside n = .ok m) ns ms := by
  induction ns generalizing ms with
  | nil =>
    cases found
    exact .nil
  | cons n ns ih =>
    obtain ⟨first, rest, firstFound, restFound, rfl⟩ := insideAll_cons_eq_ok.1 found
    exact .cons firstFound (ih restFound)

theorem goOn_of_insideAll (goOn : NumbersGoOn (flatAll ns)) (found : insideAll ns = .ok ms) {t : Text}
    (member : .leaf (.number t) ∈ ms) : Ref.continues t := by
  obtain ⟨n, inside, same⟩ := exists_of_forall₂ (forall₂_of_insideAll found) member
  obtain rfl := (leaf_of_inside same (.number t)).1 rfl
  exact goOn t (Node.mem_flatAll.2 ⟨_, inside, by simp [flat]⟩)

theorem fills_fold (goOn : NumbersGoOn (flatAll ns)) {inner : List Node}
    (innerFound : insideAll ns = .ok inner) (found : fold false inner = .ok ms) :
    Fills (flatAll inner) (flatAll ms) := by
  obtain ⟨signs, rest, rfl, none_dropped, folds⟩ := folds_of_fold found
  obtain rfl := none_dropped rfl
  exact folds.fills fun t member => goOn_of_insideAll goOn innerFound member

mutual

/-- A node in which percentages are folded takes the place of the node. -/
theorem fills_inside : ∀ {n m : Node}, NumbersGoOn (flat n) → inside n = .ok m →
    Fills (flat n) (flat m)
  | .leaf _, _, _, found | .ref _, _, _, found | .range _ _, _, _, found => by
    cases found
    exact .refl _
  | .group body closed, _, goOn, found => by
    obtain ⟨inner, outer, innerFound, outerFound, rfl⟩ := inside_group_eq_ok.1 found
    have goOn' : NumbersGoOn (flatAll body) := fun t member => goOn t (by simp [flat, member])
    have filled := (fills_insideAll goOn' innerFound).trans (fills_fold goOn' innerFound outerFound)
    exact (filled.append (.refl (Node.closingToken closed))).cons .lparen
  | .call name args closed, _, goOn, found => by
    obtain ⟨inner, innerFound, rfl⟩ := inside_call_eq_ok.1 found
    have goOn' : NumbersGoOn (flatArgs args) := fun t member => goOn t (by simp [flat, member])
    have filled := fills_insideArgs goOn' innerFound
    exact ((filled.append (.refl (Node.closingToken closed))).cons .lparen).cons (.func name)

theorem fills_insideAll : ∀ {ns ms : List Node}, NumbersGoOn (flatAll ns) → insideAll ns = .ok ms →
    Fills (flatAll ns) (flatAll ms)
  | [], _, _, found => by
    cases found
    exact .refl []
  | n :: ns, _, goOn, found => by
    obtain ⟨first, rest, firstFound, restFound, rfl⟩ := insideAll_cons_eq_ok.1 found
    have own : NumbersGoOn (flat n) := fun t member => goOn t (List.mem_append_left _ member)
    have others : NumbersGoOn (flatAll ns) := fun t member => goOn t (List.mem_append_right _ member)
    exact (fills_inside own firstFound).append (fills_insideAll others restFound)

theorem fills_insideArgs : ∀ {args folded : List (List Node)}, NumbersGoOn (flatArgs args) →
    insideArgs args = .ok folded → Fills (flatArgs args) (flatArgs folded)
  | [], _, _, found => by
    cases found
    exact .refl []
  | [arg], _, goOn, found => by
    obtain ⟨inner, first, rest, innerFound, firstFound, restFound, rfl⟩ :=
      insideArgs_cons_eq_ok.1 found
    cases restFound
    exact (fills_insideAll goOn innerFound).trans (fills_fold goOn innerFound firstFound)
  | arg :: next :: args, _, goOn, found => by
    obtain ⟨inner, first, rest, innerFound, firstFound, restFound, rfl⟩ :=
      insideArgs_cons_eq_ok.1 found
    rw [flatArgs.eq_3 _ _ (by simp)] at goOn ⊢
    have own : NumbersGoOn (flatAll arg) := fun t member => goOn t (List.mem_append_left _ member)
    have others : NumbersGoOn (flatArgs (next :: args)) := fun t member =>
      goOn t (List.mem_append_right _ (List.mem_cons_of_mem _ member))
    have filled := (fills_insideAll own innerFound).trans (fills_fold own innerFound firstFound)
    have behind := (fills_insideArgs others restFound).cons .comma
    cases rest with
    | nil =>
      obtain ⟨_, _, _, -, -, -, nothing⟩ := insideArgs_cons_eq_ok.1 restFound
      cases nothing
    | cons second rest => exact filled.append behind

end

end Percent
end CellGraph
