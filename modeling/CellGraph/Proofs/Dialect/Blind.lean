import CellGraph.Proofs.Dialect.Copies
import CellGraph.Proofs.Parsing.Mapped

/-!
# Changes that see no literals

A change of a tree is blind if it makes the same of a tree with other literals, but for these
literals, and neither breaks a literal nor drops one (`Blind`). Calls are spelled out blindly: the
arguments are printed into a bracket between operators, commas and parentheses, which end what
stands before them, so the literals are read again as they are.
-/

namespace CellGraph

open Token (Trades Sealed Seals Fills Milder Separated)
open Text (Unquoted)

namespace Token

variable {ts : List Token} {rest : Text}

theorem milder_of_separated (separated : Separated rest) : Milder [] rest := by
  refine ⟨fun head => absurd head separated.head_ne.2, fun more => ?_⟩
  rw [separated.continues] at more
  cases more

/-- What ends the word before it breaks no seal. -/
theorem Sealed.before (isSealed : Sealed ts []) (separated : Separated rest) : Sealed ts rest :=
  isSealed.mono (milder_of_separated separated)

end Token

namespace Node

variable {ms ns body : List Node} {n : Node} {arg : List Node} {args : List (List Node)} {w : Text}

/-! ## Sealed sequences -/

/-- A sequence of which all tokens are sealed, if nothing follows. -/
def SealedAll (ns : List Node) : Prop := Sealed (flatAll ns) []

/-- A node of which all tokens are sealed, whatever follows. -/
def Enclosed (n : Node) : Prop := ∀ rest, Sealed (flat n) rest

theorem sealed_of_mem (isSealed : SealedAll ns) (member : n ∈ ns) : Sealed (flat n) [] := by
  obtain ⟨before, behind, rfl⟩ := List.append_of_mem member
  rw [SealedAll, flatAll_append, Token.sealed_append, flatAll, Token.sealed_append] at isSealed
  exact isSealed.2.1.alone

theorem sealedAll_of_sealed : ∀ {args : List (List Node)} {rest : Text}, Sealed (flatArgs args) rest →
    ∀ arg ∈ args, SealedAll arg
  | [], _, _ => by simp
  | [arg], _, isSealed => List.forall_mem_singleton.2 isSealed.alone
  | arg :: next :: args, _, isSealed => by
    rw [flatArgs.eq_3 _ _ (by simp), Token.sealed_append] at isSealed
    exact List.forall_mem_cons.2 ⟨isSealed.1.alone, sealedAll_of_sealed isSealed.2.2⟩

theorem sealedAll_of_enclosed (each : ∀ n ∈ ns, Enclosed n) : SealedAll ns := by
  induction ns with
  | nil => trivial
  | cons n ns ih =>
    rw [List.forall_mem_cons] at each
    exact Token.sealed_append.2 ⟨each.1 _, ih each.2⟩

theorem enclosed_number {t : Text} (plain : Unquoted t) : Enclosed (.leaf (.number t)) :=
  fun _ => ⟨plain, trivial⟩

theorem unquoted_of_joiner {c : Char} (joiner : Joiner c) : Unquoted [c] := by
  simp only [Joiner, List.mem_cons, List.not_mem_nil, or_false] at joiner
  rcases joiner with rfl | rfl | rfl | rfl | rfl <;> decide

theorem enclosed_operator {c : Char} (joiner : Joiner c) : Enclosed (operator c) :=
  fun _ => ⟨unquoted_of_joiner joiner, trivial⟩

theorem enclosed_group (inside : SealedAll body) : Enclosed (.group body true) := by
  intro rest
  have bracket : Unquoted ['('] ∧ Unquoted [')'] := by decide
  have ends : Separated ([')'] ++ rest) := by
    rintro _ ⟨⟩
    exact .inr (.inl rfl)
  exact ⟨bracket.1, Token.sealed_append.2 ⟨inside.before ends, bracket.2, trivial⟩⟩

theorem sealedAll_bracket (inside : SealedAll body) : SealedAll [.group body true] :=
  sealedAll_of_enclosed (List.forall_mem_singleton.2 (enclosed_group inside))

theorem enclosed_logarithm (inside : SealedAll arg) : Enclosed (logarithm arg) := by
  intro rest
  have name : Unquoted ['l', 'o', 'g', '1', '0'] := by decide
  exact ⟨name, enclosed_group inside rest⟩

theorem sealedAll_append_operator {c : Char} (joiner : Joiner c) (first : SealedAll ms)
    (second : SealedAll ns) : SealedAll (ms ++ operator c :: ns) := by
  have ends : Separated (Token.texts (flatAll (operator c :: ns)) ++ []) := by
    rintro _ ⟨⟩
    simp only [Joiner, List.mem_cons, List.not_mem_nil, or_false] at joiner
    rcases joiner with rfl | rfl | rfl | rfl | rfl <;> exact .inl (by decide)
  rw [SealedAll, flatAll_append]
  exact Token.sealed_append.2 ⟨first.before ends, unquoted_of_joiner joiner, second⟩

theorem sealedAll_joined {terms : List (List Node)} (each : ∀ t ∈ terms, SealedAll t) :
    SealedAll (joined terms) := by
  induction terms with
  | nil => trivial
  | cons t terms ih =>
    rw [List.forall_mem_cons] at each
    cases terms with
    | nil => simpa [joined] using each.1
    | cons u terms =>
      rw [joined, List.intercalate_cons_cons, List.append_assoc]
      exact sealedAll_append_operator (by decide) each.1 (ih each.2)

theorem sealedAll_ref {r : Ref} (formed : r.Formed) : SealedAll [.ref r] :=
  ⟨⟨formed, fun _ => rfl⟩, trivial⟩

/-- The ends of a range are formed, so the references that it covers are. -/
theorem formed_of_mem_refs {a b r : Ref} (isSealed : SealedAll arg) (range : range? arg = some (a, b))
    (member : r ∈ Area.refs a b) : r.Formed := by
  have inside : Node.range a b ∈ solid arg := by simp [solid_of_range? range]
  obtain ⟨first, -, last, -⟩ := sealed_of_mem isSealed (List.mem_filter.1 inside).1
  exact Area.formed_of_mem_refs first.1 last.1 member

theorem sealedAll_of_mem_termNodes {t : List Node} (isSealed : SealedAll arg)
    (member : t ∈ termNodes arg) : SealedAll t := by
  unfold termNodes at member
  split at member
  · next a b range =>
    obtain ⟨r, inRefs, rfl⟩ := List.mem_map.1 member
    exact sealedAll_ref (formed_of_mem_refs isSealed range inRefs)
  · rwa [List.mem_singleton.1 member]

/-! ## Literals of sequences -/

theorem string_mem_flatArgs (member : .string w ∈ flatArgs args) :
    ∃ arg ∈ args, .string w ∈ flatAll arg := by
  rcases mem_flatArgs member with comma | ⟨arg, inArgs, found⟩
  · cases comma
  · exact ⟨arg, inArgs, mem_flatAll.2 found⟩

/-- White space holds no literals. -/
theorem string_mem_solid (member : .string w ∈ flatAll ns) : .string w ∈ flatAll (solid ns) := by
  obtain ⟨n, inside, found⟩ := mem_flatAll.1 member
  have noSpace : n.isSpace = false := by
    rw [Bool.eq_false_iff]
    intro space
    cases n with
    | leaf t =>
      obtain rfl : Token.string w = t := by simpa [flat] using found
      cases space
    | _ => cases space
  exact mem_flatAll.2 ⟨n, List.mem_filter.2 ⟨inside, by simp [noSpace]⟩, found⟩

/-- Ranges hold no literals. -/
theorem range?_of_string_mem (member : .string w ∈ flatAll arg) : range? arg = none := by
  rw [Option.eq_none_iff_forall_ne_some]
  rintro ⟨a, b⟩ range
  have inside := string_mem_solid member
  rw [solid_of_range? range] at inside
  simp [flatAll, flat] at inside

theorem string_mem_joined {terms : List (List Node)} {t : List Node} (inTerms : t ∈ terms)
    (member : .string w ∈ flatAll t) : .string w ∈ flatAll (joined terms) := by
  induction terms with
  | nil => simp at inTerms
  | cons u terms ih =>
    cases terms with
    | nil =>
      obtain rfl := List.mem_singleton.1 inTerms
      simpa [joined] using member
    | cons v terms =>
      rw [joined, List.intercalate_cons_cons, flatAll_append, flatAll_append]
      rcases List.mem_cons.1 inTerms with rfl | later
      · simp [member]
      · exact List.mem_append_right _ (ih later)

/-! ## Other literals -/

variable {g : Text → Text}

theorem mapLiteralsAll_joined (terms : List (List Node)) :
    mapAll (.literals g) (joined terms) = joined (terms.map (mapAll (.literals g))) := by
  induction terms with
  | nil => rfl
  | cons t terms ih =>
    cases terms with
    | nil => simp [joined]
    | cons u terms =>
      simp only [joined, List.map_cons, List.intercalate_cons_cons, mapAll_append] at ih ⊢
      rw [ih]
      rfl

theorem termNodes_mapLiterals (arg : List Node) :
    termNodes (mapAll (.literals g) arg) = (termNodes arg).map (mapAll (.literals g)) := by
  unfold termNodes
  rw [range?_literals]
  split
  · simp [mapAll, Node.map]
  · rfl

theorem mapLiteralsAll_mean (terms : List (List Node)) :
    mapAll (.literals g) (mean terms) = mean (terms.map (mapAll (.literals g))) := by
  simp [mean, mapAll, Node.map, Token.map, mapLiteralsAll_joined]

theorem mapLiteralsAll_products (pairs : List (Ref × Ref)) :
    mapAll (.literals g) (products pairs) = products pairs := by
  have each : mapAll (.literals g) ∘ product = product := rfl
  simp [products, mapAll, Node.map, Token.map, mapLiteralsAll_joined, each]

theorem textAll_mapLiterals (ns : List Node) :
    textAll (mapAll (.literals g) ns) = Token.texts ((flatAll ns).map (Token.map (.literals g))) := by
  rw [← texts_flatAll, flatAll_mapAll]

theorem quote_mem_texts {ts : List Token} (isLiteral : Token.IsLiteral w) (member : .string w ∈ ts) :
    '"' ∈ Token.texts ts := by
  obtain ⟨_, rfl, -⟩ := isLiteral
  exact List.mem_flatMap.2 ⟨_, member, by simp [Token.text]⟩

theorem trim_ne_of_quote {t : Text} (quote : '"' ∈ t) : Text.trim t ≠ ['1'] := by
  intro one
  have trimmed := Text.mem_trim quote (by decide)
  rw [one] at trimmed
  exact absurd trimmed (by decide)

/-- What is written as a one holds no literal, so it is with other literals. -/
theorem trim_mapLiterals (trades : Trades g) (ns : List Node) :
    Text.trim (textAll (mapAll (.literals g) ns)) = ['1'] ↔ Text.trim (textAll ns) = ['1'] := by
  rw [textAll_mapLiterals, ← texts_flatAll ns]
  by_cases traded : ∃ w, .string w ∈ flatAll ns ∧ g w ≠ w
  · obtain ⟨w, member, other⟩ := traded
    obtain ⟨before, after⟩ := (trades w).resolve_left other
    have inside : .string (g w) ∈ (flatAll ns).map (Token.map (.literals g)) :=
      List.mem_map.2 ⟨.string w, member, rfl⟩
    exact iff_of_false (trim_ne_of_quote (quote_mem_texts after inside))
      (trim_ne_of_quote (quote_mem_texts before member))
  · have same : (flatAll ns).map (Token.map (.literals g)) = flatAll ns := by
      rw [List.map_congr_left (g := id), List.map_id]
      intro t member
      cases t with
      | string w =>
        by_contra other
        exact traded ⟨w, member, fun same => other (congrArg Token.string same)⟩
      | _ => rfl
    rw [same]

/-! ## Brackets -/

/-- A sealed inside for a bracket, in which all literals of arguments are. -/
structure Holds (args : List (List Node)) (body : List Node) : Prop where
  isSealed : SealedAll body
  literals : ∀ w, .string w ∈ flatArgs args → .string w ∈ flatAll body

theorem holds_mean (given : ∀ arg ∈ args, SealedAll arg) :
    Holds args (mean (args.flatMap termNodes)) where
  isSealed := by
    have terms : ∀ t ∈ args.flatMap termNodes, SealedAll t := by
      intro t member
      obtain ⟨arg, inArgs, inTerms⟩ := List.mem_flatMap.1 member
      exact sealedAll_of_mem_termNodes (given arg inArgs) inTerms
    have count : Unquoted (Text.ofNat (args.flatMap termNodes).length) := by
      have marks : Text.Excludes Char.isDigit := by constructor <;> decide
      exact Text.unquoted_of_forall marks fun _ => Text.isDigit_of_mem_ofNat
    refine sealedAll_of_enclosed ?_
    simp only [mean, List.forall_mem_cons, List.not_mem_nil, false_imp_iff, implies_true, and_true]
    exact ⟨enclosed_group (sealedAll_joined terms), enclosed_operator (by decide),
      enclosed_number count⟩
  literals w member := by
    obtain ⟨arg, inArgs, found⟩ := string_mem_flatArgs member
    have inTerms : arg ∈ args.flatMap termNodes :=
      List.mem_flatMap.2 ⟨arg, inArgs, by simp [termNodes, range?_of_string_mem found]⟩
    have inside := string_mem_joined inTerms found
    simp [mean, flatAll, flat, inside]

theorem holds_column {a b : Ref} (given : SealedAll arg) (range : range? arg = some (a, b)) :
    Holds [arg] (joined ((Area.refs a b).map fun r => [.ref r])) where
  isSealed := by
    refine sealedAll_joined fun t member => ?_
    obtain ⟨r, inRefs, rfl⟩ := List.mem_map.1 member
    exact sealedAll_ref (formed_of_mem_refs given range inRefs)
  literals w member := by
    rw [range?_of_string_mem member] at range
    cases range

theorem holds_products {first second : List Node} {a b c d : Ref}
    (given : ∀ arg ∈ [first, second], SealedAll arg) (left : range? first = some (a, b))
    (right : range? second = some (c, d)) :
    Holds [first, second] (products ((Area.refs a b).zip (Area.refs c d))) where
  isSealed := by
    have each : ∀ t ∈ ((Area.refs a b).zip (Area.refs c d)).map product, SealedAll t := by
      intro t member
      obtain ⟨p, paired, rfl⟩ := List.mem_map.1 member
      have both := List.of_mem_zip paired
      exact sealedAll_append_operator (c := '*') (by decide)
        (sealedAll_ref (formed_of_mem_refs (given first (by simp)) left both.1))
        (sealedAll_ref (formed_of_mem_refs (given second (by simp)) right both.2))
    have nothing : SealedAll [] := trivial
    exact sealedAll_append_operator (c := '+') (by decide) nothing (sealedAll_joined each)
  literals w member := by
    obtain ⟨arg, inArgs, found⟩ := string_mem_flatArgs member
    have noRange := range?_of_string_mem found
    simp only [List.mem_cons, List.not_mem_nil, or_false] at inArgs
    rcases inArgs with rfl | rfl
    · rw [noRange] at left
      cases left
    · rw [noRange] at right
      cases right

theorem enclosed_one : Enclosed one := enclosed_number (by decide)

theorem holds_naturalLogarithm (given : SealedAll arg) : Holds [arg] (naturalLogarithm arg) where
  isSealed := by
    have space : Enclosed blank := fun _ => ⟨(by decide : Unquoted [' ']), trivial⟩
    have number : SealedAll [base] :=
      sealedAll_of_enclosed (List.forall_mem_singleton.2 (enclosed_number (by decide)))
    refine sealedAll_of_enclosed ?_
    simp only [naturalLogarithm, List.forall_mem_cons, List.not_mem_nil, false_imp_iff,
      implies_true, and_true, enclosed_one, space, true_and]
    exact ⟨enclosed_operator (by decide), enclosed_logarithm number, enclosed_operator (by decide),
      enclosed_logarithm given⟩
  literals w member := by
    have inside : .string w ∈ flatAll arg := member
    simp [naturalLogarithm, logarithm, flatAll, flat, flatArgs, inside]

theorem sealedAll_presentValue {rate nper pmt : List Node} (rateSealed : SealedAll rate)
    (nperSealed : SealedAll nper) (pmtSealed : SealedAll pmt) :
    SealedAll (presentValue rate nper pmt) := by
  have rateGroup := enclosed_group rateSealed
  have growth : SealedAll [one, operator '+', .group rate true] := by
    refine sealedAll_of_enclosed ?_
    simp only [List.forall_mem_cons, List.not_mem_nil, false_imp_iff, implies_true, and_true]
    exact ⟨enclosed_one, enclosed_operator (by decide), rateGroup⟩
  have negated : SealedAll [operator '-', .group nper true] := by
    refine sealedAll_of_enclosed ?_
    simp only [List.forall_mem_cons, List.not_mem_nil, false_imp_iff, implies_true, and_true]
    exact ⟨enclosed_operator (by decide), enclosed_group nperSealed⟩
  have rest : SealedAll (discount rate nper) := by
    refine sealedAll_of_enclosed ?_
    simp only [discount, List.forall_mem_cons, List.not_mem_nil, false_imp_iff, implies_true,
      and_true]
    exact ⟨enclosed_one, enclosed_operator (by decide), enclosed_group growth,
      enclosed_operator (by decide), enclosed_group negated⟩
  refine sealedAll_of_enclosed ?_
  simp only [presentValue, List.forall_mem_cons, List.not_mem_nil, false_imp_iff, implies_true,
    and_true]
  exact ⟨enclosed_operator (by decide), enclosed_group pmtSealed, enclosed_operator (by decide),
    enclosed_group rest, enclosed_operator (by decide), rateGroup⟩

theorem string_mem_presentValue {rate nper pmt : List Node} (member : .string w ∈ flatAll arg)
    (given : arg ∈ [rate, nper, pmt]) : .string w ∈ flatAll (presentValue rate nper pmt) := by
  simp only [List.mem_cons, List.not_mem_nil, or_false] at given
  rcases given with rfl | rfl | rfl <;> simp [presentValue, discount, flatAll, flat, member]

end Node

/-! ## Spellers -/

namespace Inline

open Node (Holds mapAll mapArgs mapArgs_eq_map sole?_mapAll textAll)

/-- A speller that sees no literals: what it makes of other literals is the same but for these, and
it keeps them all in one bracket. -/
structure Speller.Blind (spell : Speller) : Prop where
  some_arg : spell [] = none
  stays : ∀ {g args}, Trades g → spell args = none → spell (mapArgs (.literals g) args) = none
  spells : ∀ {args t}, spell args = some t → ∃ body, t = textAll [.group body true] ∧
    ((∀ arg ∈ args, Node.SealedAll arg) → Holds args body) ∧ ∀ {g}, Trades g →
      spell (mapArgs (.literals g) args) = some (textAll [.group (mapAll (.literals g) body) true])

variable {g : Text → Text}

theorem sumproduct_mapLiterals (args : List (List Node)) :
    sumproduct (mapArgs (.literals g) args) = sumproduct args := by
  match args with
  | [] | [_] | _ :: _ :: _ :: _ => rfl
  | [first, second] =>
    simp only [mapArgs, sumproduct, sole?_mapAll]
    cases Node.sole? first with
    | none => rfl
    | some n =>
      cases n with
      | range a b =>
        cases Node.sole? second with
        | none => rfl
        | some m => cases m <;> rfl
      | _ => rfl

theorem blind_sumproduct : Speller.Blind sumproduct where
  some_arg := rfl
  stays _ refused := by rwa [sumproduct_mapLiterals]
  spells spelled := by
    obtain ⟨first, second, a, b, c, d, rfl, left, right, -, -, text⟩ :=
      Node.sumproduct_eq_some spelled
    refine ⟨_, text, fun given => Node.holds_products given left right, fun _ => ?_⟩
    rw [sumproduct_mapLiterals, Node.mapLiteralsAll_products, spelled, text]

theorem isSome_terms?_mapLiterals (arg : List Node) :
    (terms? (mapAll (.literals g) arg)).isSome = (terms? arg).isSome := by
  unfold terms?
  rw [sole?_mapAll]
  cases Node.sole? arg with
  | none => rfl
  | some n => cases n <;> rfl

theorem isSome_average_mapLiterals (args : List (List Node)) :
    (average (mapArgs (.literals g) args)).isSome = (average args).isSome := by
  rw [Bool.eq_iff_iff, isSome_average_iff, isSome_average_iff]
  simp [mapArgs_eq_map, isSome_terms?_mapLiterals]

theorem blind_average : Speller.Blind average where
  some_arg := rfl
  stays {g args} _ refused := by
    have same := isSome_average_mapLiterals (g := g) args
    rwa [refused, Option.isSome_none, Option.isSome_eq_false_iff, Option.isNone_iff_eq_none] at same
  spells {args t} spelled := by
    refine ⟨_, (Node.average_eq_some spelled).2, Node.holds_mean, fun {g} _ => ?_⟩
    have same := isSome_average_mapLiterals (g := g) args
    rw [spelled, Option.isSome_some, Option.isSome_iff_exists] at same
    obtain ⟨u, again⟩ := same
    have terms : (mapArgs (.literals g) args).flatMap Node.termNodes =
        (args.flatMap Node.termNodes).map (mapAll (.literals g)) := by
      simp [mapArgs_eq_map, List.flatMap_map, List.map_flatMap,
        Node.termNodes_mapLiterals]
    rw [again, (Node.average_eq_some again).2, terms, Node.mapLiteralsAll_mean]

theorem blind_ln : Speller.Blind ln where
  some_arg := rfl
  stays {g args} _ refused := by
    match args, refused with
    | [], _ | _ :: _ :: _, _ => rfl
  spells spelled := by
    obtain ⟨arg, rfl, text⟩ := Node.ln_eq_some spelled
    refine ⟨_, text, fun given => Node.holds_naturalLogarithm (given arg (by simp)), fun {g} _ => ?_⟩
    have again : ln (mapArgs (.literals g) [arg]) =
        some ("(1 / log10(2.71828) * log10(" ++ textAll (mapAll (.literals g) arg) ++ "))") := rfl
    obtain ⟨_, same, spelled⟩ := Node.ln_eq_some again
    cases same
    rw [again, spelled]
    rfl

/-- Whether the last two arguments of a present value are ignored is seen without literals. -/
theorem ignored_mapLiterals (trades : Trades g) {future due : List Node} :
    (Node.solid (mapAll (.literals g) future) = [] ∧
      Text.trim (textAll (mapAll (.literals g) due)) = ['1']) ↔
    Node.solid future = [] ∧ Text.trim (textAll due) = ['1'] := by
  rw [Node.solid_mapAll, Node.mapAll_eq_map, List.map_eq_nil_iff,
    Node.trim_mapLiterals trades]

theorem pv_ignored {rate nper pmt future due : List Node} (ignored : Node.solid future = [] ∧
    Text.trim (textAll due) = ['1']) : pv [rate, nper, pmt, future, due] = pv [rate, nper, pmt] := by
  simp [pv, ignored]

theorem blind_pv : Speller.Blind pv where
  some_arg := rfl
  stays {g args} trades refused := by
    match args with
    | [] | [_] | [_, _] | [_, _, _, _] | _ :: _ :: _ :: _ :: _ :: _ :: _ => rfl
    | [_, _, _] => cases refused
    | [rate, nper, pmt, future, due] =>
      have kept : ¬ (Node.solid future = [] ∧ Text.trim (textAll due) = ['1']) := by
        intro ignored
        rw [pv_ignored ignored] at refused
        cases refused
      have kept' := (ignored_mapLiterals trades).not.2 kept
      simp only [pv, mapArgs, if_neg kept']
  spells {args t} spelled := by
    obtain ⟨rate, nper, pmt, given, rfl⟩ := pv_eq_some spelled
    have three : ∀ rate nper pmt, pv [rate, nper, pmt] =
        some (textAll [.group (Node.presentValue rate nper pmt) true]) := by
      intro rate nper pmt
      rw [Node.textAll_presentValue]
      rfl
    refine ⟨Node.presentValue rate nper pmt, (Node.textAll_presentValue ..).symm, ?_, ?_⟩
    · have inside : ∀ arg ∈ [rate, nper, pmt], arg ∈ args := by
        rcases given with rfl | ⟨future, due, rfl, -, -⟩ <;> simp
      intro isSealed
      refine ⟨?_, fun w member => ?_⟩
      · exact Node.sealedAll_presentValue (isSealed rate (inside rate (by simp)))
          (isSealed nper (inside nper (by simp))) (isSealed pmt (inside pmt (by simp)))
      · obtain ⟨arg, inArgs, found⟩ := Node.string_mem_flatArgs member
        refine Node.string_mem_presentValue found ?_
        rcases given with rfl | ⟨future, due, rfl, blank, one⟩
        · exact inArgs
        · -- what is ignored holds no literals
          have noFuture : arg ≠ future := by
            rintro rfl
            have solid := Node.string_mem_solid found
            rw [blank] at solid
            cases solid
          have noDue : arg ≠ due := by
            rintro rfl
            have isLiteral := Token.isLiteral_of_sealed (isSealed arg (by simp)) found
            rw [← Node.texts_flatAll] at one
            exact Node.trim_ne_of_quote (Node.quote_mem_texts isLiteral found) one
          simpa [noFuture, noDue] using inArgs
    · intro g trades
      rcases given with rfl | ⟨future, due, rfl, ignored⟩
      · exact three ..
      · have again : pv (mapArgs (.literals g) [rate, nper, pmt, future, due]) =
            pv (mapArgs (.literals g) [rate, nper, pmt]) :=
          pv_ignored ((ignored_mapLiterals trades).2 ignored)
        exact again.trans (three ..)

end Inline

/-! ## Changes of nodes -/

/-- What became of a tree, with other literals. -/
def Expansion.mapLiterals (g : Text → Text) (e : Expansion) : Expansion :=
  ⟨Node.mapAll (.literals g) e.nodes, e.unresolved⟩

namespace Node

/-- A change of brackets that sees no literals: what it makes of a node fills the place of the node,
and with other literals it makes the same but for these. -/
structure Blind (f : Node → Expansion) : Prop where
  keeps : ∀ n : Node, n.isBracket = false → f n = .keep n
  fills : ∀ n : Node, Fills (flat n) (flatAll (f n).nodes)
  literals : ∀ {g}, Trades g → ∀ n : Node, Sealed (flat n) [] →
    f (n.map (.literals g)) = (f n).mapLiterals g

variable {f : Node → Expansion}

mutual

/-- A tree that is changed node by node fills its place if each node does. -/
theorem fills_expand (blind : Blind f) : ∀ n : Node, Fills (flat n) (flatAll (expand f n).nodes)
  | .leaf _ | .ref _ | .range _ _ => blind.fills _
  | .group body closed => by
    have inner := (fills_expandAll blind body).append (.refl (closingToken closed))
    exact (inner.cons .lparen).trans (blind.fills (.group (expandAll f body).nodes closed))
  | .call name args closed => by
    have inner := (fills_expandArgs blind args).append (.refl (closingToken closed))
    exact ((inner.cons .lparen).cons (.func name)).trans
      (blind.fills (.call name (expandArgs f args).1 closed))

theorem fills_expandAll (blind : Blind f) : ∀ ns : List Node,
    Fills (flatAll ns) (flatAll (expandAll f ns).nodes)
  | [] => .refl []
  | n :: ns => by
    rw [expandAll, flatAll_append]
    exact (fills_expand blind n).append (fills_expandAll blind ns)

theorem fills_expandArgs (blind : Blind f) : ∀ args : List (List Node),
    Fills (flatArgs args) (flatArgs (expandArgs f args).1)
  | [] => .refl []
  | [arg] => fills_expandAll blind arg
  | arg :: next :: args =>
    (fills_expandAll blind arg).append ((fills_expandArgs blind (next :: args)).cons .comma)

end

theorem sealed_inside {body : List Node} {closed : Bool}
    (isSealed : Sealed (flat (.group body closed)) []) : SealedAll body :=
  (Token.sealed_append.1 isSealed.2).1.alone

theorem sealed_arguments {name : Text} {args : List (List Node)} {closed : Bool}
    (isSealed : Sealed (flat (.call name args closed)) []) : Sealed (flatArgs args) [] :=
  (Token.sealed_append.1 isSealed.2.2).1.alone

mutual

/-- A tree with other literals is changed to the same but for these. -/
theorem expand_mapLiterals (blind : Blind f) {g : Text → Text} (trades : Trades g) : ∀ n : Node,
    Sealed (flat n) [] → expand f (n.map (.literals g)) = (expand f n).mapLiterals g
  | .leaf t, isSealed => blind.literals trades (.leaf t) isSealed
  | .ref r, isSealed => blind.literals trades (.ref r) isSealed
  | .range a b, isSealed => blind.literals trades (.range a b) isSealed
  | .group body closed, isSealed => by
    have filled := (fills_expandAll blind body).append (.refl (closingToken closed))
    have outer := blind.literals trades (.group (expandAll f body).nodes closed)
      ((filled.cons .lparen).isSealed _ isSealed)
    have inner := expandAll_mapLiterals blind trades body (sealed_inside isSealed)
    simp only [Node.map] at outer
    simp only [Node.map, expand, inner, Expansion.mapLiterals, outer]
  | .call name args closed, isSealed => by
    have filled := (fills_expandArgs blind args).append (.refl (closingToken closed))
    have outer := blind.literals trades (.call name (expandArgs f args).1 closed)
      (((filled.cons .lparen).cons (.func name)).isSealed _ isSealed)
    have inner := expandArgs_mapLiterals blind trades args (sealed_arguments isSealed)
    simp only [Node.map] at outer
    simp only [Node.map, expand, inner, Expansion.mapLiterals, outer]

theorem expandAll_mapLiterals (blind : Blind f) {g : Text → Text} (trades : Trades g) :
    ∀ ns : List Node, SealedAll ns →
      expandAll f (mapAll (.literals g) ns) = (expandAll f ns).mapLiterals g
  | [], _ => rfl
  | n :: ns, isSealed => by
    obtain ⟨own, behind⟩ := Token.sealed_append.1 isSealed
    have first := expand_mapLiterals blind trades n own.alone
    have rest := expandAll_mapLiterals blind trades ns behind
    simp only [mapAll, expandAll, first, rest, Expansion.mapLiterals,
      mapAll_append]

theorem expandArgs_mapLiterals (blind : Blind f) {g : Text → Text} (trades : Trades g) :
    ∀ args : List (List Node), Sealed (flatArgs args) [] →
      expandArgs f (mapArgs (.literals g) args) =
        (mapArgs (.literals g) (expandArgs f args).1, (expandArgs f args).2)
  | [], _ => rfl
  | [arg], isSealed => by
    have first := expandAll_mapLiterals blind trades arg isSealed
    simp only [mapArgs, expandArgs, first, Expansion.mapLiterals]
  | arg :: next :: args, isSealed => by
    rw [flatArgs.eq_3 _ _ (by simp), Token.sealed_append] at isSealed
    have first := expandAll_mapLiterals blind trades arg isSealed.1.alone
    have rest := expandArgs_mapLiterals blind trades (next :: args) isSealed.2.2
    rw [mapArgs, expandArgs, rest, first]
    rfl

end

/-! ## Calls that are replaced -/

/-- What is read from a sealed bracket fills the place of a call that its literals come from. -/
theorem fills_call {name : Text} {args : List (List Node)} {closed : Bool} {body : List Node}
    (named : Ref.continues name) (holds : (∀ arg ∈ args, SealedAll arg) → Holds args body) :
    Fills (flat (.call name args closed))
      (flatAll (Parser.parse (textAll [.group body true]))) where
  isSealed rest given := by
    have inside := (holds (sealedAll_of_sealed (sealed_arguments given.alone))).isSealed
    have bracket : Sealed (flat (.group body true)) rest := enclosed_group inside rest
    rw [Parser.flatAll_parse, ← texts_flatAll, flatAll, flatAll, List.append_nil,
      Token.tokens_of_sealed bracket.alone]
    exact Token.sealed_relex bracket (by decide)
  milder rest := by
    rw [Parser.flatAll_parse, Token.texts_tokens]
    refine ⟨?_, fun _ => ?_⟩
    · rintro ⟨⟩
    · cases name with
      | nil => cases named
      | cons c name => exact named
  literals given w member := by
    have held := holds (sealedAll_of_sealed (sealed_arguments given))
    have bracket : Sealed (flat (.group body true)) [] := enclosed_group held.isSealed []
    have inArgs : .string w ∈ flatArgs args := by
      cases closed <;> simpa [flat, closingToken] using member
    rw [Parser.flatAll_parse, ← texts_flatAll, flatAll, flatAll, List.append_nil,
      Token.tokens_of_sealed bracket]
    refine Token.string_mem_relex ?_ []
    simp [flat, held.literals w inArgs]

end Node

namespace Inline

open Node (mapAll mapArgs)

/-- A name that is known in any letter case goes on a word. -/
theorem continues_of_key {written name : Text} (same : key written = name)
    (capital : ∃ c ∈ name.head?, c.isUpper) : Ref.continues written := by
  subst same
  obtain ⟨c, head, isUpper⟩ := capital
  cases written with
  | nil => cases head
  | cons d written =>
    cases head
    have word := Text.isWordChar_iff.2 (.inl (Text.isAlpha_of_toUpper isUpper))
    simp [Ref.continues, SheetName.isBareChar, word]

theorem Speller.Blind.arguments {spell : Speller} (blind : spell.Blind) {args : List (List Node)}
    {t : Text} (spelled : spell (Node.arguments args) = some t) : Node.arguments args = args := by
  rcases Node.arguments_cases args with same | blank
  · exact same
  · rw [blank, blind.some_arg] at spelled
    cases spelled

/-- Calls are spelled out blindly if their arguments are. -/
theorem blind_expandCall {name : Text} (capital : ∃ c ∈ name.head?, c.isUpper) {spell : Speller}
    (blind : spell.Blind) : Node.Blind (expandCall name spell) where
  keeps n plain := by
    cases n with
    | group | call => cases plain
    | _ => rfl
  fills n := by
    have kept : Fills (Node.flat n) (Node.flatAll [n]) := by simpa [Node.flatAll] using .refl _
    unfold expandCall
    split
    · next written args closed =>
      split
      · next same =>
        split
        · next t spelled =>
          have whole := blind.arguments spelled
          obtain ⟨body, rfl, holds, -⟩ := blind.spells spelled
          rw [whole] at holds
          exact Node.fills_call (continues_of_key same capital) holds
        · exact kept
      · exact kept
    · exact kept
  literals {g} trades n isSealed := by
    cases n with
    | call written args closed =>
      simp only [Node.map, expandCall, Node.arguments_mapArgs]
      by_cases same : key written = name
      · rw [if_pos same, if_pos same]
        cases spelled : spell (Node.arguments args) with
        | none =>
          rw [blind.stays trades spelled]
          rfl
        | some t =>
          have whole := blind.arguments spelled
          obtain ⟨body, rfl, holds, again⟩ := blind.spells spelled
          rw [whole] at holds
          have held := holds (Node.sealedAll_of_sealed (Node.sealed_arguments isSealed))
          have read := Parser.parse_textAll_literals trades
            (Node.sealedAll_bracket held.isSealed)
          rw [again trades]
          exact congrArg Expansion.of read
      · rw [if_neg same, if_neg same]
        rfl
    | _ => rfl

end Inline
end CellGraph
