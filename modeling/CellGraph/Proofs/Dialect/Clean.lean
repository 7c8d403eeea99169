import CellGraph.Proofs.Dialect.Percent
import CellGraph.Proofs.Numeral.Notation
import CellGraph.Proofs.Parsing.Lossless

/-!
# Trees without dollar signs

A placeholder starts with a dollar sign, so placeholders can be told from the rest of a formula if
the rest has no dollar sign. A tree is clean if none of its tokens has one. The tree of a text
without dollar signs is clean (`clean_parse`), and every step of the conversion keeps trees clean
(`clean_convertTree`): the texts that it spells out are made of clean tokens and signs of
arithmetic.
-/

namespace CellGraph

/-! ## Numbers -/

theorem Text.not_mem_ofNat (n : Nat) : '$' ∉ ofNat n := by
  intro member
  exact absurd (isDigit_of_mem_ofNat member) (by decide)

/-! ## Tokens -/

/-- A token without dollar sign; a reference has the shape of one. -/
def Token.Clean : Token → Prop
  | .ref r => r.Formed ∧ '$' ∉ r.text
  | t => '$' ∉ t.text

namespace Token

@[simp] theorem clean_lparen : Clean .lparen := by simp [Clean, text]

@[simp] theorem clean_rparen : Clean .rparen := by simp [Clean, text]

@[simp] theorem clean_comma : Clean .comma := by simp [Clean, text]

@[simp] theorem clean_colon : Clean .colon := by simp [Clean, text]

@[simp] theorem clean_func {name : Text} : Clean (.func name) ↔ '$' ∉ name := Iff.rfl

@[simp] theorem clean_number {written : Text} : Clean (.number written) ↔ '$' ∉ written := Iff.rfl

theorem Clean.text {t : Token} (clean : t.Clean) : '$' ∉ t.text := by
  cases t with
  | ref r => exact clean.2
  | _ => exact clean

theorem text_subset_of_mem {t : Token} {ts : List Token} (member : t ∈ ts) :
    t.text ⊆ texts ts := by
  intro c inText
  exact List.mem_flatMap.2 ⟨t, member, inText⟩

theorem clean_of_mem_tokens {formula : Text} (free : '$' ∉ formula) {t : Token}
    (member : t ∈ tokens formula) : t.Clean := by
  have inside := text_subset_of_mem member
  rw [texts_tokens] at inside
  have freeText : '$' ∉ t.text := fun dollar => free (inside dollar)
  cases t with
  | ref r => exact ⟨formed_of_mem_tokens member, freeText⟩
  | _ => exact freeText

end Token

/-! ## Trees -/

namespace Node

/-- A node all of whose tokens are clean. -/
def Clean (n : Node) : Prop := ∀ t ∈ flat n, t.Clean

/-- Nodes all of whose tokens are clean. -/
def CleanAll (ns : List Node) : Prop := ∀ n ∈ ns, n.Clean

theorem cleanAll_iff {ns : List Node} : CleanAll ns ↔ ∀ t ∈ flatAll ns, t.Clean := by
  simp only [CleanAll, Clean, mem_flatAll]
  exact ⟨fun clean t ⟨n, inside, member⟩ => clean n inside t member,
    fun clean n inside t member => clean t ⟨n, inside, member⟩⟩

@[simp] theorem cleanAll_nil : CleanAll [] := by simp [CleanAll]

@[simp] theorem cleanAll_cons {n : Node} {ns : List Node} :
    CleanAll (n :: ns) ↔ n.Clean ∧ CleanAll ns := by
  simp [CleanAll]

@[simp] theorem cleanAll_append {ms ns : List Node} :
    CleanAll (ms ++ ns) ↔ CleanAll ms ∧ CleanAll ns := by
  simp [CleanAll, or_imp, forall_and]

@[simp] theorem clean_leaf {t : Token} : Clean (.leaf t) ↔ t.Clean := by simp [Clean, flat]

@[simp] theorem clean_ref {r : Ref} : Clean (.ref r) ↔ Token.Clean (.ref r) := by
  simp [Clean, flat]

@[simp] theorem clean_range {a b : Ref} :
    Clean (.range a b) ↔ Token.Clean (.ref a) ∧ Token.Clean (.ref b) := by
  simp [Clean, flat]

theorem clean_closingToken (closed : Bool) : ∀ t ∈ closingToken closed, t.Clean := by
  cases closed <;> simp [closingToken]

@[simp] theorem clean_group {body : List Node} {closed : Bool} :
    Clean (.group body closed) ↔ CleanAll body := by
  simp only [Clean, flat, cleanAll_iff, List.mem_append, List.mem_cons, or_imp, forall_and,
    forall_eq, List.cons_append]
  exact ⟨fun clean => clean.2.1,
    fun inside => ⟨Token.clean_lparen, inside, clean_closingToken closed⟩⟩

theorem clean_flatArgs {args : List (List Node)} :
    (∀ t ∈ flatArgs args, t.Clean) ↔ ∀ arg ∈ args, CleanAll arg := by
  induction args with
  | nil => simp [flatArgs]
  | cons arg args ih =>
    cases args with
    | nil => simp [flatArgs, cleanAll_iff]
    | cons next args =>
      rw [flatArgs.eq_3 _ _ (List.cons_ne_nil next args), List.forall_mem_append,
        List.forall_mem_cons, List.forall_mem_cons, ih, ← cleanAll_iff]
      simp

@[simp] theorem clean_call {name : Text} {args : List (List Node)} {closed : Bool} :
    Clean (.call name args closed) ↔ '$' ∉ name ∧ ∀ arg ∈ args, CleanAll arg := by
  rw [← clean_flatArgs]
  simp only [Clean, flat, List.mem_append, List.mem_cons, or_imp, forall_and, forall_eq,
    List.cons_append]
  exact ⟨fun clean => ⟨clean.1, clean.2.2.1⟩,
    fun inside => ⟨inside.1, Token.clean_lparen, inside.2, clean_closingToken closed⟩⟩

theorem CleanAll.textAll {ns : List Node} (clean : CleanAll ns) : '$' ∉ textAll ns := by
  rw [← texts_flatAll]
  intro dollar
  obtain ⟨t, member, inText⟩ := List.mem_flatMap.1 dollar
  exact (cleanAll_iff.1 clean t member).text inText

theorem CleanAll.solid {ns : List Node} (clean : CleanAll ns) {n : Node}
    (alone : sole? ns = some n) : n.Clean :=
  clean n (mem_of_sole? alone)

end Node

open Node (Clean CleanAll textAll)

/-- The tree of a text without dollar signs is clean. -/
theorem Parser.clean_parse {formula : Text} (free : '$' ∉ formula) : CleanAll (parse formula) := by
  rw [Node.cleanAll_iff, flatAll_parse]
  exact fun t member => Token.clean_of_mem_tokens free member

/-! ## Areas -/

theorem Ref.not_mem_make {address : Text} (plain : '$' ∉ address) {sheet : Option Text}
    (free : ∀ name ∈ sheet, '$' ∉ name) : '$' ∉ (make address sheet).text := by
  match sheet with
  | none => exact plain
  | some [] => exact plain
  | some (c :: name) =>
    have shape := SheetName.isWritten_written (List.cons_ne_nil c name)
    have named : '$' ∉ SheetName.written (c :: name) := fun dollar =>
      free _ rfl ((shape.mem_iff (by decide)).1 dollar)
    simp [make, named, plain]

/-- The references that a clean range covers are clean. -/
theorem Area.clean_of_mem_refs {a b r : Ref} (range : Clean (.range a b))
    (member : r ∈ refs a b) : Clean (.ref r) := by
  obtain ⟨first, last⟩ := Node.clean_range.1 range
  rw [Node.clean_ref]
  refine ⟨formed_of_mem_refs first.1 last.1 member, ?_⟩
  obtain ⟨address, listed, rfl⟩ := List.mem_map.1 member
  have shape := isAddress_of_mem_cells listed
  have plain : '$' ∉ address := fun dollar => by
    rcases shape.mem_address dollar with capital | digit
    · exact absurd capital (by decide)
    · exact absurd digit (by decide)
  refine Ref.not_mem_make plain ?_
  intro name named
  rcases Option.or_eq_some_iff.1 named with named | ⟨-, named⟩
  · exact first.1.not_mem_sheet first.2 name named
  · exact last.1.not_mem_sheet last.2 name named

/-! ## Steps -/

namespace Node

mutual

/-- A change that keeps single nodes clean keeps trees clean. -/
theorem clean_expand {f : Node → Expansion} (kept : ∀ n, Clean n → CleanAll (f n).nodes) :
    ∀ n : Node, Clean n → CleanAll (expand f n).nodes
  | .leaf _, clean | .ref _, clean | .range _ _, clean => kept _ clean
  | .group body closed, clean => by
    have inner := clean_expandAll kept body (clean_group.1 clean)
    exact kept _ (clean_group.2 inner)
  | .call name args closed, clean => by
    obtain ⟨named, inside⟩ := clean_call.1 clean
    have inner := clean_expandArgs kept args inside
    exact kept _ (clean_call.2 ⟨named, inner⟩)

theorem clean_expandAll {f : Node → Expansion} (kept : ∀ n, Clean n → CleanAll (f n).nodes) :
    ∀ ns : List Node, CleanAll ns → CleanAll (expandAll f ns).nodes
  | [], _ => cleanAll_nil
  | n :: ns, clean => by
    obtain ⟨first, rest⟩ := cleanAll_cons.1 clean
    exact cleanAll_append.2 ⟨clean_expand kept n first, clean_expandAll kept ns rest⟩

theorem clean_expandArgs {f : Node → Expansion} (kept : ∀ n, Clean n → CleanAll (f n).nodes) :
    ∀ args : List (List Node), (∀ arg ∈ args, CleanAll arg) →
      ∀ arg ∈ (expandArgs f args).1, CleanAll arg
  | [], _ => by simp [expandArgs]
  | arg :: args, clean => by
    have first := clean_expandAll kept arg (clean arg (by simp))
    have rest := clean_expandArgs kept args fun a member => clean a (by simp [member])
    simpa [expandArgs] using ⟨first, rest⟩

end

end Node

namespace Inline

/-- A way to spell out calls that adds no dollar sign to clean arguments. -/
def Speller.Clean (spell : Speller) : Prop :=
  ∀ {args t}, (∀ arg ∈ args, CleanAll arg) → spell args = some t → '$' ∉ t

theorem clean_sumproduct : Speller.Clean sumproduct := by
  intro args t clean spelled
  obtain ⟨first, second, a, b, c, d, rfl, firstSole, secondSole, -, -, rfl⟩ :=
    sumproduct_eq_some spelled
  have left := (clean first (by simp)).solid firstSole
  have right := (clean second (by simp)).solid secondSole
  have products : ∀ p ∈ (Area.refs a b).zip (Area.refs c d),
      '$' ∉ '+' :: p.1.text ++ '*' :: p.2.text := by
    intro p paired
    have cleanLeft := Area.clean_of_mem_refs left (List.of_mem_zip paired).1
    have cleanRight := Area.clean_of_mem_refs right (List.of_mem_zip paired).2
    simp [(Node.clean_ref.1 cleanLeft).2, (Node.clean_ref.1 cleanRight).2]
  simpa using products

theorem clean_terms? {arg : List Node} (clean : CleanAll arg) {terms : List Text}
    (found : terms? arg = some terms) : ∀ t ∈ terms, '$' ∉ t := by
  unfold terms? at found
  split at found
  · next a b sole =>
    split at found
    · simp at found
    · cases found
      intro t member
      obtain ⟨r, inRefs, rfl⟩ := List.mem_map.1 member
      exact (Node.clean_ref.1 (Area.clean_of_mem_refs (clean.solid sole) inRefs)).2
  · cases found
    simpa using clean.textAll

theorem clean_intercalate {terms : List Text} (free : ∀ t ∈ terms, '$' ∉ t) :
    '$' ∉ List.intercalate ['+'] terms := by
  induction terms with
  | nil => simp
  | cons t terms ih =>
    cases terms with
    | nil => simpa using free t (by simp)
    | cons u terms =>
      have first := free t (by simp)
      have rest := ih fun v member => free v (by simp [member])
      simp [List.intercalate_cons_cons, first, rest]

theorem clean_average : Speller.Clean average := by
  intro args t clean spelled
  simp only [average, Option.bind_eq_bind, Option.bind_eq_some_iff] at spelled
  obtain ⟨terms, found, spelled⟩ := spelled
  have free : ∀ u ∈ terms.flatten, '$' ∉ u := by
    intro u member
    obtain ⟨group, inTerms, inGroup⟩ := List.mem_flatten.1 member
    obtain ⟨arg, inArgs, argTerms⟩ := exists_of_forall₂ (Option.forall₂_of_mapM found) inTerms
    exact clean_terms? (clean arg inArgs) argTerms u inGroup
  split at spelled
  · simp at spelled
  · cases spelled
    simp [clean_intercalate free, Text.not_mem_ofNat]

theorem clean_ln : Speller.Clean ln := by
  intro args t clean spelled
  unfold ln at spelled
  split at spelled
  · next arg =>
    cases spelled
    simp [(clean arg (by simp)).textAll]
  · simp at spelled

theorem clean_pv : Speller.Clean pv := by
  intro args t clean spelled
  obtain ⟨rate, nper, pmt, given, rfl⟩ := pv_eq_some spelled
  have inside : ∀ arg ∈ [rate, nper, pmt], arg ∈ args := by
    rcases given with rfl | ⟨future, due, rfl, -, -⟩ <;> simp
  have cleanRate := (clean rate (inside rate (by simp))).textAll
  have cleanNper := (clean nper (inside nper (by simp))).textAll
  have cleanPmt := (clean pmt (inside pmt (by simp))).textAll
  simp [cleanRate, cleanNper, cleanPmt]

/-- A call that is spelled out without a dollar sign is replaced by clean nodes. -/
theorem clean_expandCall {name : Text} {spell : Speller} (spells : spell.Clean) {n : Node}
    (clean : n.Clean) : CleanAll (expandCall name spell n).nodes := by
  have kept : CleanAll [n] := by simpa using clean
  unfold expandCall
  split
  · next written args closed =>
    split
    · split
      · next t spelled =>
        refine Parser.clean_parse (spells ?_ spelled)
        exact fun arg member => (Node.clean_call.1 clean).2 arg (Node.mem_of_mem_arguments member)
      · exact kept
    · exact kept
  · exact kept

theorem clean_inline {name : Text} {spell : Speller} (spells : spell.Clean) {ns : List Node}
    (clean : CleanAll ns) : CleanAll (inline name spell ns).nodes :=
  Node.clean_expandAll (fun _ => clean_expandCall spells) ns clean

end Inline

namespace Sum

theorem clean_rename {n : Node} (clean : n.Clean) : CleanAll (rename n).nodes := by
  have kept : CleanAll [n] := by simpa using clean
  unfold rename
  split
  · next written args closed =>
    split
    · have inside := (Node.clean_call.1 clean).2
      simpa [Expansion.of] using inside
    · exact kept
  · exact kept

theorem clean_spell {refs : List Ref} (clean : ∀ r ∈ refs, Clean (.ref r)) : '$' ∉ spell refs := by
  have free : ∀ t ∈ refs.map (·.text), '$' ∉ t := by
    intro t member
    obtain ⟨r, inRefs, rfl⟩ := List.mem_map.1 member
    exact (Node.clean_ref.1 (clean r inRefs)).2
  simp [spell, Inline.clean_intercalate free]

theorem clean_columnRefs? {args : List (List Node)} (clean : ∀ arg ∈ args, CleanAll arg)
    {refs : List Ref} (found : columnRefs? args = some refs) : ∀ r ∈ refs, Clean (.ref r) := by
  obtain ⟨arg, a, b, rfl, sole, rfl, -⟩ := columnRefs?_eq_some found
  intro r member
  exact Area.clean_of_mem_refs ((clean arg (by simp)).solid sole) member

theorem clean_spellOut {n : Node} (clean : n.Clean) : CleanAll (spellOut n).nodes := by
  unfold spellOut
  split
  · next refs found =>
    obtain ⟨summands, isSum, inColumn⟩ := Option.bind_eq_some_iff.1 found
    obtain ⟨written, args, closed, rfl, -, rfl⟩ := summands?_eq_some isSum
    refine Parser.clean_parse (clean_spell (clean_columnRefs? ?_ inColumn))
    intro arg member
    exact (Node.clean_call.1 clean).2 arg (Node.mem_of_mem_arguments member)
  · simpa [Expansion.keep] using clean

theorem clean_inline {ns : List Node} (clean : CleanAll ns) : CleanAll (inline ns).nodes := by
  unfold inline
  dsimp only
  split
  · exact clean
  · split
    · exact Node.clean_expandAll (fun _ => clean_rename) ns clean
    · split
      · exact Node.clean_expandAll (fun _ => clean_spellOut) ns clean
      · exact clean

end Sum

namespace Percent

theorem clean_quotient {number : Text} {signs : Nat} {written : Text}
    (found : quotient number signs = .ok written) : '$' ∉ written := by
  unfold quotient at found
  split at found
  · simp at found
  · cases found
    exact Binary64.not_mem_plainText (by decide) (by decide) _

theorem clean_fold {behind : Bool} {ns folded : List Node} (clean : CleanAll ns)
    (found : fold behind ns = .ok folded) : CleanAll folded := by
  fun_induction fold behind ns generalizing folded with
  | case1 =>
    cases found
    exact clean
  | case2 behind n ns isBehind ih => exact ih (Node.cleanAll_cons.1 clean).2 found
  | case3 behind ns t signs _ _ ih =>
    obtain ⟨value, divided, found⟩ := Except.bind_eq_ok.1 found
    obtain ⟨rest, restFound, found⟩ := Except.bind_eq_ok.1 found
    cases found
    simp [clean_quotient divided, ih (Node.cleanAll_cons.1 clean).2 restFound]
  | case4 behind n ns _ _ ih =>
    obtain ⟨rest, restFound, found⟩ := Except.bind_eq_ok.1 found
    cases found
    obtain ⟨first, later⟩ := Node.cleanAll_cons.1 clean
    exact Node.cleanAll_cons.2 ⟨first, ih later restFound⟩

mutual

theorem clean_inside : ∀ {n folded : Node}, Node.Clean n → inside n = .ok folded → folded.Clean
  | .leaf _, _, clean, found | .ref _, _, clean, found | .range _ _, _, clean, found => by
    cases found
    exact clean
  | .group body closed, folded, clean, found => by
    obtain ⟨inner, outer, innerFound, outerFound, rfl⟩ := inside_group_eq_ok.1 found
    have cleanInner := clean_insideAll (Node.clean_group.1 clean) innerFound
    exact Node.clean_group.2 (clean_fold cleanInner outerFound)
  | .call name args closed, folded, clean, found => by
    obtain ⟨inner, innerFound, rfl⟩ := inside_call_eq_ok.1 found
    obtain ⟨named, cleanArgs⟩ := Node.clean_call.1 clean
    exact Node.clean_call.2 ⟨named, clean_insideArgs cleanArgs innerFound⟩

theorem clean_insideAll : ∀ {ns folded : List Node}, CleanAll ns → insideAll ns = .ok folded →
    CleanAll folded
  | [], _, _, found => by
    cases found
    exact Node.cleanAll_nil
  | n :: ns, folded, clean, found => by
    obtain ⟨first, rest, firstFound, restFound, rfl⟩ := insideAll_cons_eq_ok.1 found
    obtain ⟨cleanFirst, cleanRest⟩ := Node.cleanAll_cons.1 clean
    exact Node.cleanAll_cons.2
      ⟨clean_inside cleanFirst firstFound, clean_insideAll cleanRest restFound⟩

theorem clean_insideArgs : ∀ {args folded : List (List Node)}, (∀ arg ∈ args, CleanAll arg) →
    insideArgs args = .ok folded → ∀ arg ∈ folded, CleanAll arg
  | [], _, _, found => by
    cases found
    simp
  | arg :: args, folded, clean, found => by
    obtain ⟨inner, first, rest, innerFound, firstFound, restFound, rfl⟩ :=
      insideArgs_cons_eq_ok.1 found
    have cleanInner := clean_insideAll (clean arg (by simp)) innerFound
    have cleanRest := clean_insideArgs (fun a member => clean a (by simp [member])) restFound
    simpa using ⟨clean_fold cleanInner firstFound, cleanRest⟩

end

theorem clean_foldAll {ns folded : List Node} (clean : CleanAll ns)
    (found : foldAll ns = .ok folded) : CleanAll folded := by
  obtain ⟨inner, innerFound, found⟩ := foldAll_eq_ok.1 found
  exact clean_fold (clean_insideAll clean innerFound) found

end Percent

/-! ## The conversion -/

/-- Every step of the conversion keeps trees clean. -/
theorem Step.clean_run {step : Step} {ns : List Node} {result : Expansion} (clean : CleanAll ns)
    (ran : step.run ns = .ok result) : CleanAll result.nodes := by
  cases step with
  | percentages =>
    obtain ⟨folded, found, rfl⟩ := run_percentages_eq_ok.1 ran
    exact Percent.clean_foldAll clean found
  | sumproduct =>
    cases ran
    exact Inline.clean_inline Inline.clean_sumproduct clean
  | average =>
    cases ran
    exact Inline.clean_inline Inline.clean_average clean
  | sums =>
    cases ran
    exact Sum.clean_inline clean
  | ln =>
    cases ran
    exact Inline.clean_inline Inline.clean_ln clean
  | pv =>
    cases ran
    exact Inline.clean_inline Inline.clean_pv clean

/-- What every one of some steps keeps, they keep one after another. -/
theorem Step.runAll_keeps {P : List Node → Prop} {steps : List Step}
    (keeps : ∀ step ∈ steps, ∀ {ns result}, P ns → step.run ns = .ok result → P result.nodes)
    {ns : List Node} {result : Expansion} (holds : P ns) (ran : runAll steps ns = .ok result) :
    P result.nodes := by
  induction steps generalizing ns result with
  | nil =>
    cases ran
    exact holds
  | cons step steps ih =>
    obtain ⟨first, rest, firstRan, restRan, rfl⟩ := runAll_cons_eq_ok.1 ran
    rw [List.forall_mem_cons] at keeps
    have kept := ih keeps.2 (keeps.1 holds firstRan) restRan
    exact kept

/-- The conversion keeps trees clean. -/
theorem Dialect.clean_convertTree {ns : List Node} {result : Expansion} (clean : CleanAll ns)
    (converted : convertTree ns = .ok result) : CleanAll result.nodes := by
  obtain ⟨ran, steps, converted⟩ := Except.bind_eq_ok.1 converted
  cases converted
  have kept := Step.runAll_keeps (fun _ _ => Step.clean_run) clean steps
  exact kept

end CellGraph
