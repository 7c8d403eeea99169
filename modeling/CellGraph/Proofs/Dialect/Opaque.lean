import CellGraph.Proofs.Dialect.Unseen
import CellGraph.Proofs.Parsing.Closed

/-!
# Literals are opaque

Every step of the conversion is blind: it keeps the literals of a formula, and what it makes of a
formula with other literals is the same but for these (`Ignores`). At the top level nothing is read
again, so only what stands in brackets has to be sealed. Where a literal may hold anything, the
converted formula is a fixed text around copies of that literal, and the report does not depend on
it (`literals_opaque`).
-/

namespace CellGraph

open Token (Trades Sealed Fills literal)
open Node (flat flatAll mapAll mapAll_eq_map textAll walkAll)

/-! ## Steps -/

namespace Node

/-- A node whose tokens are sealed if it is a bracket. -/
def BracketSealed (n : Node) : Prop := n.isBracket → Sealed (flat n) []

/-- What a run makes of a sequence is the same with other literals but for these. All brackets in it
are sealed, and no literal is lost. -/
structure Ignores (run : List Node → Except NumberError Expansion) (ns : List Node)
    (e : Expansion) : Prop where
  same : ∀ {g}, Trades g → run (mapAll (.literals g) ns) = .ok (e.mapLiterals g)
  isSealed : ∀ n ∈ e.nodes, BracketSealed n
  literals : ∀ w, .string w ∈ flatAll ns → .string w ∈ flatAll e.nodes

theorem Ignores.congr {run run' : List Node → Except NumberError Expansion} {ns : List Node}
    {e : Expansion} (ignores : Ignores run ns e)
    (agree : ∀ g, run' (mapAll (.literals g) ns) = run (mapAll (.literals g) ns)) :
    Ignores run' ns e :=
  ⟨fun {g} trades => (agree g).trans (ignores.same trades), ignores.isSealed, ignores.literals⟩

theorem ignores_keep {ns : List Node} (isSealed : ∀ n ∈ ns, BracketSealed n) (names : List Text) :
    Ignores (fun ns => .ok ⟨ns, names⟩) ns ⟨ns, names⟩ :=
  ⟨fun _ => rfl, isSealed, fun _ => id⟩

theorem isBracket_mapLiterals {g : Text → Text} (n : Node) :
    (n.map (.literals g)).isBracket = n.isBracket := by
  cases n <;> rfl

theorem expand_of_plain {f : Node → Expansion} (blind : Blind f) {n : Node}
    (plain : n.isBracket = false) : expand f n = .keep n := by
  cases n with
  | group | call => cases plain
  | _ => exact blind.keeps _ plain

/-- A blind change of single nodes ignores literals. -/
theorem ignores_expandAll {f : Node → Expansion} (blind : Blind f) {ns : List Node}
    (isSealed : ∀ n ∈ ns, BracketSealed n) :
    Ignores (fun ns => .ok (expandAll f ns)) ns (expandAll f ns) := by
  induction ns with
  | nil => exact ⟨fun _ => rfl, by simp [expandAll], fun _ => id⟩
  | cons n ns ih =>
    obtain ⟨own, others⟩ := List.forall_mem_cons.1 isSealed
    obtain ⟨same, innerSealed, literals⟩ := ih others
    cases bracket : n.isBracket with
    | true =>
      have filled := fills_expand blind n
      refine ⟨fun {g} trades => ?_, ?_, fun w member => ?_⟩
      · have first := expand_mapLiterals blind trades n (own bracket)
        have rest := Except.ok.inj (same trades)
        simp only [mapAll, expandAll, first, rest, Expansion.mapLiterals,
          mapAll_append]
      · have first : SealedAll (expand f n).nodes := filled.isSealed [] (own bracket)
        exact List.forall_mem_append.2 ⟨fun m member _ => sealed_of_mem first member, innerSealed⟩
      · rw [expandAll, flatAll_append, List.mem_append]
        rcases List.mem_append.1 member with first | later
        · exact .inl (filled.literals (own bracket) w first)
        · exact .inr (literals w later)
    | false =>
      have kept := expand_of_plain blind bracket
      refine ⟨fun {g} trades => ?_, ?_, fun w member => ?_⟩
      · have plain : (n.map (.literals g)).isBracket = false := by rw [isBracket_mapLiterals, bracket]
        have rest := Except.ok.inj (same trades)
        simp only [mapAll, expandAll, kept, expand_of_plain blind plain, rest,
          Expansion.mapLiterals, mapAll_append]
        rfl
      · rw [expandAll, kept]
        exact List.forall_mem_append.2 ⟨by simpa [Expansion.keep] using own, innerSealed⟩
      · rw [expandAll, kept, flatAll_append, List.mem_append]
        rcases List.mem_append.1 member with first | later
        · exact .inl (by simpa [Expansion.keep, flatAll] using first)
        · exact .inr (literals w later)

end Node

open Node (Ignores BracketSealed)

theorem Sum.ignores_inline {ns : List Node} (isSealed : ∀ n ∈ ns, BracketSealed n) :
    Ignores (fun ns => .ok (inline ns)) ns (inline ns) := by
  -- the same sums are there with other literals, so they are converted in the same manner
  have none (g : Text → Text) : sums (mapAll (.literals g) ns) = [] ↔ sums ns = [] := by
    rw [sums_mapLiterals, List.map_eq_nil_iff]
  have adds (g : Text → Text) : (sums (mapAll (.literals g) ns)).all addsReferences =
      (sums ns).all addsReferences := by
    simp [sums_mapLiterals, Function.comp_def, addsReferences_mapLiterals]
  have columns (g : Text → Text) :
      ((sums (mapAll (.literals g) ns)).all fun args => (columnRefs? args).isSome) =
        (sums ns).all fun args => (columnRefs? args).isSome := by
    simp [sums_mapLiterals, Function.comp_def, columnRefs?_mapLiterals]
  unfold inline
  dsimp only
  split
  · next absent =>
    refine (Node.ignores_keep isSealed []).congr fun g => ?_
    rw [if_pos ((none g).2 absent)]
    rfl
  · next here =>
    split
    · next all =>
      refine (Node.ignores_expandAll blind_rename isSealed).congr fun g => ?_
      rw [if_neg ((none g).not.2 here), adds, if_pos all]
    · next notAll =>
      split
      · next all =>
        refine (Node.ignores_expandAll blind_spellOut isSealed).congr fun g => ?_
        rw [if_neg ((none g).not.2 here), adds, if_neg notAll, columns, if_pos all]
      · next mixed =>
        refine (Node.ignores_keep isSealed [name]).congr fun g => ?_
        rw [if_neg ((none g).not.2 here), adds, if_neg notAll, columns, if_neg mixed]

/-- Every step after the percentages ignores literals. -/
theorem Step.ignores_run {step : Step} (later : step ≠ .percentages) {ns : List Node} {e : Expansion}
    (isSealed : ∀ n ∈ ns, BracketSealed n) (ran : step.run ns = .ok e) : Ignores step.run ns e := by
  have inline : ∀ {name spell}, (∃ c ∈ name.head?, c.isUpper) → Inline.Speller.Blind spell →
      Ignores (fun ns => .ok (Inline.inline name spell ns)) ns (Inline.inline name spell ns) :=
    fun capital blind => Node.ignores_expandAll (Inline.blind_expandCall capital blind) isSealed
  cases step with
  | percentages => exact absurd rfl later
  | sums =>
    cases ran
    exact Sum.ignores_inline isSealed
  | sumproduct =>
    cases ran
    exact inline ⟨'S', rfl, rfl⟩ Inline.blind_sumproduct
  | average =>
    cases ran
    exact inline ⟨'A', rfl, rfl⟩ Inline.blind_average
  | ln =>
    cases ran
    exact inline ⟨'L', rfl, rfl⟩ Inline.blind_ln
  | pv =>
    cases ran
    exact inline ⟨'P', rfl, rfl⟩ Inline.blind_pv

theorem Percent.mem_of_folds {ns ms : List Node} (folds : Folds ns ms) :
    ∀ m ∈ ms, m.isBracket → m ∈ ns := by
  induction folds with
  | nil => simp
  | keep rest ih =>
    refine List.forall_mem_cons.2 ⟨fun _ => by simp, fun m member bracket => ?_⟩
    exact List.mem_cons_of_mem _ (ih m member bracket)
  | number found rest ih =>
    refine List.forall_mem_cons.2 ⟨by rintro ⟨⟩, fun m member bracket => ?_⟩
    exact List.mem_cons_of_mem _ (List.mem_append_right _ (ih m member bracket))

theorem Percent.string_mem_of_folds {ns ms : List Node} (folds : Folds ns ms) {w : Text}
    (member : .string w ∈ flatAll ns) : .string w ∈ flatAll ms := by
  induction folds with
  | nil => exact member
  | keep rest ih =>
    rw [flatAll, List.mem_append] at member ⊢
    exact member.imp_right ih
  | @number t value count signs ns ms found rest ih =>
    have inside : .string w ∈ flatAll ns := by
      rw [flatAll, Node.flatAll_append] at member
      rcases List.mem_append.1 member with number | behind
      · simp [flat] at number
      · refine (List.mem_append.1 behind).resolve_left fun inSigns => ?_
        obtain ⟨n, isSign, found⟩ := Node.mem_flatAll.1 inSigns
        rw [List.eq_of_mem_replicate isSign] at found
        simp [flat] at found
    exact List.mem_append_right _ (ih inside)

theorem Percent.isBracket_of_inside {n m : Node} (found : inside n = .ok m) :
    m.isBracket = n.isBracket ∧ (n.isBracket = false → m = n) := by
  cases n with
  | group body closed =>
    obtain ⟨_, _, -, -, rfl⟩ := inside_group_eq_ok.1 found
    exact ⟨rfl, by rintro ⟨⟩⟩
  | call name args closed =>
    obtain ⟨_, -, rfl⟩ := inside_call_eq_ok.1 found
    exact ⟨rfl, by rintro ⟨⟩⟩
  | _ =>
    cases found
    exact ⟨rfl, fun _ => rfl⟩

/-- Percentages are folded without regard to literals. -/
theorem Step.ignores_percentages {ns : List Node} {e : Expansion}
    (goOn : Percent.NumbersGoOn (flatAll ns)) (isSealed : ∀ n ∈ ns, BracketSealed n)
    (ran : Step.percentages.run ns = .ok e) : Ignores Step.percentages.run ns e := by
  obtain ⟨folded, found, rfl⟩ := run_percentages_eq_ok.1 ran
  obtain ⟨inner, innerFound, outerFound⟩ := Percent.foldAll_eq_ok.1 found
  obtain ⟨signs, rest, rfl, none_dropped, folds⟩ := Percent.folds_of_fold outerFound
  obtain rfl := none_dropped rfl
  have related := Percent.forall₂_of_insideAll innerFound
  have filled : ∀ {n m}, n ∈ ns → Percent.inside n = .ok m → Fills (flat n) (flat m) :=
    fun member found => Percent.fills_inside
      (fun t inside => goOn t (Node.mem_flatAll.2 ⟨_, member, inside⟩)) found
  refine ⟨fun {g} _ => ?_, fun m member bracket => ?_, fun w member => ?_⟩
  · exact run_percentages_eq_ok.2 ⟨_, Percent.foldAll_mapLiterals found, rfl⟩
  · obtain ⟨n, inNodes, made⟩ := exists_of_forall₂ related
      (Percent.mem_of_folds folds m member bracket)
    rw [(Percent.isBracket_of_inside made).1] at bracket
    exact (filled inNodes made).isSealed [] (isSealed n inNodes bracket)
  · refine Percent.string_mem_of_folds folds ?_
    obtain ⟨n, inNodes, found⟩ := Node.mem_flatAll.1 member
    obtain ⟨m, inInner, made⟩ := exists_of_forall₂
      (List.Forall₂.flip (R := fun m n => Percent.inside n = .ok m) related) inNodes
    refine Node.mem_flatAll.2 ⟨m, inInner, ?_⟩
    cases bracket : n.isBracket with
    | true => exact (filled inNodes made).literals (isSealed n inNodes bracket) w found
    | false => rwa [(Percent.isBracket_of_inside made).2 bracket]

theorem Node.Ignores.andThen {run run' : List Node → Except NumberError Expansion} {ns : List Node}
    {e e' : Expansion} (first : Ignores run ns e) (rest : Ignores run' e.nodes e') :
    Ignores (fun ns => do
      let a ← run ns
      let b ← run' a.nodes
      return ⟨b.nodes, a.unresolved ++ b.unresolved⟩) ns
        ⟨e'.nodes, e.unresolved ++ e'.unresolved⟩ where
  same trades := Except.bind_eq_ok.2 ⟨_, first.same trades,
    Except.bind_eq_ok.2 ⟨_, rest.same trades, rfl⟩⟩
  isSealed := rest.isSealed
  literals w member := rest.literals w (first.literals w member)

/-- Steps one after another ignore literals. -/
theorem Step.ignores_runAll {steps : List Step} (later : ∀ step ∈ steps, step ≠ .percentages)
    {ns : List Node} {e : Expansion} (isSealed : ∀ n ∈ ns, BracketSealed n)
    (ran : runAll steps ns = .ok e) : Ignores (runAll steps) ns e := by
  induction steps generalizing ns e with
  | nil =>
    cases ran
    exact Node.ignores_keep isSealed []
  | cons step steps ih =>
    obtain ⟨own, others⟩ := List.forall_mem_cons.1 later
    obtain ⟨first, rest, firstRan, restRan, rfl⟩ := runAll_cons_eq_ok.1 ran
    have now := ignores_run own isSealed firstRan
    exact now.andThen (ih others now.isSealed restRan)

namespace Dialect

/-- A conversion ignores literals. -/
theorem ignores_convertTree {ns : List Node} {e : Expansion}
    (goOn : Percent.NumbersGoOn (flatAll ns)) (isSealed : ∀ n ∈ ns, BracketSealed n)
    (converted : convertTree ns = .ok e) : Ignores convertTree ns e := by
  obtain ⟨folded, rest, found, ran, rfl⟩ := convertTree_eq_ok.1 converted
  have percentages := Step.run_percentages_eq_ok.2 ⟨folded, found, rfl⟩
  have now := Step.ignores_percentages goOn isSealed percentages
  have all := now.andThen
    (Step.ignores_runAll (fun _ => Step.ne_percentages_of_mem_later) now.isSealed ran)
  exact ⟨fun trades => Except.bind_eq_ok.2 ⟨_, all.same trades, rfl⟩, all.isSealed, all.literals⟩

/-! ## Formulas -/

/-- What stands in closed brackets is sealed, if no token is a single quote. -/
theorem bracketSealed_parse {formula : Text}
    (closed : ∀ n ∈ walkAll (Parser.parse formula), n.IsClosed)
    (noQuote : .other '\'' ∉ Token.tokens formula) :
    ∀ n ∈ Parser.parse formula, BracketSealed n := by
  intro n member bracket
  have ends : ∃ front, flat n = front ++ [.rparen] := by
    have isClosed := closed n (Node.mem_walkAll.2 ⟨n, member, by cases n <;> simp [Node.walk]⟩)
    cases n with
    | group body closed =>
      cases isClosed
      exact ⟨.lparen :: flatAll body, rfl⟩
    | call name args closed =>
      cases isClosed
      exact ⟨.func name :: .lparen :: Node.flatArgs args, rfl⟩
    | _ => cases bracket
  obtain ⟨front, ends⟩ := ends
  obtain ⟨before, behind, whole⟩ := List.append_of_mem member
  have read := Parser.flatAll_parse formula
  rw [whole, Node.flatAll_append, flatAll, ← List.append_assoc] at read
  have isLiteral : ∀ w, .string w ∈ flatAll before ++ flat n → Token.IsLiteral w := by
    intro w inside
    have inFront : .string w ∈ flatAll before ++ front := by
      rw [ends] at inside
      simpa using inside
    have again : Token.tokens formula = (flatAll before ++ front) ++ .rparen :: flatAll behind := by
      rw [← read, ends]
      simp
    exact Token.isLiteral_of_tokens again inFront
  have noQuote' : .other '\'' ∉ flatAll before ++ flat n := by
    rw [← read] at noQuote
    exact fun inside => noQuote (List.mem_append_left _ inside)
  have isSealed := Token.sealed_of_tokens read.symm noQuote' isLiteral
  exact (Token.sealed_append.1 isSealed).2.alone

/-! ## One literal in the place of another -/

/-- The text of one literal in the place of another. -/
def exchange (hole v w : Text) : Text := if w = hole then v else w

theorem trades_exchange {hole v : Text} (isHole : Token.IsLiteral hole)
    (isLiteral : Token.IsLiteral v) : Trades (exchange hole v) := by
  intro w
  unfold exchange
  split
  · next same => exact .inr ⟨same ▸ isHole, isLiteral⟩
  · exact .inl rfl

/-- The text of tokens with some literal in the place of another is a fixed text around copies of
that literal, and it has a copy wherever the other one stood. -/
theorem exists_texts_exchange (hole : Text) (ts : List Token) : ∃ (w : Text) (ws : List Text),
    (.string hole ∈ ts → ws ≠ []) ∧ ∀ v : Text,
      Token.texts (ts.map (Token.map (.literals (exchange hole v)))) = w ++ ws.flatMap (v ++ ·) := by
  induction ts with
  | nil => exact ⟨[], [], by simp, fun _ => rfl⟩
  | cons t ts ih =>
    obtain ⟨w, ws, some_copy, texts⟩ := ih
    by_cases isHole : t = .string hole
    · refine ⟨[], w :: ws, by simp, fun v => ?_⟩
      simp [isHole, texts, Token.map, exchange, Token.text]
    · refine ⟨t.text ++ w, ws, ?_, fun v => ?_⟩
      · rw [List.mem_cons]
        exact fun member => some_copy (member.resolve_left (Ne.symm isHole))
      · have own : t.map (.literals (exchange hole v)) = t := by
          cases t with
          | string u =>
            have other : u ≠ hole := fun same => isHole (congrArg Token.string same)
            simp [Token.map, exchange, other]
          | _ => rfl
        simp [own, texts]

/-- No token of a text is longer than the text. -/
theorem length_le_of_mem_tokens {formula : Text} {t : Token} (member : t ∈ Token.tokens formula) :
    t.text.length ≤ formula.length := by
  obtain ⟨before, behind, whole⟩ := List.append_of_mem member
  have lengths := congrArg List.length (Token.texts_tokens formula)
  simp only [whole, Token.texts_append, Token.texts_cons, List.length_append] at lengths
  omega

/-- A literal that is longer than a text is no token of the text. -/
theorem map_exchange_tokens {formula hole v : Text} (long : formula.length < hole.length) :
    (Token.tokens formula).map (Token.map (.literals (exchange hole v))) = Token.tokens formula := by
  rw [List.map_congr_left (g := id), List.map_id]
  intro t member
  cases t with
  | string u =>
    have other : u ≠ hole := by
      rintro rfl
      exact absurd (length_le_of_mem_tokens member) (Nat.not_le_of_lt long)
    simp [Token.map, exchange, other]
  | _ => rfl

/-- The contents of string literals have no influence on a conversion. Where, between two texts, a
literal with any content is read as one, all brackets are closed, no token is a single quote, and the
conversion succeeds, it gives the same texts around copies of the literal, of which there is one at
least, and the same report, whatever the content is. -/
theorem literals_opaque {p q : Text}
    (placed : ∀ x : Text, '"' ∉ x → ∃ before behind,
      Token.tokens (p ++ literal x ++ q) = before ++ .string (literal x) :: behind ∧
        Token.texts before = p)
    (closed : ∀ x : Text, '"' ∉ x →
      ∀ n ∈ walkAll (Parser.parse (p ++ literal x ++ q)), n.IsClosed)
    (noQuote : ∀ x : Text, '"' ∉ x → .other '\'' ∉ Token.tokens (p ++ literal x ++ q))
    (converts : ∀ x : Text, '"' ∉ x → ∃ c, convert (p ++ literal x ++ q) = .ok c) :
    ∃ (w : Text) (ws : List Text) (unresolved : List Text), ws ≠ [] ∧ ∀ x : Text, '"' ∉ x →
      convert (p ++ literal x ++ q) =
        .ok ⟨w ++ ws.flatMap fun v => literal x ++ v, unresolved⟩ := by
  -- a content that is too long to stand anywhere else
  obtain ⟨x₀, free₀, long⟩ : ∃ x₀ : Text, '"' ∉ x₀ ∧ p.length + q.length < (literal x₀).length := by
    refine ⟨List.replicate (p.length + q.length) 'x', fun member => ?_, ?_⟩
    · exact absurd (List.eq_of_mem_replicate member) (by decide)
    · simp only [literal, List.length_cons, List.length_append, List.length_replicate,
        List.length_nil]
      omega
  obtain ⟨before, behind, read, place⟩ := placed x₀ free₀
  have noQuote' : .other '\'' ∉ before := by
    have none := noQuote x₀ free₀
    rw [read] at none
    exact fun inside => none (List.mem_append_left _ inside)
  have around : ∀ x : Text, '"' ∉ x → Token.tokens (p ++ literal x ++ q) =
      Token.tokens p ++ .string (literal x) :: Token.tokens q :=
    fun x free => Token.tokens_around read place noQuote' free
  -- so each formula has the tree of this one with another literal
  have parsed : ∀ x : Text, '"' ∉ x → Parser.parse (p ++ literal x ++ q) =
      mapAll (.literals (exchange (literal x₀) (literal x)))
        (Parser.parse (p ++ literal x₀ ++ q)) := by
    intro x free
    rw [Parser.parse, Parser.parse, ← Parser.ofTokens_map, around x free, around x₀ free₀,
      List.map_append, List.map_cons, map_exchange_tokens (by omega), map_exchange_tokens (by omega)]
    simp [Token.map, exchange]
  obtain ⟨c, converted⟩ := converts x₀ free₀
  obtain ⟨e, converted, -⟩ := Except.bind_eq_ok.1 converted
  have goOn : Percent.NumbersGoOn (flatAll (Parser.parse (p ++ literal x₀ ++ q))) := by
    rw [Parser.flatAll_parse]
    exact Percent.numbersGoOn_tokens _
  have ignores := ignores_convertTree goOn
    (bracketSealed_parse (closed x₀ free₀) (noQuote x₀ free₀)) converted
  obtain ⟨w, ws, some_copy, texts⟩ := exists_texts_exchange (literal x₀) (flatAll e.nodes)
  refine ⟨w, ws, e.unresolved, some_copy (ignores.literals _ ?_), fun x free => ?_⟩
  · rw [Parser.flatAll_parse, around x₀ free₀]
    simp
  · have same := ignores.same
      (trades_exchange (Token.isLiteral_literal free₀) (Token.isLiteral_literal free))
    rw [convert, parsed x free]
    refine Except.bind_eq_ok.2 ⟨_, same, ?_⟩
    rw [← texts, ← Node.textAll_mapLiterals]
    rfl

example : convert "=SUM(A1)&\"LN(5%)\"" = .ok ⟨"=sum(A1)&\"LN(5%)\"", []⟩ := by decide +kernel

/-- A present value copies the literal in it, and a logarithm without argument is reported. -/
theorem literals_opaque_copies : ∃ (w : Text) (ws : List Text) (unresolved : List Text), ws ≠ [] ∧
    ∀ x : Text, '"' ∉ x → convert ("=LN()+PV(" ++ literal x ++ ",2,3)") =
      .ok ⟨w ++ ws.flatMap fun v => literal x ++ v, unresolved⟩ := by
  have front : Token.tokens "=LN()+PV(" = [.op ['='], .func "LN", .lparen, .rparen, .op ['+'],
      .func "PV", .lparen] := by
    decide +kernel
  have behind : Token.tokens ",2,3)" = [.comma, .number "2", .comma, .number "3", .rparen] := by
    decide +kernel
  have around : ∀ x : Text, '"' ∉ x → Token.tokens ("=LN()+PV(" ++ literal x ++ ",2,3)") =
      Token.tokens "=LN()+PV(" ++ .string (literal x) :: Token.tokens ",2,3)" := by
    intro x free
    have quoted : Text.Quoted (literal x ++ ",2,3)") := by
      rintro _ ⟨⟩
      rfl
    have own : Token.tokens (literal x ++ ",2,3)") = .string (literal x) :: Token.tokens ",2,3)" :=
      Token.tokens_of_seals (t := .string (literal x)) ⟨Token.isLiteral_literal free, by decide⟩ rfl
    rw [List.append_assoc, Token.tokens_append_of_plain (by decide) quoted, own]
  have parsed : ∀ x : Text, '"' ∉ x → Parser.parse ("=LN()+PV(" ++ literal x ++ ",2,3)") =
      [.leaf (.op ['=']), .call "LN" [[]] true, .leaf (.op ['+']),
        .call "PV" [[.leaf (.string (literal x))], [.leaf (.number "2")], [.leaf (.number "3")]]
          true] := by
    intro x free
    rw [Parser.parse, around x free, front, behind]
    rfl
  refine literals_opaque (p := "=LN()+PV(") (q := ",2,3)") ?_ ?_ ?_ ?_
  · intro x free
    exact ⟨Token.tokens "=LN()+PV(", Token.tokens ",2,3)", around x free, Token.texts_tokens _⟩
  · intro x free
    rw [parsed x free]
    simp [walkAll, Node.walk, Node.walkArgs, Node.IsClosed]
  · intro x free
    rw [around x free, front, behind]
    simp
  · intro x free
    have some_tree : ∃ e, convertTree (Parser.parse ("=LN()+PV(" ++ literal x ++ ",2,3)")) =
        .ok e := by
      rw [exists_convertTree_iff, parsed x free]
      simp [Node.sequences, walkAll, Node.walk, Node.walkArgs, Node.sequencesIn,
        Percent.overflows_cons, Percent.not_overflows_nil, Percent.isSign, Binary64.hundredLimit]
    obtain ⟨e, converted⟩ := some_tree
    exact ⟨_, Except.bind_eq_ok.2 ⟨e, converted, rfl⟩⟩

end Dialect
end CellGraph
