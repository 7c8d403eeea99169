import CellGraph.Proofs.Parsing.Lossless
import CellGraph.Proofs.Parsing.Tight

/-!
# Trees of closed formulas

If all brackets of a formula are closed, every node of its tree stands where the parser would put
it again (`formed_parse`). While a formula is read this holds of all that is complete; what is
still open at the end would become an open node.
-/

namespace CellGraph

namespace Node

/-- Whether a node is no open bracket. -/
def IsClosed : Node → Prop
  | .group _ closed | .call _ _ closed => closed
  | _ => True

instance : DecidablePred IsClosed
  | .group _ closed | .call _ _ closed => inferInstanceAs (Decidable (closed = true))
  | .leaf _ | .ref _ | .range _ _ => inferInstanceAs (Decidable True)

theorem formedArgs_iff {args : List (List Node)} :
    FormedArgs args ↔ ∀ arg ∈ args, FormedAll .argument arg := by
  induction args with
  | nil => simp [FormedArgs]
  | cons arg args ih => simp [FormedArgs, ih]

/-- A node behind a sequence makes no range, unless it starts with a reference behind another one
and a colon. -/
theorem formedAll_concat {s : Site} {ns : List Node} {n : Node} (formed : FormedAll s ns)
    (last : Formed s n)
    (apart : n.startsRange → ∀ before r, ns ≠ before ++ [.ref r, .leaf .colon]) :
    FormedAll s (ns ++ [n]) := by
  induction ns with
  | nil => exact ⟨last, by cases n <;> rfl, trivial⟩
  | cons m ns ih =>
    obtain ⟨first, noJoin, rest⟩ := formed
    refine ⟨first, ?_, ih rest fun range before r same => apart range (m :: before) r (by simp [same])⟩
    rw [Bool.eq_false_iff]
    intro joined
    obtain ⟨r, k, behind, rfl, range, same⟩ := joins_eq_true joined
    match ns with
    | [] => simp at same
    | [colon] =>
      obtain ⟨rfl, rfl⟩ : colon = .leaf .colon ∧ n = k := by simp_all
      exact apart range [] r rfl
    | colon :: l :: others =>
      obtain ⟨rfl, rfl⟩ : colon = .leaf .colon ∧ l = k := by simp_all
      rw [joins_of_startsRange r range] at noJoin
      cases noJoin

end Node

namespace Parser

open Node (Formed FormedAll FormedArgs walkAll walk flatAll)
open Token (Opens)

/-- What is complete in an open bracket is formed. -/
def Frame.Formed (outer : Site) : Frame → Prop
  | .group before => FormedAll outer before.reverse
  | .call before _ args =>
    FormedAll outer before.reverse ∧ ∀ arg ∈ args, FormedAll .argument arg

def FormedFrames : List Frame → Prop
  | [] => True
  | frame :: frames => frame.Formed (Site.of frames) ∧ FormedFrames frames

/-- The tokens that remain make no range with the nodes read last. -/
structure Waits (now : List Node) (ts : List Token) : Prop where
  noRange : ∀ r rest, now = .ref r :: rest → NoRange ts
  noEnd : ∀ r rest, now = .leaf .colon :: .ref r :: rest → ∀ b us, ts ≠ .ref b :: us

/-- Behind a node that is neither a reference nor a colon anything may stand. -/
theorem waits_cons {n : Node} (noRef : ∀ r, n ≠ .ref r) (noColon : n ≠ .leaf .colon)
    (now : List Node) (ts : List Token) : Waits (n :: now) ts where
  noRange := by
    rintro r rest ⟨⟩
    exact absurd rfl (noRef r)
  noEnd := by
    rintro r rest ⟨⟩
    exact absurd rfl noColon

theorem waits_nil (ts : List Token) : Waits [] ts := ⟨by simp, by simp⟩

theorem formedAll_cons {s : Site} {now : List Node} {n : Node} (formed : FormedAll s now.reverse)
    (last : Formed s n)
    (apart : n.startsRange → ∀ r rest, now ≠ .leaf .colon :: .ref r :: rest) :
    FormedAll s (n :: now).reverse := by
  rw [List.reverse_cons]
  refine Node.formedAll_concat formed last fun range before r same => ?_
  refine apart range r before.reverse ?_
  rw [← List.reverse_reverse now, same]
  simp

theorem formedAll_finish {frame : Frame} {frames : List Frame} {now : List Node}
    (formed : frame.Formed (Site.of frames))
    (inside : FormedAll (Site.of (frame :: frames)) now.reverse) :
    FormedAll (Site.of frames) (frame.finish true now).reverse := by
  cases frame with
  | group before => exact formedAll_cons formed ⟨rfl, inside⟩ (by rintro ⟨⟩)
  | call before name args =>
    refine formedAll_cons formed.1 ⟨rfl, by simp, Node.formedArgs_iff.2 ?_⟩ (by rintro ⟨⟩)
    intro arg member
    rcases List.mem_cons.1 (List.mem_reverse.1 member) with rfl | done
    · exact inside
    · exact formed.2 arg done

/-- What has been read stays in the tree. -/
theorem mem_walkAll_finishAll {frames : List Frame} {now : List Node} {n m : Node} (read : n ∈ now)
    (inside : m ∈ walk n) : m ∈ walkAll (finishAll frames now) := by
  induction frames generalizing n now with
  | nil => exact Node.mem_walkAll.2 ⟨n, List.mem_reverse.2 read, inside⟩
  | cons frame frames ih =>
    cases frame with
    | group before =>
      refine ih (n := .group now.reverse false) (by simp [Frame.finish]) ?_
      simp only [walk, List.mem_cons]
      exact .inr (Node.mem_walkAll.2 ⟨n, List.mem_reverse.2 read, inside⟩)
    | call before name args =>
      refine ih (n := .call name (now.reverse :: args).reverse false) (by simp [Frame.finish]) ?_
      simp only [walk, List.mem_cons]
      exact .inr (Node.mem_walkArgs.2 ⟨now.reverse, by simp, n, List.mem_reverse.2 read, inside⟩)

/-- A bracket that is open at the end is an open node of the tree. -/
theorem exists_open_of_frame (frame : Frame) (frames : List Frame) (now : List Node) :
    ∃ n ∈ walkAll (finishAll (frame :: frames) now), ¬ n.IsClosed := by
  have finished : ∀ n, n ∈ frame.finish false now → n ∈ walk n →
      n ∈ walkAll (finishAll (frame :: frames) now) := fun _ => mem_walkAll_finishAll
  cases frame with
  | group before =>
    exact ⟨.group now.reverse false, finished _ (by simp [Frame.finish]) (by simp [walk]),
      by simp [Node.IsClosed]⟩
  | call before name args =>
    exact ⟨.call name (now.reverse :: args).reverse false,
      finished _ (by simp [Frame.finish]) (by simp [walk]), by simp [Node.IsClosed]⟩

/-- One step of the parser keeps complete nodes formed, so the whole reading does: at the end of the
tokens all is formed that is complete in the brackets still open. -/
theorem exists_finishAll_of_run {ts : List Token} (opens : Opens ts) {frames : List Frame}
    {now : List Node} (outer : FormedFrames frames)
    (formed : FormedAll (Site.of frames) now.reverse) (waits : Waits now ts) :
    ∃ frames' now', run ts frames now = finishAll frames' now' ∧ FormedFrames frames' ∧
      FormedAll (Site.of frames') now'.reverse := by
  fun_induction run ts frames now with
  | case1 frames now => exact ⟨frames, now, rfl, outer, formed⟩
  | case2 a b ts frames now ih =>
    have noEnd : ∀ r rest, now ≠ .leaf .colon :: .ref r :: rest :=
      fun r rest same => waits.noEnd r rest same a _ rfl
    exact ih opens.tail.tail.tail outer (formedAll_cons formed trivial fun _ => noEnd)
      (waits_cons (by simp) (by simp) now ts)
  | case3 r ts frames now noRange ih =>
    have noEnd : ∀ r rest, now ≠ .leaf .colon :: .ref r :: rest :=
      fun q rest same => waits.noEnd q rest same r _ rfl
    refine ih opens.tail outer (formedAll_cons formed trivial fun _ => noEnd) ⟨?_, by simp⟩
    rintro _ _ ⟨⟩ b us same
    exact noRange b us same
  | case4 name ts frames now ih =>
    exact ih opens.tail.tail ⟨⟨formed, by simp⟩, outer⟩ trivial (waits_nil ts)
  | case5 ts frames now ih =>
    exact ih opens.tail ⟨formed, outer⟩ trivial (waits_nil ts)
  | case6 ts frame frames now ih =>
    -- a closing bracket completes the node that the innermost frame stands for
    refine ih opens.tail outer.2 (formedAll_finish outer.1 formed) ?_
    cases frame <;> exact waits_cons (by simp) (by simp) _ ts
  | case7 ts before name args frames now ih =>
    refine ih opens.tail ⟨⟨outer.1.1, ?_⟩, outer.2⟩ trivial (waits_nil ts)
    intro arg member
    rcases List.mem_cons.1 member with rfl | done
    · exact formed
    · exact outer.1.2 arg done
  | case8 t ts frames now noRange noRef noFunc noGroup noEnd noComma ih =>
    -- what is left stays a leaf, and the place admits it: each case above is one it does not
    have admitted : (Site.of frames).admits t := by
      cases t with
      | ref r => exact absurd rfl (noRef r)
      | func name =>
        obtain ⟨us, rfl⟩ := List.head?_eq_some_iff.1 (opens [] name ts rfl)
        exact absurd rfl (noFunc name us rfl)
      | lparen => exact absurd rfl noGroup
      | rparen =>
        cases frames with
        | nil => rfl
        | cons frame frames => exact absurd rfl (noEnd frame frames rfl)
      | comma =>
        cases frames with
        | nil => rfl
        | cons frame frames =>
          cases frame with
          | group before => rfl
          | call before name args => exact absurd rfl (noComma before name args frames rfl)
      | _ => cases Site.of frames <;> rfl
    refine ih opens.tail outer (formedAll_cons formed admitted (by rintro ⟨⟩)) ⟨by simp, ?_⟩
    rintro r rest ⟨⟩ b us rfl
    exact waits.noRange r rest rfl b us rfl

/-- If no node of the tree is an open bracket, nothing is open at the end of the tokens. -/
theorem formed_run {ts : List Token} (opens : Opens ts) {frames : List Frame} {now : List Node}
    (outer : FormedFrames frames) (formed : FormedAll (Site.of frames) now.reverse)
    (waits : Waits now ts) (closed : ∀ n ∈ walkAll (run ts frames now), n.IsClosed) :
    FormedAll .top (run ts frames now) := by
  obtain ⟨frames', now', read, -, formed'⟩ := exists_finishAll_of_run opens outer formed waits
  rw [read] at closed ⊢
  cases frames' with
  | nil => exact formed'
  | cons frame frames' =>
    obtain ⟨n, member, isOpen⟩ := exists_open_of_frame frame frames' now'
    exact absurd (closed n member) isOpen

/-- The tree of a formula whose brackets are all closed. -/
theorem formed_parse {formula : Text} (closed : ∀ n ∈ walkAll (parse formula), n.IsClosed) :
    FormedAll .top (parse formula) :=
  formed_run (Token.opens_tokens formula) trivial trivial (waits_nil _) closed

end Parser

/-! ## Tokens of a formula -/

namespace Token

/-- Every token of a formula is whole and ends where the rest starts, if it is no character that
stands for itself and no word that goes on. -/
theorem whole_apart_of_suffix {formula : Text} {t : Token} {us : List Token}
    (suffix : t :: us <:+ tokens formula) (known : isOther t = false)
    (ends : isWord t → Separated (texts us)) : Whole t ∧ Apart t (texts us) := by
  fun_induction tokens formula with
  | case1 => simp at suffix
  | case2 c u ih =>
    rcases List.suffix_cons_iff.1 suffix with same | later
    · obtain ⟨rfl, rfl⟩ := List.cons.inj same
      rw [texts_tokens] at ends ⊢
      exact whole_apart_next c u known fun word => ⟨(ends word).continues, (ends word).head_ne.1⟩
    · exact ih later

theorem isOperand_of_isWord {t : Token} (word : isWord t) : t.isOperand := by
  cases t with
  | number | name => rfl
  | _ => cases word

end Token

namespace Node

open Token (Whole Apart Separated texts tokens isOther)

/-- No operand stands directly behind another in a sequence. -/
abbrev Single (ns : List Node) : Prop := ns.IsChain fun m n => ¬ (m.isTerm ∧ n.isTerm)

variable {formula : Text}

/-- Tokens in front of which every sequence at a place may end. -/
structure Behind (s : Site) (ts : List Token) : Prop where
  separated : Separated (texts ts)
  some_char : s ≠ .top → texts ts ≠ []

theorem behind_rparen (s : Site) (ts : List Token) : Behind s (.rparen :: ts) where
  separated := by
    rintro c ⟨⟩
    exact .inr (.inl rfl)
  some_char := by simp [Token.text]

theorem behind_comma (s : Site) (ts : List Token) : Behind s (.comma :: ts) where
  separated := by
    rintro c ⟨⟩
    exact .inr (.inr (.inl rfl))
  some_char := by simp [Token.text]

theorem start_of_tokens {s : Site} {n : Node} (tight : Tight s n) (ts : List Token) :
    ∃ c u, texts (flat n ++ ts) = c :: u ∧ Starts n c := by
  obtain ⟨c, u, first, starts⟩ := start_of_tight tight
  rw [texts_flat, text_settle, ← texts_flat] at first
  exact ⟨c, u ++ texts ts, by simp [first], starts⟩

/-- A tight sequence that does not start with an operand starts with a separator. -/
theorem separated_of_tight {s : Site} {ns : List Node} {ts : List Token} (tight : TightAll s ns)
    (behind : Behind s ts) (start : ∀ n ∈ ns.head?, n.isTerm = false) :
    Separated (texts (flatAll ns ++ ts)) := by
  cases ns with
  | nil => exact behind.separated
  | cons n ns =>
    obtain ⟨c, u, first, starts⟩ := start_of_tokens tight.1 (flatAll ns ++ ts)
    rw [flatAll, List.append_assoc, first]
    rintro d ⟨⟩
    exact starts.separator (start n rfl)

/-- A leaf of a formula is a whole token, and ends where it is read to end. -/
theorem leaf_of_tokens {t : Token} {ts : List Token} (known : isOther t = false)
    (suffix : t :: ts <:+ tokens formula)
    (ends : t.isOperand → Separated (texts ts)) : Whole t ∧ Apart t (texts ts) :=
  Token.whole_apart_of_suffix suffix known fun word => ends (Token.isOperand_of_isWord word)

theorem ended_of_apart {t : Token} {rest : Text} (apart : Apart t rest) (some_char : rest ≠ []) :
    t.Ended := by
  cases t with
  | string t =>
    rcases apart with nothing | closed
    · exact absurd nothing some_char
    · exact closed.1
  | _ => trivial

/-- Nodes that are read one behind the other are parted, if not both are operands. -/
theorem parted_of_tokens {s : Site} {m n : Node} (ts : List Token) (tight : Tight s n)
    (terms : ¬ (m.isTerm ∧ n.isTerm)) (apart : ∀ t, m = .leaf t → Apart t (texts (flat n ++ ts))) :
    Parted m n := by
  obtain ⟨c, u, start, -⟩ := start_of_tokens tight ts
  refine ⟨terms, ?_, ?_, ?_⟩
  · rintro ⟨space, again⟩
    cases m with
    | leaf t =>
      cases n with
      | leaf t' =>
        cases t' with
        | space w =>
          cases t with
          | space v =>
            obtain ⟨d, w, rfl, blank⟩ := Token.start_of_space tight.1
            have noBlank := apart _ rfl d (by simp [flat, Token.text])
            rw [blank] at noBlank
            cases noBlank
          | _ => cases space
        | _ => cases again
      | _ => cases again
    | _ => cases space
  · rintro t rfl
    exact ended_of_apart (apart t rfl) (by simp [start])
  · rintro t v rfl rfl
    obtain ⟨d, v, rfl, -⟩ := Token.start_of_operator tight.1
    rintro e ⟨⟩
    exact apart _ rfl d (by simp [flat, Token.text])

mutual

theorem tight_of_tokens : ∀ {n : Node} {s : Site} {ts : List Token}, Formed s n →
    (∀ t ∈ flat n, isOther t = false) → flat n ++ ts <:+ tokens formula →
      (n.isTerm → Separated (texts ts)) → (s ≠ .top → texts ts ≠ []) →
      (∀ m ∈ walk n, ∀ q ∈ m.sequencesIn, Single q) → Tight s n
  | .leaf t, s, ts, formed, known, suffix, ends, some_char, _ => by
    obtain ⟨whole, apart⟩ := leaf_of_tokens (known t (by simp [flat])) suffix ends
    refine ⟨by rwa [Token.settle_of_whole whole], formed, fun inside => ?_⟩
    exact ended_of_apart apart (some_char inside)
  | .ref r, s, ts, _, _, suffix, _, _, _ =>
    Token.whole_of_mem_tokens (t := .ref r) (suffix.mem (by simp [flat])) rfl (by simp)
  | .range a b, s, ts, _, _, suffix, _, _, _ =>
    ⟨Token.whole_of_mem_tokens (t := .ref a) (suffix.mem (by simp [flat])) rfl (by simp),
      Token.whole_of_mem_tokens (t := .ref b) (suffix.mem (by simp [flat])) rfl (by simp)⟩
  | .group body closed, s, ts, ⟨isClosed, formed⟩, known, suffix, _, _, single => by
    subst isClosed
    simp only [walk, List.forall_mem_cons] at single
    have inBody : ∀ t ∈ flatAll body, isOther t = false := fun t member =>
      known t (by simp [flat, member])
    refine ⟨rfl, tightAll_of_tokens formed inBody ?_ (behind_rparen .group ts) ?_ single.2⟩
    · exact .trans ⟨[.lparen], by simp [flat, closingToken]⟩ suffix
    · exact single.1 body (by simp [sequencesIn])
  | .call name args closed, s, ts, ⟨isClosed, some_arg, formed⟩, known, suffix, _, _, single => by
    subst isClosed
    simp only [walk, List.forall_mem_cons] at single
    have inArgs : ∀ t ∈ flatArgs args, isOther t = false := fun t member =>
      known t (by simp [flat, member])
    have named : Token.func name ∈ tokens formula := suffix.mem (by simp [flat])
    have inside : flatArgs args ++ .rparen :: ts <:+ tokens formula :=
      .trans ⟨[.func name, .lparen], by simp [flat, closingToken]⟩ suffix
    exact ⟨rfl, Token.whole_of_mem_tokens named rfl (by simp), some_arg,
      tightArgs_of_tokens formed inArgs inside single.1 single.2⟩

theorem tightAll_of_tokens : ∀ {ns : List Node} {s : Site} {ts : List Token}, FormedAll s ns →
    (∀ t ∈ flatAll ns, isOther t = false) → flatAll ns ++ ts <:+ tokens formula →
      Behind s ts → Single ns →
      (∀ m ∈ walkAll ns, ∀ q ∈ m.sequencesIn, Single q) → TightAll s ns
  | [], _, _, _, _, _, _, _, _ => trivial
  | n :: ns, s, ts, ⟨formed, apart, others⟩, known, suffix, behind, single, inside => by
    simp only [walkAll, List.forall_mem_append] at inside
    simp only [flatAll, List.forall_mem_append] at known
    rw [flatAll, List.append_assoc] at suffix
    rw [Single, List.isChain_cons] at single
    -- the rest first: how it starts decides where the first node ends
    have rest : TightAll s ns := tightAll_of_tokens others known.2
      (.trans (List.suffix_append _ _) suffix) behind single.2 inside.2
    have ends : n.isTerm → Separated (texts (flatAll ns ++ ts)) := fun term =>
      separated_of_tight rest behind fun m first => by
        simpa using fun again => single.1 m first ⟨term, again⟩
    have some_char : s ≠ .top → texts (flatAll ns ++ ts) ≠ [] := fun deep => by
      simp [behind.some_char deep]
    refine ⟨tight_of_tokens formed known.1 suffix ends some_char inside.1, apart,
      fun m first => ?_, rest⟩
    obtain ⟨ms, rfl⟩ := List.head?_eq_some_iff.1 first
    refine parted_of_tokens (flatAll ms ++ ts) rest.1 (single.1 m rfl) ?_
    rintro t rfl
    simpa [flatAll] using (leaf_of_tokens (known.1 t (by simp [flat])) suffix ends).2

theorem tightArgs_of_tokens : ∀ {args : List (List Node)} {ts : List Token}, FormedArgs args →
    (∀ t ∈ flatArgs args, isOther t = false) → flatArgs args ++ .rparen :: ts <:+ tokens formula →
      (∀ arg ∈ args, Single arg) →
      (∀ m ∈ walkArgs args, ∀ q ∈ m.sequencesIn, Single q) → TightArgs args
  | [], _, _, _, _, _, _ => trivial
  | [arg], ts, ⟨formed, _⟩, known, suffix, single, inside => by
    rw [walkArgs, walkArgs, List.append_nil] at inside
    exact ⟨tightAll_of_tokens formed known suffix (behind_rparen _ ts) (single arg (by simp)) inside,
      trivial⟩
  | arg :: next :: args, ts, ⟨formed, others⟩, known, suffix, single, inside => by
    rw [walkArgs, List.forall_mem_append] at inside
    rw [List.forall_mem_cons] at single
    simp only [flatArgs.eq_3 _ _ (List.cons_ne_nil next args), List.forall_mem_append,
      List.forall_mem_cons] at known
    rw [flatArgs.eq_3 _ _ (by simp), List.append_assoc, List.cons_append] at suffix
    have later : flatArgs (next :: args) ++ .rparen :: ts <:+ tokens formula :=
      .trans ⟨flatAll arg ++ [.comma], by simp⟩ suffix
    exact ⟨tightAll_of_tokens formed known.1 suffix (behind_comma _ _) single.1 inside.1,
      tightArgs_of_tokens others known.2.2 later single.2 inside.2⟩

end

end Node

/-- The tree of a formula is tight if all brackets are closed, no character stands for itself, and
no operand stands directly behind another. -/
theorem Parser.tight_parse {formula : Text}
    (closed : ∀ n ∈ Node.walkAll (parse formula), n.IsClosed)
    (known : ∀ t ∈ Token.tokens formula, Token.isOther t = false)
    (single : ∀ s ∈ Node.sequences (parse formula), Node.Single s) :
    Node.TightAll .top (parse formula) := by
  rw [Node.forall_sequences] at single
  have whole : Node.flatAll (parse formula) ++ [] <:+ Token.tokens formula := by
    simp [flatAll_parse]
  have nothing : Node.Behind .top [] := ⟨by simp [Token.Separated], by simp⟩
  exact Node.tightAll_of_tokens (formed_parse closed) (by rwa [flatAll_parse]) whole nothing
    single.1 single.2

end CellGraph
