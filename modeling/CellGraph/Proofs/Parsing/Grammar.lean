import CellGraph.Proofs.Parsing.Closed

/-!
# The grammar of trees

Which trees the parser makes: those in which every node stands where it may and only the last
bracket of a sequence is open, inside of open ones (`Shaped`). Each of them is read back from its
tokens, and each sequence of tokens is read as one of them (`parser_grammar`). Every token then
stands in the brackets that are open in front of it (`nest_flatAll`).
-/

namespace CellGraph

open CellGraph.Parser (Frame)

/-! ## Trees with open brackets -/

namespace Node

mutual

/-- A node that may stand at a place. A bracket may be open only if `tail` holds: at the end of
a sequence around which all brackets are open. -/
def Shaped : Site → Bool → Node → Prop
  | s, _, .leaf t => s.admits t
  | _, _, .ref _ => True
  | _, _, .range _ _ => True
  | _, tail, .group body closed => (closed ∨ tail) ∧ ShapedAll .group (!closed) body
  | _, tail, .call _ args closed => (closed ∨ tail) ∧ args ≠ [] ∧ ShapedArgs (!closed) args

/-- Nodes that may stand at a place one after another; only the last one may be open. -/
def ShapedAll : Site → Bool → List Node → Prop
  | _, _, [] => True
  | s, tail, n :: ns => Shaped s (tail && ns.isEmpty) n ∧ joins n ns = false ∧ ShapedAll s tail ns

/-- Arguments that may stand in a call; only the last one may end in an open bracket. -/
def ShapedArgs : Bool → List (List Node) → Prop
  | _, [] => True
  | tail, arg :: args => ShapedAll .argument (tail && args.isEmpty) arg ∧ ShapedArgs tail args

end

mutual

/-- Without open brackets the shape is that of a closed tree. -/
theorem shaped_iff_formed : ∀ {n : Node} {s : Site}, Shaped s false n ↔ Formed s n
  | .leaf t, s => Iff.rfl
  | .ref r, s => Iff.rfl
  | .range a b, s => Iff.rfl
  | .group body true, s => by simp [Shaped, Formed, shapedAll_iff_formedAll]
  | .group body false, s => by simp [Shaped, Formed]
  | .call name args true, s => by simp [Shaped, Formed, shapedArgs_iff_formedArgs]
  | .call name args false, s => by simp [Shaped, Formed]

theorem shapedAll_iff_formedAll : ∀ {ns : List Node} {s : Site},
    ShapedAll s false ns ↔ FormedAll s ns
  | [], _ => Iff.rfl
  | _ :: _, _ => and_congr shaped_iff_formed (and_congr Iff.rfl shapedAll_iff_formedAll)

theorem shapedArgs_iff_formedArgs : ∀ {args : List (List Node)},
    ShapedArgs false args ↔ FormedArgs args
  | [] => Iff.rfl
  | _ :: _ => and_congr shapedAll_iff_formedAll shapedArgs_iff_formedArgs

end

/-- A closed node may stand wherever an open one may. -/
theorem shaped_of_formed {n : Node} {s : Site} (formed : Formed s n) (tail : Bool) :
    Shaped s tail n := by
  cases n with
  | group body closed =>
    obtain ⟨rfl, inside⟩ := formed
    exact ⟨.inl rfl, shapedAll_iff_formedAll.2 inside⟩
  | call name args closed =>
    obtain ⟨rfl, some_arg, inside⟩ := formed
    exact ⟨.inl rfl, some_arg, shapedArgs_iff_formedArgs.2 inside⟩
  | _ => exact formed

theorem shapedAll_of_formedAll {ns : List Node} {s : Site} (formed : FormedAll s ns)
    (tail : Bool) : ShapedAll s tail ns := by
  induction ns with
  | nil => trivial
  | cons n ns ih => exact ⟨shaped_of_formed formed.1 _, formed.2.1, ih formed.2.2⟩

theorem not_mem_of_shapedAll {s : Site} {tail : Bool} {ns : List Node}
    (shaped : ShapedAll s tail ns) (a : Ref) : .leaf (.ref a) ∉ ns := by
  induction ns with
  | nil => simp
  | cons n ns ih =>
    rw [List.mem_cons, not_or]
    refine ⟨?_, ih shaped.2.2⟩
    rintro rfl
    simpa [Shaped, Site.admits] using shaped.1

/-- What is no reference makes no range at the end of a sequence. -/
theorem joins_append (m : Node) (ns : List Node) {n : Node} (noRange : n.startsRange = false) :
    joins m (ns ++ [n]) = joins m ns := by
  rw [Bool.eq_iff_iff]
  constructor
  · intro joined
    obtain ⟨r, k, rest, rfl, range, same⟩ := joins_eq_true joined
    match ns with
    | [] => simp at same
    | [colon] =>
      obtain ⟨-, rfl, -⟩ : colon = .leaf .colon ∧ n = k ∧ rest = [] := by simp_all
      rw [noRange] at range
      cases range
    | colon :: l :: others =>
      obtain ⟨rfl, rfl⟩ : colon = .leaf .colon ∧ l = k := by simp_all
      exact joins_of_startsRange r range others
  · intro joined
    obtain ⟨r, k, rest, rfl, range, rfl⟩ := joins_eq_true joined
    exact joins_of_startsRange r range _

/-- A bracket, open or not, may follow a closed sequence. -/
theorem shapedAll_concat {s : Site} {ns : List Node} {n : Node} (formed : FormedAll s ns)
    (last : Shaped s true n) (noRange : n.startsRange = false) : ShapedAll s true (ns ++ [n]) := by
  induction ns with
  | nil => exact ⟨last, by cases n <;> rfl, trivial⟩
  | cons m ns ih =>
    obtain ⟨first, noJoin, rest⟩ := formed
    exact ⟨shaped_of_formed first _, (joins_append m ns noRange).trans noJoin, ih rest⟩

/-- An argument that ends in an open bracket may follow closed ones. -/
theorem shapedArgs_concat {args : List (List Node)} {arg : List Node}
    (formed : ∀ a ∈ args, FormedAll .argument a) (last : ShapedAll .argument true arg) :
    ShapedArgs true (args ++ [arg]) := by
  induction args with
  | nil => exact ⟨last, trivial⟩
  | cons a args ih =>
    rw [List.forall_mem_cons] at formed
    exact ⟨shapedAll_of_formedAll formed.1 _, ih formed.2⟩

end Node

namespace Parser

open Node (flat flatAll flatArgs Shaped ShapedAll ShapedArgs closingToken)

/-! ## What is read has its shape -/

/-- What is still open at the end of the tokens becomes open brackets inside of each other. -/
theorem shapedAll_finishAll {frames : List Frame} {now : List Node} (outer : FormedFrames frames)
    (shaped : ShapedAll (Site.of frames) true now.reverse) :
    ShapedAll .top true (finishAll frames now) := by
  induction frames generalizing now with
  | nil => exact shaped
  | cons frame frames ih =>
    refine ih outer.2 ?_
    cases frame with
    | group before =>
      rw [Frame.finish, List.reverse_cons]
      exact Node.shapedAll_concat outer.1 ⟨.inr rfl, shaped⟩ rfl
    | call before name args =>
      rw [Frame.finish, List.reverse_cons]
      refine Node.shapedAll_concat outer.1.1 ⟨.inr rfl, by simp, ?_⟩ rfl
      rw [List.reverse_cons]
      exact Node.shapedArgs_concat
        (fun arg member => outer.1.2 arg (List.mem_reverse.1 member)) shaped

theorem shapedAll_ofTokens {ts : List Token} (opens : Token.Opens ts) :
    ShapedAll .top true (ofTokens ts) := by
  have outside : FormedFrames [] := trivial
  have nothing : Node.FormedAll (Site.of []) [].reverse := trivial
  obtain ⟨frames, now, read, outer, formed⟩ :=
    exists_finishAll_of_run opens outside nothing (waits_nil ts)
  rw [ofTokens, read]
  exact shapedAll_finishAll outer (Node.shapedAll_of_formedAll formed true)

/-! ## What has a shape is read back -/

/-- A closed node at the end of the tokens is read back. -/
theorem run_formed {n : Node} {frames : List Frame} (now : List Node)
    (formed : Node.Formed (Site.of frames) n) :
    run (flat n) frames now = finishAll frames (n :: now) := by
  have read : run (flat n ++ []) frames now = run [] frames (n :: now) :=
    run_flat n now formed fun r _ => by simp [NoRange]
  simpa [run] using read

mutual

/-- A node at the end of the tokens is read back, with what is open in it. -/
theorem run_shaped : ∀ (n : Node) {frames : List Frame} (now : List Node),
    Shaped (Site.of frames) true n → run (flat n) frames now = finishAll frames (n :: now)
  | .group body false, frames, now, ⟨_, inside⟩ => by
    have read := run_shapedAll body (.group now :: frames) [] inside
    simpa [flat, closingToken, run, finishAll, Frame.finish] using read
  | .call name args false, frames, now, ⟨_, some_arg, inside⟩ => by
    have read : run (flatArgs args) (.call now name [] :: frames) [] =
        finishAll frames (.call name args false :: now) :=
      run_shapedArgs args now name [] inside some_arg
    simpa [flat, closingToken, run] using read
  | .group body true, frames, now, ⟨_, inside⟩ => by
    have formed : Node.Formed (Site.of frames) (.group body true) :=
      ⟨rfl, Node.shapedAll_iff_formedAll.1 inside⟩
    exact run_formed now formed
  | .call name args true, frames, now, ⟨_, some_arg, inside⟩ => by
    have formed : Node.Formed (Site.of frames) (.call name args true) :=
      ⟨rfl, some_arg, Node.shapedArgs_iff_formedArgs.1 inside⟩
    exact run_formed now formed
  | .leaf _, _, now, admitted => run_formed now admitted
  | .ref _, _, now, _ => run_formed now trivial
  | .range _ _, _, now, _ => run_formed now trivial

/-- A sequence at the end of the tokens is read back. -/
theorem run_shapedAll : ∀ (ns : List Node) (frames : List Frame) (now : List Node),
    ShapedAll (Site.of frames) true ns →
    run (flatAll ns) frames now = finishAll frames (ns.reverse ++ now)
  | [], frames, now, _ => by simp [flatAll, run]
  | [n], frames, now, ⟨shaped, _⟩ => by simpa [flatAll] using run_shaped n now shaped
  | n :: m :: ns, frames, now, ⟨first, apart, rest⟩ => by
    have formed := Node.shaped_iff_formed.1 first
    have behind : ∀ r, n = .ref r → NoRange (flatAll (m :: ns)) := by
      rintro r rfl
      have noRange : NoRange (flatAll (m :: ns) ++ []) :=
        noRange_flatAll (Node.not_mem_of_shapedAll rest) apart ⟨by simp, by simp⟩
      rwa [List.append_nil] at noRange
    rw [flatAll, run_flat n now formed behind, run_shapedAll (m :: ns) frames (n :: now) rest]
    simp

/-- The arguments of an open call at the end of the tokens are read back. -/
theorem run_shapedArgs : ∀ (args : List (List Node)) {frames : List Frame} (before : List Node)
    (name : Text) (done : List (List Node)), ShapedArgs true args → args ≠ [] →
    run (flatArgs args) (.call before name done :: frames) [] =
      finishAll frames (.call name (done.reverse ++ args) false :: before)
  | [], _, _, _, _, _, some_arg => absurd rfl some_arg
  | [arg], frames, before, name, done, ⟨shaped, _⟩, _ => by
    have read := run_shapedAll arg (.call before name done :: frames) [] shaped
    simpa [flatArgs, finishAll, Frame.finish] using read
  | arg :: next :: args, frames, before, name, done, ⟨first, rest⟩, _ => by
    have read := run_flatAll arg (.call before name done :: frames) []
      (.comma :: flatArgs (next :: args)) (Node.shapedAll_iff_formedAll.1 first) ⟨by simp, by simp⟩
    rw [flatArgs.eq_3 _ _ (by simp), read]
    simp only [run, List.append_nil, List.reverse_reverse]
    rw [run_shapedArgs (next :: args) before name (arg :: done) rest (by simp)]
    simp

end

theorem ofTokens_flatAll_of_shaped {ns : List Node} (shaped : ShapedAll .top true ns) :
    ofTokens (flatAll ns) = ns := by
  simpa [ofTokens, finishAll] using run_shapedAll ns [] [] shaped

end Parser

/-! ## Brackets around tokens -/

/-- What a bracket is opened by: a parenthesis alone, or a name in front of it. -/
inductive Bracket where
  | group
  | call
  deriving DecidableEq, Repr

/-- The place inside of brackets, the innermost first. -/
def Site.within : List Bracket → Site
  | [] => .top
  | .group :: _ => .group
  | .call :: _ => .argument

/-- Tokens, each with the brackets that are open in front of it, the innermost first. A name and
the parenthesis behind it open a call, any other opening parenthesis opens a group, and a closing
parenthesis closes the innermost bracket. -/
def Token.nest : List Bracket → List Token → List (Token × List Bracket)
  | _, [] => []
  | bs, .func f :: .lparen :: ts => (.func f, bs) :: (.lparen, bs) :: nest (.call :: bs) ts
  | bs, .lparen :: ts => (.lparen, bs) :: nest (.group :: bs) ts
  | b :: bs, .rparen :: ts => (.rparen, b :: bs) :: nest bs ts
  | bs, t :: ts => (t, bs) :: nest bs ts

namespace Node

open Token (nest)

mutual

/-- The tokens of a node, each with the brackets around it in the tree. The closing parenthesis and
the commas of a bracket stand in that bracket. -/
def nested (bs : List Bracket) : Node → List (Token × List Bracket)
  | .leaf t => [(t, bs)]
  | .ref r => [(.ref r, bs)]
  | .range a b => [(.ref a, bs), (.colon, bs), (.ref b, bs)]
  | .group body closed =>
    (.lparen, bs) :: nestedAll (.group :: bs) body ++
      (closingToken closed).map (·, .group :: bs)
  | .call name args closed =>
    (.func name, bs) :: (.lparen, bs) :: nestedArgs (.call :: bs) args ++
      (closingToken closed).map (·, .call :: bs)

def nestedAll (bs : List Bracket) : List Node → List (Token × List Bracket)
  | [] => []
  | n :: ns => nested bs n ++ nestedAll bs ns

def nestedArgs (bs : List Bracket) : List (List Node) → List (Token × List Bracket)
  | [] => []
  | [arg] => nestedAll bs arg
  | arg :: args => nestedAll bs arg ++ (.comma, bs) :: nestedArgs bs args

end

theorem nest_leaf {bs : List Bracket} {t : Token} (admitted : (Site.within bs).admits t)
    (ts : List Token) : nest bs (t :: ts) = (t, bs) :: nest bs ts := by
  cases t with
  | ref r => simp [Site.admits] at admitted
  | func name => simp [Site.admits] at admitted
  | lparen => simp [Site.admits] at admitted
  | rparen =>
    cases bs with
    | nil => simp [nest]
    | cons b bs => cases b <;> simp [Site.admits, Site.within] at admitted
  | _ => simp [nest]

/-- The closing parenthesis of a bracket closes it; without one nothing follows. -/
theorem nest_closing {closed : Bool} {b : Bracket} {bs : List Bracket} {ts : List Token}
    (ends : closed = false → ts = []) :
    nest (b :: bs) (closingToken closed ++ ts) =
      (closingToken closed).map (·, b :: bs) ++ nest bs ts := by
  cases closed with
  | true => simp [closingToken, nest]
  | false => simp [closingToken, ends rfl, nest]

mutual

/-- Every token stands in the tree in those brackets that are open in front of it. -/
theorem nest_flat : ∀ (n : Node) {bs : List Bracket} {tail : Bool} {ts : List Token},
    Shaped (Site.within bs) tail n → (tail → ts = []) →
    nest bs (flat n ++ ts) = nested bs n ++ nest bs ts
  | .leaf t, bs, tail, ts, shaped, _ => nest_leaf shaped ts
  | .ref r, bs, tail, ts, _, _ => by simp [flat, nested, nest]
  | .range a b, bs, tail, ts, _, _ => by simp [flat, nested, nest]
  | .group body closed, bs, tail, ts, ⟨opened, inside⟩, ends => by
    have last : closed = false → ts = [] := fun isOpen =>
      ends (opened.resolve_left (by simp [isOpen]))
    have body' : nest (.group :: bs) (flatAll body ++ (closingToken closed ++ ts)) =
        nestedAll (.group :: bs) body ++ nest (.group :: bs) (closingToken closed ++ ts) :=
      nest_flatAll body inside fun isOpen => by simp_all [closingToken]
    simp [flat, nested, nest, body', nest_closing last]
  | .call name args closed, bs, tail, ts, ⟨opened, _, inside⟩, ends => by
    have last : closed = false → ts = [] := fun isOpen =>
      ends (opened.resolve_left (by simp [isOpen]))
    have args' : nest (.call :: bs) (flatArgs args ++ (closingToken closed ++ ts)) =
        nestedArgs (.call :: bs) args ++ nest (.call :: bs) (closingToken closed ++ ts) :=
      nest_flatArgs args inside fun isOpen => by simp_all [closingToken]
    simp [flat, nested, nest, args', nest_closing last]

theorem nest_flatAll : ∀ (ns : List Node) {bs : List Bracket} {tail : Bool} {ts : List Token},
    ShapedAll (Site.within bs) tail ns → (tail → ts = []) →
    nest bs (flatAll ns ++ ts) = nestedAll bs ns ++ nest bs ts
  | [], _, _, _, _, _ => rfl
  | n :: ns, bs, tail, ts, ⟨first, _, rest⟩, ends => by
    have behind : (tail && ns.isEmpty) → flatAll ns ++ ts = [] := by
      intro isTail
      simp only [Bool.and_eq_true, List.isEmpty_iff] at isTail
      simp [isTail.2, ends isTail.1, flatAll]
    have first' := nest_flat n first behind
    rw [flatAll, List.append_assoc, first', nest_flatAll ns rest ends, nestedAll, List.append_assoc]

theorem nest_flatArgs : ∀ (args : List (List Node)) {bs : List Bracket} {tail : Bool}
    {ts : List Token}, ShapedArgs tail args → (tail → ts = []) →
    nest (.call :: bs) (flatArgs args ++ ts) =
      nestedArgs (.call :: bs) args ++ nest (.call :: bs) ts
  | [], _, _, _, _, _ => rfl
  | [arg], bs, tail, ts, ⟨shaped, _⟩, ends => by
    have isLast : (tail && List.isEmpty ([] : List (List Node))) → ts = [] := by simpa using ends
    exact nest_flatAll arg shaped isLast
  | arg :: next :: args, bs, tail, ts, ⟨first, rest⟩, ends => by
    have first' : nest (.call :: bs) (flatAll arg ++ .comma :: (flatArgs (next :: args) ++ ts)) =
        nestedAll (.call :: bs) arg ++
          nest (.call :: bs) (.comma :: (flatArgs (next :: args) ++ ts)) :=
      nest_flatAll arg first (by simp)
    have comma : ∀ us, nest (.call :: bs) (.comma :: us) =
        (.comma, .call :: bs) :: nest (.call :: bs) us := fun us => by simp [nest]
    rw [flatArgs.eq_3 _ _ (by simp), nestedArgs.eq_3 _ _ _ (by simp), List.append_assoc,
      List.cons_append, first', comma, nest_flatArgs (next :: args) rest ends, List.append_assoc,
      List.cons_append]

end

/-- A tree that the parser may make: it has its shape, and its references are read from their own
texts. -/
structure WellFormed (ns : List Node) : Prop where
  shaped : ShapedAll .top true ns
  read : ∀ r, .ref r ∈ flatAll ns → Ref.scan? r.text = some (r, [])

end Node

/-! ## The result -/

namespace Parser

open Node (flatAll)

/-- The parser accepts every sequence of tokens in which each name of a function has a parenthesis
behind it. It reads a well-formed tree that has these tokens, and each of them stands in the
brackets that are open in front of it; so a closing parenthesis closes the innermost bracket, and a
comma divides that bracket if it is a call and is a leaf otherwise. Every well-formed tree is read
back from its tokens. -/
theorem parser_grammar :
    (∀ ts, Token.Opens ts → (∀ r, .ref r ∈ ts → Ref.scan? r.text = some (r, [])) →
      Node.WellFormed (ofTokens ts) ∧ flatAll (ofTokens ts) = ts ∧
        Node.nestedAll [] (ofTokens ts) = Token.nest [] ts) ∧
    ∀ ns, Node.WellFormed ns → ofTokens (flatAll ns) = ns := by
  refine ⟨fun ts opens read => ?_, fun ns formed => ofTokens_flatAll_of_shaped formed.shaped⟩
  have shaped := shapedAll_ofTokens opens
  have tokens : flatAll (ofTokens ts) = ts := by
    rw [ofTokens, flatAll_run]
    rfl
  refine ⟨⟨shaped, by rwa [tokens]⟩, tokens, ?_⟩
  have placed : Token.nest [] (flatAll (ofTokens ts) ++ []) =
      Node.nestedAll [] (ofTokens ts) ++ Token.nest [] [] :=
    Node.nest_flatAll (ofTokens ts) shaped fun _ => rfl
  rw [List.append_nil, tokens] at placed
  simpa [Token.nest] using placed.symm

/-- A reference of a formula is read again from its own text. -/
theorem scan?_of_mem_tokens {formula : Text} {r : Ref} (member : .ref r ∈ Token.tokens formula) :
    Ref.scan? r.text = some (r, []) := by
  have read : Ref.scan? (r.text ++ []) = some (r, []) :=
    Ref.scan?_text (Token.formed_of_mem_tokens member) rfl
  rwa [List.append_nil] at read

/-- A call with three references between colons and a comma in a group, a parenthesis too many, and
two brackets that stay open. -/
def mixed : List Node :=
  [.call "F"
      [[.range ⟨none, "A1", "A1"⟩ ⟨none, "B2", "$B2"⟩, .leaf .colon, .ref ⟨none, "C3", "C3"⟩],
        [.group [.leaf .comma] true]] true,
    .leaf .rparen, .group [.leaf (.number "1"), .call "G" [[], [.leaf .colon]] false] false]

theorem parser_grammar_mixed :
    flatAll mixed = Token.tokens "F(A1:$B2:C3,(,)))(1G(,:" ∧ Node.WellFormed mixed ∧
      ofTokens (flatAll mixed) = mixed ∧
      Node.nestedAll [] mixed = Token.nest [] (Token.tokens "F(A1:$B2:C3,(,)))(1G(,:") := by
  have tokens : flatAll mixed = Token.tokens "F(A1:$B2:C3,(,)))(1G(,:" := by decide +kernel
  obtain ⟨formed, -, placed⟩ := parser_grammar.1 (Token.tokens "F(A1:$B2:C3,(,)))(1G(,:")
    (Token.opens_tokens _) fun r => scan?_of_mem_tokens
  have shaped : Node.WellFormed mixed := by
    refine ⟨?_, fun r member => ?_⟩
    · simp [mixed, Node.ShapedAll, Node.Shaped, Node.ShapedArgs, Site.admits, Node.joins]
    · rw [tokens] at member
      exact scan?_of_mem_tokens member
  have read := parser_grammar.2 mixed shaped
  rw [← tokens, read] at placed
  exact ⟨tokens, shaped, read, by rw [placed, tokens]⟩

end Parser
end CellGraph
