import CellGraph.Proofs.Grid.Markers
import CellGraph.Proofs.Parsing.Subtrees

/-!
# Links

A formula is dropped as a link by its first letters alone. So not only calls of `HYPERLINK` are
dropped, but also a formula that starts with a call of a function with a longer name, with a plain
name or with a sheet name that goes on from these letters, and one in which a dotless `ı` stands for
the `I`. `ofCell_link` says that these and the calls are all that is dropped.
-/

namespace CellGraph

/-! ## Letters -/

theorem List.all_zip_iff {α β : Type} {p : α → β → Bool} {xs : List α} {ys : List β} :
    (xs.length ≤ ys.length ∧ (xs.zip ys).all fun q => p q.1 q.2) ↔
      ∃ zs rest, ys = zs ++ rest ∧ List.Forall₂ (fun x z => p x z) xs zs := by
  induction xs generalizing ys with
  | nil => simp
  | cons x xs ih =>
    cases ys with
    | nil => simp
    | cons y ys =>
      simp only [List.length_cons, Nat.add_le_add_iff_right, List.zip_cons_cons, List.all_cons,
        Bool.and_eq_true, and_left_comm, ih, List.forall₂_cons_left_iff]
      constructor
      · rintro ⟨first, zs, rest, rfl, all⟩
        exact ⟨y :: zs, rest, rfl, y, zs, first, all, rfl⟩
      · rintro ⟨_, rest, same, z, zs, first, all, rfl⟩
        cases same
        exact ⟨first, zs, rest, rfl, all⟩

namespace CellFormula

open Inline (key)

/-- The name of the function for links. -/
def linkName : Text := ['H', 'Y', 'P', 'E', 'R', 'L', 'I', 'N', 'K']

/-- A link has its name in front. -/
theorem isLink_iff {t : Text} : isLink t ↔
    ∃ w rest, t = w ++ rest ∧ List.Forall₂ (fun l c => capitalises l c) linkName w := by
  have unfolded : isLink t = (decide (linkName.length ≤ t.length) &&
      (linkName.zip t).all fun q => capitalises q.1 q.2) := rfl
  rw [unfolded, Bool.and_eq_true, decide_eq_true_eq]
  exact List.all_zip_iff

theorem isLink_append {t : Text} (link : isLink t) (rest : Text) : isLink (t ++ rest) := by
  obtain ⟨w, behind, rfl, letters⟩ := isLink_iff.1 link
  exact isLink_iff.2 ⟨w, behind ++ rest, List.append_assoc .., letters⟩

/-- Only for an `I` another letter may stand. -/
theorem key_of_capitalises {letters w : Text} (noI : 'I' ∉ letters)
    (all : List.Forall₂ (fun l c => capitalises l c) letters w) : key w = letters := by
  induction all with
  | nil => rfl
  | @cons l c letters w first _ ih =>
    rw [List.mem_cons, not_or] at noI
    have same : c.toUpper = l := by simpa [capitalises, Ne.symm noI.1] using first
    rw [key, List.map_cons, same]
    exact congrArg (l :: ·) (ih noI.2)

theorem capitalises_of_key {letters w : Text} (same : key w = letters) :
    List.Forall₂ (fun l c => capitalises l c) letters w := by
  subst same
  induction w with
  | nil => exact .nil
  | cons c w ih => exact .cons (by simp [capitalises]) ih

theorem isLink_of_key {name : Text} (same : key name = linkName) : isLink name :=
  isLink_iff.2 ⟨name, [], (List.append_nil name).symm, capitalises_of_key same⟩

/-- A link starts with its name in any letter case, perhaps with a dotless `ı`. -/
theorem isLink_cases {t : Text} (link : isLink t) :
    (∃ w rest, t = w ++ rest ∧ key w = linkName) ∨
      ∃ w rest, t = w ++ 'ı' :: rest ∧ key w = "HYPERL" ∧ ("NK" : Text) <+: key rest := by
  obtain ⟨w, rest, rfl, letters⟩ := isLink_iff.1 link
  simp only [linkName, List.forall₂_cons_left_iff, List.forall₂_nil_left_iff] at letters
  obtain ⟨a, _, a', ⟨b, _, b', ⟨c, _, c', ⟨d, _, d', ⟨e, _, e', ⟨f, _, f', ⟨i, _, i', ⟨n, _, n',
    ⟨k, _, k', rfl, rfl⟩, rfl⟩, rfl⟩, rfl⟩, rfl⟩, rfl⟩, rfl⟩, rfl⟩, rfl⟩ := letters
  have front : key [a, b, c, d, e, f] = ['H', 'Y', 'P', 'E', 'R', 'L'] :=
    key_of_capitalises (by decide)
      (.cons a' (.cons b' (.cons c' (.cons d' (.cons e' (.cons f' .nil))))))
  have back : key [n, k] = ['N', 'K'] :=
    key_of_capitalises (by decide) (.cons n' (.cons k' .nil))
  have middle : i.toUpper = 'I' ∨ i = 'ı' := by simpa [capitalises] using i'
  rcases middle with capital | rfl
  · refine .inl ⟨[a, b, c, d, e, f] ++ i :: [n, k], rest, rfl, ?_⟩
    have whole : key ([a, b, c, d, e, f] ++ i :: [n, k]) =
        key [a, b, c, d, e, f] ++ i.toUpper :: key [n, k] := rfl
    rw [whole, front, capital, back]
    rfl
  · refine .inr ⟨[a, b, c, d, e, f], n :: k :: rest, rfl, front, key rest, ?_⟩
    exact congrArg (· ++ key rest) back.symm

/-- The letters of a name in any letter case are ASCII letters. -/
theorem isAlpha_of_key {w letters : Text} (same : key w = letters)
    (capitals : ∀ l ∈ letters, l.isUpper) : ∀ c ∈ w, c.isAlpha := by
  subst same
  intro c member
  exact Text.isAlpha_of_toUpper (capitals _ (List.mem_map_of_mem member))

end CellFormula

/-! ## The first token -/

/-- An address has a dollar sign or a digit among its first four characters. -/
theorem Ref.IsAddress.exists_not_alpha {written address : Text} (shape : IsAddress written address) :
    ∃ d ∈ written.take 4, d.isAlpha = false := by
  cases shape with
  | @intro mark column mark' row first letters second digits =>
    rcases first with rfl | rfl
    · obtain ⟨d, row, rfl⟩ := List.exists_cons_of_ne_nil digits.some_digit
      have digit : d.isAlpha = false := by
        have bounds := Text.isDigit_iff.1 (digits.digits d (by simp))
        rw [← Bool.not_eq_true, Text.isAlpha_iff, Text.isUpper_iff, Text.isLower_iff]
        omega
      have short := letters.short
      obtain ⟨n, room⟩ : ∃ n, 4 - column.length = n + 1 := ⟨3 - column.length, by omega⟩
      rcases second with rfl | rfl
      · exact ⟨d, by simp [List.take_append, room], digit⟩
      · exact ⟨'$', by simp [List.take_append, room], by decide⟩
    · exact ⟨'$', by simp, by decide⟩

namespace Token

variable {c : Char} {t w rest : Text}

/-- A reference that starts with four letters starts with all letters that stand there. -/
theorem prefix_of_formed {r : Ref} (formed : r.Formed) {behind : Text}
    (same : r.text ++ behind = w ++ rest) (letters : ∀ d ∈ w, d.isAlpha) (long : 4 ≤ w.length) :
    w <+: r.text := by
  have inside : ∀ d ∈ (w ++ rest).take 4, d.isAlpha := by
    rw [List.take_append_of_le_length long]
    exact fun d member => letters d (List.mem_of_mem_take member)
  cases formed with
  | here shape =>
    obtain ⟨d, member, noLetter⟩ := shape.exists_not_alpha
    have letter := inside d (by rw [← same, List.take_append]; exact List.mem_append_left _ member)
    rw [noLetter] at letter
    cases letter
  | @there name nameText written address sheet shape =>
    rw [List.append_assoc] at same
    rcases List.append_eq_append_iff.1 same with ⟨more, longer, behind⟩ | ⟨more, shorter, -⟩
    · cases more with
      | nil => exact ⟨'!' :: written, by rw [longer, List.append_nil]⟩
      | cons d more =>
        obtain rfl : '!' = d := (List.cons.inj behind).1
        exact absurd (letters '!' (by simp [longer])) (by decide)
    · exact ⟨more ++ '!' :: written, by rw [shorter, List.append_assoc]⟩

/-- The first token of a text that starts with four letters is a word or a reference, and takes all
letters that stand there. -/
theorem next_of_letters (whole : c :: t = w ++ rest) (letters : ∀ d ∈ w, d.isAlpha)
    (long : 4 ≤ w.length) :
    (∃ r, (next c t).1 = .ref r ∧ w <+: r.text) ∨
      ∃ v, ((next c t).1 = .func v ∨ (next c t).1 = .name v) ∧ w <+: v := by
  have letter : c.isAlpha := by
    obtain ⟨d, w, rfl⟩ := List.exists_cons_of_ne_nil (List.ne_nil_of_length_pos (l := w) (by omega))
    obtain rfl : c = d := (List.cons.inj whole).1
    exact letters c (by simp)
  have start : isNameStart c := by simp [isNameStart, letter]
  obtain ⟨noLiteral, -, noPoint, noDigit, bare⟩ := nameStart_start start
  cases scanned : Ref.scan? (c :: t) with
  | some read =>
    obtain ⟨r, behind⟩ := read
    have found : next c t = (.ref r, behind) := by simp [next, noLiteral, scanned]
    have same : r.text ++ behind = w ++ rest := (Ref.eq_of_scan? scanned).1.symm.trans whole
    rw [found]
    exact .inl ⟨r, rfl, prefix_of_formed (Ref.formed_of_scan? scanned).1 same letters long⟩
  | none =>
    have plain : next c t = nextPlain c t := by
      simp [next, noLiteral, scanned, Literal.scan_eq_none t noDigit noPoint]
    have word : w <+: c :: t.takeWhile SheetName.isBareChar := by
      have bareLetters : ∀ d ∈ w, SheetName.isBareChar d := fun d member => by
        simp [SheetName.isBareChar, Text.isWordChar_iff.2 (.inl (letters d member))]
      have taken : c :: t.takeWhile SheetName.isBareChar =
          (c :: t).takeWhile SheetName.isBareChar := by
        rw [List.takeWhile_cons, if_pos bare]
      rw [taken, whole, List.takeWhile_append_of_pos bareLetters]
      exact List.prefix_append _ _
    refine .inr ⟨_, ?_, word⟩
    rw [plain, nextPlain]
    split
    · exact .inl rfl
    · rw [start]
      exact .inr rfl

end Token

/-! ## The first node -/

namespace Parser

open Node (flat)

/-- The first node of a formula starts with the first token; it is that token by itself only if the
token may stand so. -/
theorem head_parse {formula : Text} {t : Token} {ts : List Token}
    (first : Token.tokens formula = t :: ts) :
    ∃ n ns, parse formula = n :: ns ∧ (flat n).head? = some t ∧
      ∀ u, n = .leaf u → Site.top.admits u := by
  have shaped := shapedAll_ofTokens (Token.opens_tokens formula)
  have tokens := flatAll_parse formula
  rw [first] at tokens
  cases found : parse formula with
  | nil => simp [found, Node.flatAll] at tokens
  | cons n ns =>
    rw [found, Node.flatAll] at tokens
    rw [parse] at found
    rw [found] at shaped
    refine ⟨n, ns, rfl, ?_, ?_⟩
    · cases n <;> simp_all [flat]
    · rintro u rfl
      exact shaped.1

end Parser

namespace Node

variable {n : Node} (placed : ∀ u, n = .leaf u → Site.top.admits u)
include placed

theorem eq_call_of_head {name : Text} (first : (flat n).head? = some (.func name)) :
    ∃ args closed, n = .call name args closed := by
  cases n with
  | leaf u =>
    obtain rfl : u = .func name := by simpa [flat] using first
    cases placed _ rfl
  | call other args closed =>
    obtain rfl : other = name := by simpa [flat] using first
    exact ⟨args, closed, rfl⟩
  | _ => simp [flat] at first

theorem eq_ref_of_head {r : Ref} (first : (flat n).head? = some (.ref r)) :
    n = .ref r ∨ ∃ b, n = .range r b := by
  cases n with
  | leaf u =>
    obtain rfl : u = .ref r := by simpa [flat] using first
    cases placed _ rfl
  | ref s => exact .inl (by simpa [flat] using first)
  | range a b =>
    obtain rfl : a = r := by simpa [flat] using first
    exact .inr ⟨b, rfl⟩
  | _ => simp [flat] at first

omit placed in
theorem eq_leaf_of_head {w : Text} (first : (flat n).head? = some (.name w)) :
    n = .leaf (.name w) := by
  cases n with
  | leaf u => exact congrArg _ (by simpa [flat] using first)
  | _ => simp [flat] at first

end Node

/-- Whether a node is a call of the function for links. -/
def Node.IsLink : Node → Prop
  | .call name _ _ => Inline.key name = CellFormula.linkName
  | _ => False

/-- Whether a node starts with the name of that function though it is no call of it: a call of
a function with a longer name, a plain name, or a reference or range with a sheet name. -/
def Node.Misleads : Node → Prop
  | .call name _ _ => CellFormula.isLink name ∧ Inline.key name ≠ CellFormula.linkName
  | .leaf (.name w) => CellFormula.isLink w
  | .ref r | .range r _ => CellFormula.isLink r.text
  | _ => False

theorem Node.Misleads.not_isLink {n : Node} (misleads : n.Misleads) : ¬ n.IsLink := by
  cases n with
  | call name args closed => exact misleads.2
  | _ => exact id

namespace CellFormula

open Inline (key)

variable {formula : Text}

/-- Whether a formula whose first node is no link is taken for one: its first node starts with the
name of the function, or is a name behind which a dotless `ı` goes on with it. -/
def Misread (formula : Text) : Prop :=
  (∃ n ∈ (Parser.parse formula).head?, n.Misleads) ∨
    ∃ w rest, (Parser.parse formula).head? = some (.leaf (.name w)) ∧ formula = w ++ 'ı' :: rest ∧
      key w = "HYPERL" ∧ ("NK" : Text) <+: key rest

theorem isLink_of_starts {t u : Text} (starts : t <+: u) (link : isLink t) : isLink u := by
  obtain ⟨rest, rfl⟩ := starts
  exact isLink_append link rest

/-- If the letters of the function stand in front, the first node is a link or misleads. -/
theorem head_of_key {w rest : Text} (whole : formula = w ++ rest) (same : key w = linkName) :
    ∃ n ∈ (Parser.parse formula).head?, n.IsLink ∨ n.Misleads := by
  have letters := isAlpha_of_key same (List.all_eq_true.1 rfl)
  have long : w.length = 9 := by rw [← List.length_map (f := Char.toUpper), ← key, same]; rfl
  have link := isLink_of_key same
  cases formula with
  | nil =>
    obtain ⟨rfl, -⟩ := List.append_eq_nil_iff.1 whole.symm
    cases long
  | cons c t =>
    obtain ⟨n, ns, parsed, first, placed⟩ := Parser.head_parse (Token.tokens.eq_2 c t)
    rw [parsed]
    refine ⟨n, rfl, ?_⟩
    rcases Token.next_of_letters whole letters (by omega) with
      ⟨r, isRef, starts⟩ | ⟨v, isFunc | isName, starts⟩
    · have named := isLink_of_starts starts link
      rw [isRef] at first
      obtain rfl | ⟨b, rfl⟩ := Node.eq_ref_of_head placed first
      · exact .inr named
      · exact .inr named
    · rw [isFunc] at first
      obtain ⟨args, closed, rfl⟩ := Node.eq_call_of_head placed first
      by_cases exact' : key v = linkName
      · exact .inl exact'
      · exact .inr ⟨isLink_of_starts starts link, exact'⟩
    · rw [isName] at first
      obtain rfl := Node.eq_leaf_of_head first
      exact .inr (isLink_of_starts starts link)

/-- A name ends in front of a dotless `ı`. -/
theorem head_of_dotless {w rest : Text} (same : key w = "HYPERL") :
    (Parser.parse (w ++ 'ı' :: rest)).head? = some (.leaf (.name w)) := by
  have letters := isAlpha_of_key same (List.all_eq_true.1 rfl)
  cases w with
  | nil => cases same
  | cons c u =>
    have start : Token.isNameStart c := by simp [Token.isNameStart, letters c (by simp)]
    have word : ∀ d ∈ u, SheetName.isBareChar d := fun d member => by
      simp [SheetName.isBareChar, Text.isWordChar_iff.2 (.inl (letters d (by simp [member])))]
    have noAddress : Ref.scanAddress? (c :: u) = none := by
      cases found : Ref.scanAddress? (c :: u) with
      | none => rfl
      | some read =>
        obtain ⟨written, address, behind⟩ := read
        obtain ⟨shape, whole, -⟩ := Ref.isAddress_of_scanAddress? found
        obtain ⟨d, member, noLetter⟩ := shape.exists_not_alpha
        have letter := letters d (by rw [whole]; simp [List.mem_of_mem_take member])
        rw [noLetter] at letter
        cases letter
    have ends : Ref.continues ('ı' :: rest) = false := by
      rw [Ref.continues]
      decide
    have read := Token.next_name (.inl start) word noAddress ends (by simp)
    obtain ⟨n, ns, parsed, first, -⟩ := Parser.head_parse (Token.tokens.eq_2 c (u ++ 'ı' :: rest))
    rw [read] at first
    rw [List.cons_append, parsed, List.head?_cons, Node.eq_leaf_of_head first]

theorem isLink_text {n : Node} (found : n.IsLink ∨ n.Misleads) : isLink n.text := by
  cases n with
  | call name args closed =>
    have link : isLink name := found.elim isLink_of_key And.left
    rw [Node.text, Node.write, List.append_assoc]
    exact isLink_append link _
  | range a b =>
    rw [Node.text, Node.write, Node.rangeText]
    exact isLink_append (found.resolve_left id) _
  | ref r => exact found.resolve_left id
  | leaf t =>
    cases t with
    | name w => exact found.resolve_left id
    | _ => exact (found.elim id id).elim
  | group body closed => exact (found.elim id id).elim

/-- What is taken for a link, by the first node. -/
theorem isLink_iff_head :
    isLink formula ↔ (∃ n ∈ (Parser.parse formula).head?, n.IsLink) ∨ Misread formula := by
  constructor
  · intro link
    rcases isLink_cases link with ⟨w, rest, rfl, same⟩ | ⟨w, rest, rfl, same, goesOn⟩
    · obtain ⟨n, first, isLink | misleads⟩ := head_of_key rfl same
      · exact .inl ⟨n, first, isLink⟩
      · exact .inr (.inl ⟨n, first, misleads⟩)
    · exact .inr (.inr ⟨w, rest, head_of_dotless same, rfl, same, goesOn⟩)
  · have starts : ∀ n ∈ (Parser.parse formula).head?, n.text <+: formula := by
      intro n first
      obtain ⟨ns, parsed⟩ := List.head?_eq_some_iff.1 first
      exact ⟨Node.textAll ns, by rw [← Parser.textAll_parse formula, parsed]; rfl⟩
    rintro (⟨n, first, link⟩ | ⟨n, first, misleads⟩ | ⟨w, rest, -, rfl, same, behind, goesOn⟩)
    · exact isLink_of_starts (starts n first) (isLink_text (.inl link))
    · exact isLink_of_starts (starts n first) (isLink_text (.inr misleads))
    · obtain ⟨nk, rest, rfl, last, -⟩ := List.map_eq_append_iff.1 goesOn.symm
      have letters := List.rel_append (capitalises_of_key same)
        (List.Forall₂.cons (a := 'I') (b := 'ı') rfl (capitalises_of_key last))
      exact isLink_iff.2 ⟨w ++ 'ı' :: nk, rest, by simp, letters⟩

end CellFormula

/-! ## What is kept -/

/-- The equals sign in front of a formula. -/
def equalsSign : Node := .leaf (.op ['='])

theorem Node.head?_expandAll {f : Node → Expansion} (kept : f equalsSign = .keep equalsSign)
    {ns : List Node} (first : ns.head? = some equalsSign) :
    (expandAll f ns).nodes.head? = some equalsSign := by
  obtain ⟨ns, rfl⟩ := List.head?_eq_some_iff.1 first
  rw [expandAll, equalsSign, expand, ← equalsSign, kept]
  · rfl
  · simp
  · simp

theorem Percent.head?_foldAll {ns ms : List Node} (folded : foldAll ns = .ok ms)
    (first : ns.head? = some equalsSign) : ms.head? = some equalsSign := by
  obtain ⟨ns, rfl⟩ := List.head?_eq_some_iff.1 first
  obtain ⟨_, insideFolded, folded⟩ := foldAll_eq_ok.1 folded
  obtain ⟨n, rest, first, -, rfl⟩ := insideAll_cons_eq_ok.1 insideFolded
  cases first
  obtain ⟨behind, -, folded⟩ := Except.bind_eq_ok.1 folded
  cases folded
  rfl

theorem Inline.head?_inline {name : Text} {spell : Speller} {ns : List Node}
    (first : ns.head? = some equalsSign) : (inline name spell ns).nodes.head? = some equalsSign :=
  Node.head?_expandAll (f := expandCall name spell) rfl first

theorem Sum.head?_inline {ns : List Node} (first : ns.head? = some equalsSign) :
    (inline ns).nodes.head? = some equalsSign := by
  unfold inline
  dsimp only
  split
  · exact first
  · split
    · exact Node.head?_expandAll (f := rename) rfl first
    · split
      · exact Node.head?_expandAll (f := spellOut) rfl first
      · exact first

/-- No step touches the equals sign in front of a formula. -/
theorem Step.head?_run {step : Step} {ns : List Node} {result : Expansion}
    (first : ns.head? = some equalsSign) (ran : step.run ns = .ok result) :
    result.nodes.head? = some equalsSign := by
  cases step with
  | percentages =>
    obtain ⟨folded, found, rfl⟩ := run_percentages_eq_ok.1 ran
    exact Percent.head?_foldAll found first
  | sums =>
    cases ran
    exact Sum.head?_inline first
  | sumproduct =>
    cases ran
    exact Inline.head?_inline first
  | average =>
    cases ran
    exact Inline.head?_inline first
  | ln =>
    cases ran
    exact Inline.head?_inline first
  | pv =>
    cases ran
    exact Inline.head?_inline first

namespace CellFormula

variable {k : SheetKeys} {c : BookCell} {formula : Text}

theorem head?_tree (formula : Text) : (tree formula).head? = some equalsSign := by
  have lexed : Token.Lexed [.op ['=']] (Text.without '$' formula) :=
    ⟨rfl, by simp [Token.Apart], trivial⟩
  have read : Token.tokens (Text.without '$' ('=' :: formula)) =
      .op ['='] :: Token.tokens (Text.without '$' formula) := by
    rw [Text.without_cons (by decide)]
    exact Token.tokens_texts_append lexed
  obtain ⟨n, ns, parsed, first, -⟩ := Parser.head_parse read
  have sign : n = equalsSign := by
    cases n <;> simp_all [Node.flat, equalsSign]
  rw [tree, parsed, sign, List.head?_cons]

/-- What is converted keeps its equals sign. -/
theorem head?_ofTree {current : Text} {ns : List Node} {converted : Dialect.Converted}
    (first : ns.head? = some equalsSign) (ok : ofTree k current ns = .ok converted) :
    converted.formula.head? = some '=' := by
  obtain ⟨result, ran, ok⟩ := Except.bind_eq_ok.1 ok
  obtain ⟨steps, stepsRan, ran⟩ := Except.bind_eq_ok.1 ran
  cases ran
  cases ok
  have kept := Step.runAll_keeps (P := fun ns => ns.head? = some equalsSign)
    (fun _ _ => Step.head?_run) first stepsRan
  obtain ⟨ms, same⟩ := List.head?_eq_some_iff.1 kept
  simp [SheetKeys.writeTree, same, Node.writeAll, equalsSign, Node.write, Token.text]

theorem Misread.not_isLink (misread : Misread formula) :
    ∀ n ∈ (Parser.parse formula).head?, ¬ n.IsLink := by
  intro n first
  rcases misread with ⟨m, first', misleads⟩ | ⟨w, rest, first', -⟩
  · obtain rfl : m = n := Option.mem_unique first' first
    exact misleads.not_isLink
  · rw [first'] at first
    cases first
    exact id

/-- A formula is dropped exactly if its first node is a call of the function for links or it is
misread; it is misread only if that node is none. Every other formula is converted, and what comes
out has its equals sign. -/
theorem ofCell_link (k : SheetKeys) {c : BookCell} {formula : Text}
    (given : c.formula = some formula) (some_char : formula ≠ []) :
    (ofCell k c = .ok ⟨[], []⟩ ↔
      (∃ n ∈ (Parser.parse formula).head?, n.IsLink) ∨ Misread formula) ∧
    (Misread formula → ∀ n ∈ (Parser.parse formula).head?, ¬ n.IsLink) ∧
    (ofCell k c ≠ .ok ⟨[], []⟩ → ofCell k c = ofTree k c.sheet (tree formula) ∧
      ∀ converted, ofCell k c = .ok converted → converted.formula.head? = some '=') := by
  have dropped : isLink formula → ofCell k c = .ok ⟨[], []⟩ := by
    intro link
    obtain ⟨d, t, rfl⟩ := List.exists_cons_of_ne_nil some_char
    simp only [ofCell, given, link, if_true]
  have kept : ¬ isLink formula → ofCell k c = ofTree k c.sheet (tree formula) ∧
      ∀ converted, ofCell k c = .ok converted → converted.formula.head? = some '=' := by
    intro noLink
    have same := ofCell_eq_ofTree (k := k) given some_char (Bool.eq_false_iff.2 noLink)
    refine ⟨same, fun converted ok => ?_⟩
    rw [same] at ok
    exact head?_ofTree (head?_tree formula) ok
  refine ⟨?_, Misread.not_isLink, fun differs => kept fun link => differs (dropped link)⟩
  rw [← isLink_iff_head]
  refine ⟨fun empty => ?_, dropped⟩
  by_contra noLink
  cases (kept noLink).2 _ empty

/-- A call in small letters, and a call of a function with a longer name. -/
theorem ofCell_link_and_longer :
    let k : SheetKeys := ⟨["Main"]⟩
    let cell (formula : Text) : BookCell := ⟨"Main", "C3", 3, 3, .blank, some formula, true⟩
    ofCell k (cell "hyperlink(A1)") = .ok ⟨[], []⟩ ∧ ofCell k (cell "HYPERLINKS(A1)") = .ok ⟨[], []⟩ ∧
    ofCell k (cell "LINK(A1)") = ofTree k "Main" (tree "LINK(A1)") := by
  intro k cell
  have tokens : Token.tokens "hyperlink(A1)" =
      [.func "hyperlink", .lparen, .ref ⟨none, "A1", "A1"⟩, .rparen] := by
    decide +kernel
  have longer : Token.tokens "HYPERLINKS(A1)" =
      [.func "HYPERLINKS", .lparen, .ref ⟨none, "A1", "A1"⟩, .rparen] := by
    decide +kernel
  refine ⟨?_, ?_, ?_⟩
  · refine (ofCell_link k (c := cell "hyperlink(A1)") rfl (by decide)).1.2
      (.inl ⟨.call "hyperlink" [[.ref ⟨none, "A1", "A1"⟩]] true, ?_, rfl⟩)
    rw [Parser.parse, tokens]
    rfl
  · refine (ofCell_link k (c := cell "HYPERLINKS(A1)") rfl (by decide)).1.2
      (.inr (.inl ⟨.call "HYPERLINKS" [[.ref ⟨none, "A1", "A1"⟩]] true, ?_, by decide, by decide⟩))
    rw [Parser.parse, longer]
    rfl
  · exact ((ofCell_link k (c := cell "LINK(A1)") rfl (by decide)).2.2 (by decide +kernel)).1

/-- A reference to a sheet whose name goes on from that of the function is dropped. -/
theorem ofCell_link_sheet :
    let k : SheetKeys := ⟨["Main", "Hyperlinks"]⟩
    let cell (formula : Text) : BookCell := ⟨"Main", "C3", 3, 3, .blank, some formula, true⟩
    (∀ n ∈ (Parser.parse "Hyperlinks!A1").head?, ¬ n.IsLink) ∧
    ofCell k (cell "Hyperlinks!A1") = .ok ⟨[], []⟩ ∧
    k.write "Main" "Hyperlinks!A1" = "$\x7bmetric:Hyperlinks!A1\x7d" ∧
    ofCell k (cell "0+Hyperlinks!A1") = .ok ⟨"=0+$\x7bmetric:Hyperlinks!A1\x7d", []⟩ := by
  intro k cell
  have tokens : Token.tokens "Hyperlinks!A1" =
      [.ref ⟨some "Hyperlinks", "A1", "Hyperlinks!A1"⟩] := by
    decide +kernel
  refine ⟨?_, by decide +kernel⟩
  rw [Parser.parse, tokens]
  rintro n ⟨⟩
  exact id

end CellFormula
end CellGraph
