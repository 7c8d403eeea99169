import CellGraph.Book.Keys
import CellGraph.Expr.Expand
import CellGraph.Proofs.Parsing.Formed

/-!
# References and keys

The key of a cell is computed from its address and its sheet, the key that a reference means from
the text of a formula. `write_reference` says that the two agree for every sheet of a workbook,
however its name is spelled and quoted and wherever the address has dollar signs.

A formula is written in one pass over its tree. Put into the tree first and written as any tree
then, the placeholders stand in the same text (`writeTree_eq_textAll`).
-/

namespace CellGraph

namespace Text

/-! ## Case folding -/

theorem foldExpansions_ne_nil : ∀ entry ∈ foldExpansions, entry.2 ≠ [] := by decide

/-- No character folds to nothing. -/
theorem foldChar_ne_nil (c : Char) : foldChar c ≠ [] := by
  unfold foldChar
  dsimp only
  split
  · simp
  · split
    · next codes found =>
      obtain ⟨before, behind, table, -⟩ := List.lookup_eq_some_iff.1 found
      have some_code := foldExpansions_ne_nil (c.toNat, codes) (by simp [table])
      simpa using some_code
    · split <;> simp

theorem foldCase_eq_nil {t : Text} : foldCase t = [] ↔ t = [] := by
  constructor
  · intro empty
    cases t with
    | nil => rfl
    | cons c t =>
      simp only [foldCase, List.flatMap_cons, List.append_eq_nil_iff] at empty
      exact absurd empty.1 (foldChar_ne_nil c)
  · rintro rfl
    rfl

end Text

namespace Node

/-! ## Writing changed trees -/

variable {f : Node → Expansion} {ref : Ref → Text} {range : Ref → Ref → Text}

/-- The change puts nodes with the given texts for references and ranges, and keeps all else. -/
structure Puts (f : Node → Expansion) (ref : Ref → Text) (range : Ref → Ref → Text) : Prop where
  ref (r : Ref) : textAll (f (.ref r)).nodes = ref r
  range (a b : Ref) : textAll (f (.range a b)).nodes = range a b
  leaf (t : Token) : f (.leaf t) = .keep (.leaf t)
  group (body : List Node) (closed : Bool) : f (.group body closed) = .keep (.group body closed)
  call (name : Text) (args : List (List Node)) (closed : Bool) :
    f (.call name args closed) = .keep (.call name args closed)

theorem textAll_single (n : Node) : textAll [n] = n.text := List.append_nil _

mutual

theorem textAll_expand (puts : Puts f ref range) :
    ∀ n : Node, textAll (expand f n).nodes = n.write ref range
  | .leaf t => by
    have kept : expand f (.leaf t) = .keep (.leaf t) := puts.leaf t
    rw [kept]
    exact textAll_single _
  | .ref r => puts.ref r
  | .range a b => puts.range a b
  | .group body closed => by
    have inside := textAll_expandAll puts body
    rw [textAll] at inside
    simp only [expand, puts.group, Expansion.keep, textAll_single, text, write, inside]
  | .call name args closed => by
    have inside := writeArgs_expandArgs puts args
    simp only [expand, puts.call, Expansion.keep, textAll_single, text, write, inside]

theorem textAll_expandAll (puts : Puts f ref range) :
    ∀ ns : List Node, textAll (expandAll f ns).nodes = writeAll ref range ns
  | [] => rfl
  | n :: ns => by
    rw [expandAll, textAll_append, textAll_expand puts n, textAll_expandAll puts ns, writeAll]

theorem writeArgs_expandArgs (puts : Puts f ref range) :
    ∀ args : List (List Node),
      writeArgs Ref.text rangeText (expandArgs f args).1 = writeArgs ref range args
  | [] => rfl
  | [arg] => textAll_expandAll puts arg
  | arg :: arg' :: args => by
    have first := textAll_expandAll puts arg
    have rest := writeArgs_expandArgs puts (arg' :: args)
    rw [textAll] at first
    simp only [expandArgs, writeArgs] at rest ⊢
    rw [first, rest]

end

end Node

namespace SheetKeys

variable {k : SheetKeys} {current sheet spelled : Text}

/-! ## Placeholders in trees -/

/-- A reference as a node: the leaf of its placeholder, or the reference itself if it means no known
sheet. -/
def wrapNode (k : SheetKeys) (current : Text) (inherited : Option Text) (r : Ref) : Node :=
  match k.resolve? r current inherited with
  | some key => .leaf (.name (placeholder key))
  | none => .ref r

/-- Placeholders for a reference and for the two ends of a range. -/
def normalize (k : SheetKeys) (current : Text) : Node → Expansion
  | .ref r => .keep (k.wrapNode current none r)
  | .range a b =>
    .of [k.wrapNode current none a, .leaf .colon, k.wrapNode current a.sheet b]
  | n => .keep n

theorem text_wrapNode (k : SheetKeys) (current : Text) (inherited : Option Text) (r : Ref) :
    (k.wrapNode current inherited r).text = k.wrap current inherited r := by
  unfold wrapNode wrap
  cases k.resolve? r current inherited with
  | none => rfl
  | some key => rfl

theorem puts_normalize (k : SheetKeys) (current : Text) :
    Node.Puts (k.normalize current) (k.wrap current none)
      fun a b => k.wrap current none a ++ ':' :: k.wrap current a.sheet b where
  ref r := by
    rw [normalize, Expansion.keep, Node.textAll_single, text_wrapNode]
  range a b := by
    rw [← text_wrapNode, ← text_wrapNode]
    simp [normalize, Expansion.of, Node.textAll, Node.writeAll, Node.text, Node.write, Token.text]
  leaf _ := rfl
  group _ _ := rfl
  call _ _ _ := rfl

/-- The text of a tree with placeholders is the text of the tree in which they are put. -/
theorem writeTree_eq_textAll (k : SheetKeys) (current : Text) (ns : List Node) :
    k.writeTree current ns = Node.textAll (Node.expandAll (k.normalize current) ns).nodes :=
  (Node.textAll_expandAll (k.puts_normalize current) ns).symm

/-! ## Finding sheets -/

/-- Letter case does not count. -/
theorem find?_congr (k : SheetKeys) (same : Text.foldCase spelled = Text.foldCase sheet) :
    k.find? spelled = k.find? sheet := by
  rw [find?, same, find?]

theorem find?_of_mem (known : sheet ∈ k.names) : ∃ key, k.find? sheet = some key := by
  have found : (k.names.reverse.find? fun n => Text.foldCase n = Text.foldCase sheet).isSome := by
    rw [List.find?_isSome]
    exact ⟨sheet, List.mem_reverse.2 known, by simp⟩
  obtain ⟨n, found⟩ := Option.isSome_iff_exists.1 found
  exact ⟨ofName n, by rw [find?, found]; rfl⟩

/-- On its own sheet a reference means the cell at its address. -/
theorem resolve?_here (known : current ∈ k.names) (address written : Text) :
    k.resolve? ⟨none, address, written⟩ current none = some (k.keyAt address current) := by
  obtain ⟨key, found⟩ := find?_of_mem known
  by_cases several : k.several = true
  · simp [resolve?, keyAt, several, found]
  · simp [resolve?, keyAt, several]

/-- A reference to a known sheet means the cell at its address there, from any sheet. -/
theorem resolve?_there (known : sheet ∈ k.names)
    (same : Text.foldCase spelled = Text.foldCase sheet) (some_char : spelled ≠ [])
    (address written : Text) :
    k.resolve? ⟨some spelled, address, written⟩ current none = some (k.keyAt address sheet) := by
  obtain ⟨key, found⟩ := find?_of_mem known
  have spelledFound : k.find? spelled = some key := (find?_congr k same).trans found
  have named : (some spelled).filter (· ≠ []) = some spelled := by
    simp [Option.filter, some_char]
  unfold resolve? keyAt
  by_cases several : k.several = true
  · simp only [several, if_true, named, Option.some_or, Option.getD_some, spelledFound, found,
      Option.map_some]
  · simp only [several, named, Option.some_or, spelledFound, Option.map_some, Bool.false_eq_true,
      if_false]

/-- A formula that is one reference becomes the placeholder of what it means. -/
theorem write_text_ref {r : Ref} (formed : r.Formed) {key : Text}
    (meant : k.resolve? r current none = some key) :
    k.write current r.text = placeholder key := by
  rw [write, Parser.parse_text_ref formed]
  simp [writeTree, Node.writeAll, Node.write, wrap, meant]

/-- A written reference becomes the placeholder of the cell that it names: with a sheet name in
any letter case, in quotes or bare as it must be, and without one on the sheet itself. The address
may have dollar signs. -/
theorem write_reference (k : SheetKeys) {current sheet spelled written address : Text}
    (here : current ∈ k.names) (known : sheet ∈ k.names) (some_char : sheet ≠ [])
    (same : Text.foldCase spelled = Text.foldCase sheet)
    (shape : Ref.IsAddress written address) :
    k.write current (SheetName.written spelled ++ '!' :: written) =
      placeholder (k.keyAt address sheet) ∧
    k.write current written = placeholder (k.keyAt address current) := by
  have spelled_ne_nil : spelled ≠ [] := by
    rintro rfl
    exact some_char (Text.foldCase_eq_nil.1 same.symm)
  constructor
  · exact write_text_ref (.there (SheetName.isWritten_written spelled_ne_nil) shape)
      (resolve?_there known same spelled_ne_nil address _)
  · exact write_text_ref (.here shape) (resolve?_here here address written)

/-- Two sheets whose keys are the same, and a name with a quote that is spelled in capitals. -/
theorem write_reference_quoted :
    (⟨["it's!", "its"]⟩ : SheetKeys).write "its" "'IT''S!'!$B2" =
        placeholder ((⟨["it's!", "its"]⟩ : SheetKeys).keyAt "B2" "it's!") ∧
      (⟨["it's!", "its"]⟩ : SheetKeys).write "its" "$B2" =
        placeholder ((⟨["it's!", "its"]⟩ : SheetKeys).keyAt "B2" "its") := by
  have same : Text.foldCase "IT'S!" = Text.foldCase "it's!" := by decide
  have shape : Ref.IsAddress "$B2" "B2" := @Ref.IsAddress.intro ['$'] ['B'] [] ['2'] (.inr rfl)
    ⟨by decide, by decide, List.all_eq_true.1 rfl⟩ (.inl rfl) ⟨by decide, List.all_eq_true.1 rfl⟩
  exact write_reference ⟨["it's!", "its"]⟩ (by decide) (by decide) (by decide) same shape

end SheetKeys
end CellGraph
