import CellGraph.Diagram.Edges
import CellGraph.Proofs.Dialect.Clean

/-!
# Reading references back

The keys in the placeholders of a formula are the keys that the references of its tree mean
(`references_writeTree`). The tree has to be clean: then each dollar sign of the written formula
starts a placeholder, and no key has a brace.
-/

namespace CellGraph

open Node (Clean CleanAll)

/-! ## Keys -/

theorem Ref.Formed.not_mem_address {r : Ref} (formed : r.Formed) :
    r.address ≠ [] ∧ '\x7d' ∉ r.address := by
  have plain : ∀ {written address : Text}, IsAddress written address →
      address ≠ [] ∧ '\x7d' ∉ address := by
    intro written address shape
    refine ⟨shape.address_ne_nil, fun brace => ?_⟩
    rcases shape.mem_address brace with capital | digit
    · exact absurd capital (by decide)
    · exact absurd digit (by decide)
  cases formed with
  | here shape => exact plain shape
  | there _ shape => exact plain shape

namespace SheetKeys

/-- The keys that a single node means on the current sheet: that of a reference, or those of the
two ends of a range. The second end takes the sheet of the first unless it names one. -/
def meantBy (k : SheetKeys) (current : Text) : Node → List Text
  | .ref r => (k.resolve? r current none).toList
  | .range a b => (k.resolve? a current none).toList ++ (k.resolve? b current a.sheet).toList
  | _ => []

/-- The keys that the references of a tree mean on the current sheet, in order. References to
unknown sheets mean none. -/
def meant (k : SheetKeys) (current : Text) (ns : List Node) : List Text :=
  (Node.walkAll ns).flatMap (k.meantBy current)

variable {k : SheetKeys} {current : Text} {inherited : Option Text} {r : Ref} {key : Text}

theorem not_mem_ofName (name : Text) : '\x7d' ∉ ofName name := by
  intro member
  rcases List.mem_append.1 member with word | bang
  · exact absurd (List.mem_filter.1 word).2 (by decide)
  · exact absurd bang (by decide)

theorem not_mem_find? {name : Text} (found : k.find? name = some key) : '\x7d' ∉ key := by
  obtain ⟨n, -, rfl⟩ := Option.map_eq_some_iff.1 found
  exact not_mem_ofName n

/-- A key that a reference means is not empty and has no brace. -/
theorem not_mem_resolve? (formed : r.Formed) (meant : k.resolve? r current inherited = some key) :
    key ≠ [] ∧ '\x7d' ∉ key := by
  obtain ⟨some_char, plain⟩ := formed.not_mem_address
  unfold resolve? at meant
  dsimp only at meant
  split at meant
  · obtain ⟨sheet, found, rfl⟩ := Option.map_eq_some_iff.1 meant
    have noBrace := not_mem_find? found
    simp [some_char, plain, noBrace]
  · split at meant
    · cases meant
      exact ⟨some_char, plain⟩
    · obtain ⟨_, -, rfl⟩ := Option.map_eq_some_iff.1 meant
      exact ⟨some_char, plain⟩

end SheetKeys

/-! ## Placeholders -/

namespace Edge

open SheetKeys (not_mem_resolve?)

theorem opening_eq : opening = ['$', '\x7b', 'm', 'e', 't', 'r', 'i', 'c', ':'] := by decide

theorem placeholder_eq (key : Text) : placeholder key = opening ++ (key ++ ['\x7d']) := by
  have whole : placeholder key = opening ++ key ++ ("\x7d" : String).toList := rfl
  have closing : ("\x7d" : String).toList = ['\x7d'] := by decide
  rw [closing, List.append_assoc] at whole
  exact whole

theorem references_cons {c : Char} (other : c ≠ '$') (t : Text) :
    references (c :: t) = references t := by
  rw [references]
  have noPlaceholder : scanPlaceholder? (c :: t) = none := by
    have noOpening : opening.isPrefixOf (c :: t) = false := by
      rw [opening_eq, List.isPrefixOf]
      simp [Ne.symm other]
    simp [scanPlaceholder?, Text.after?, noOpening]
  split
  · next found =>
    rw [noPlaceholder] at found
    cases found
  · rfl

/-- A text without dollar signs has no placeholders. -/
theorem references_append {t : Text} (free : '$' ∉ t) (u : Text) :
    references (t ++ u) = references u := by
  induction t with
  | nil => rfl
  | cons c t ih =>
    simp only [List.mem_cons, not_or] at free
    rw [List.cons_append, references_cons (Ne.symm free.1), ih free.2]

/-- The key of a placeholder is read, and the text behind it. -/
theorem references_placeholder {key : Text} (some_char : key ≠ []) (plain : '\x7d' ∉ key)
    (u : Text) : references (placeholder key ++ u) = key :: references u := by
  obtain ⟨c, t, rfl⟩ := List.exists_cons_of_ne_nil some_char
  have inside : ∀ d ∈ c :: t, decide (d ≠ '\x7d') = true := by
    intro d member
    have other : d ≠ '\x7d' := by
      rintro rfl
      exact plain member
    exact decide_eq_true other
  have ends : ∀ d ∈ ('\x7d' :: u).head?, decide (d ≠ '\x7d') = false := by simp
  have taken := Text.takeWhile_append_stop inside ends
  have dropped := Text.dropWhile_append_stop inside ends
  have read : scanPlaceholder? (placeholder (c :: t) ++ u) = some (c :: t, u) := by
    have opened : Text.after? opening (placeholder (c :: t) ++ u) =
        some (c :: t ++ '\x7d' :: u) := by
      rw [placeholder_eq, List.append_assoc]
      simp [Text.after?]
    simp only [scanPlaceholder?, opened, taken, dropped]
  obtain ⟨d, v, start⟩ : ∃ d v, placeholder (c :: t) ++ u = d :: v := by
    rw [placeholder_eq, opening_eq]
    exact ⟨_, _, rfl⟩
  rw [start] at read ⊢
  rw [references]
  split
  · next found =>
    rw [read] at found
    cases found
    rfl
  · next found =>
    rw [read] at found
    cases found

variable (k : SheetKeys) (current : Text)

/-- A written reference holds the key that it means, or none. -/
theorem references_wrap (inherited : Option Text) {r : Ref} (clean : Token.Clean (.ref r))
    (u : Text) :
    references (k.wrap current inherited r ++ u) =
      (k.resolve? r current inherited).toList ++ references u := by
  unfold SheetKeys.wrap
  cases meant : k.resolve? r current inherited with
  | none => exact references_append clean.2 u
  | some key =>
    obtain ⟨some_char, plain⟩ := not_mem_resolve? clean.1 meant
    exact references_placeholder some_char plain u

theorem references_closing (closed : Bool) (u : Text) :
    references (Node.closing closed ++ u) = references u := by
  refine references_append ?_ u
  cases closed <;> simp [Node.closing]

/-! ## Trees -/

/-- A range with placeholders for its ends. -/
abbrev wrapRange (k : SheetKeys) (current : Text) (a b : Ref) : Text :=
  k.wrap current none a ++ ':' :: k.wrap current a.sheet b

mutual

theorem references_write : ∀ {n : Node}, Clean n → ∀ u,
    references (n.write (k.wrap current none) (wrapRange k current) ++ u) =
      n.walk.flatMap (k.meantBy current) ++ references u
  | .leaf t, clean, u => by
    have free := (Node.clean_leaf.1 clean).text
    simp [Node.write, Node.walk, SheetKeys.meantBy, references_append free]
  | .ref r, clean, u => by
    have read := references_wrap k current none (Node.clean_ref.1 clean) u
    simp [Node.write, Node.walk, SheetKeys.meantBy, read]
  | .range a b, clean, u => by
    obtain ⟨first, last⟩ := Node.clean_range.1 clean
    simp only [Node.write, Node.walk, wrapRange, SheetKeys.meantBy, List.flatMap_cons,
      List.flatMap_nil, List.append_assoc, List.cons_append, List.append_nil,
      references_wrap k current none first, references_wrap k current a.sheet last,
      references_cons (c := ':') (by decide)]
  | .group body closed, clean, u => by
    have inside := references_writeAll (Node.clean_group.1 clean)
      (Node.closing closed ++ u)
    simp only [Node.write, Node.walk, List.flatMap_cons, SheetKeys.meantBy, List.nil_append,
      List.append_assoc, List.cons_append, references_cons (c := '(') (by decide), inside,
      references_closing]
  | .call name args closed, clean, u => by
    obtain ⟨named, cleanArgs⟩ := Node.clean_call.1 clean
    have inside := references_writeArgs cleanArgs
      (Node.closing closed ++ u)
    simp only [Node.write, Node.walk, List.flatMap_cons, SheetKeys.meantBy, List.nil_append,
      List.append_assoc, List.cons_append, references_append named,
      references_cons (c := '(') (by decide), inside, references_closing]

theorem references_writeAll : ∀ {ns : List Node}, CleanAll ns → ∀ u,
    references (Node.writeAll (k.wrap current none) (wrapRange k current) ns ++ u) =
      (Node.walkAll ns).flatMap (k.meantBy current) ++ references u
  | [], _, _ => rfl
  | n :: ns, clean, u => by
    obtain ⟨first, rest⟩ := Node.cleanAll_cons.1 clean
    simp only [Node.writeAll, Node.walkAll, List.append_assoc, List.flatMap_append,
      references_write first, references_writeAll rest]

theorem references_writeArgs : ∀ {args : List (List Node)}, (∀ arg ∈ args, CleanAll arg) → ∀ u,
    references (Node.writeArgs (k.wrap current none) (wrapRange k current) args ++ u) =
      (Node.walkArgs args).flatMap (k.meantBy current) ++ references u
  | [], _, _ => rfl
  | [arg], clean, u => by
    have first := references_writeAll (clean arg (by simp)) u
    simpa [Node.writeArgs, Node.walkArgs] using first
  | arg :: next :: args, clean, u => by
    have others : ∀ a ∈ next :: args, CleanAll a :=
      fun a member => clean a (List.mem_cons_of_mem _ member)
    have rest := references_writeArgs others u
    rw [Node.writeArgs, Node.walkArgs, List.append_assoc, List.cons_append,
      references_writeAll (clean arg (by simp)), references_cons (by decide), rest,
      List.flatMap_append, List.append_assoc]
    simp

end

/-- The keys read back from a clean tree's formula are those that its references mean. -/
theorem references_writeTree (k : SheetKeys) (current : Text) {ns : List Node}
    (clean : CleanAll ns) : references (k.writeTree current ns) = k.meant current ns := by
  have read := references_writeAll k current clean []
  simpa [SheetKeys.writeTree, SheetKeys.meant, references] using read

end Edge
end CellGraph
