import CellGraph.Proofs.Dialect.Spelling
import CellGraph.Proofs.Dialect.Totality
import CellGraph.Proofs.Dialect.Unresolved

/-!
# Sums are converted alike

The sums of a formula share one fate (`inline_alike`): all of them get the dialect's own name, or all
of them are replaced by groups that add the cells of their columns, or the formula stays as it is and
the sums are reported. Neither kind of sum that is converted has another one inside, so it is enough
to replace the sums from the outside in (`replaceAll`), and what stands inside them does not change
before they do.
-/

namespace CellGraph

open Node (arguments expand expandAll expandArgs joined range? solid walk walkAll walkArgs)

/-! ## Columns -/

theorem Text.trimEnd_append {p : Char → Bool} {t u : Text} (behind : ∀ c ∈ u, p c)
    (stop : ∀ c ∈ t.getLast?, p c = false) : trimEnd p (t ++ u) = t := by
  have dropped : (u.reverse ++ t.reverse).dropWhile p = t.reverse :=
    dropWhile_append_stop (by simpa using behind) (by simpa using stop)
  rw [trimEnd, List.reverse_append, dropped, List.reverse_reverse]

/-- The column of an address is what is left of it without its digits. -/
theorem Text.trimEnd_address {column row : Text} (letters : Ref.IsColumn column)
    (digits : Ref.IsRow row) : trimEnd Char.isDigit (column ++ row) = column := by
  refine trimEnd_append digits.digits fun c last => ?_
  have capital := letters.letters c (List.mem_of_mem_getLast? last)
  simpa using not_isDigit_of_isUpper capital

/-- A range whose ends lie in one column covers the cells of that column from the first row to the
last one, from top to bottom. -/
theorem Area.refs_column {a b : Ref} {column row row' : Text} (letters : Ref.IsColumn column)
    (first : a.address = column ++ row) (digits : Ref.IsRow row)
    (last : b.address = column ++ row') (digits' : Ref.IsRow row') (filled : refs a b ≠ []) :
    refs a b = (List.range' (Text.natOfDigits row)
      (Text.natOfDigits row' + 1 - Text.natOfDigits row)).map fun n =>
        Ref.make (column ++ Text.ofNat n) (sheetOf a b) := by
  unfold refs cells at filled ⊢
  split at filled
  · next p q firstFound lastFound =>
    rw [first] at firstFound
    rw [last] at lastFound
    rw [eq_of_placeThen? letters digits firstFound, eq_of_placeThen? letters digits' lastFound,
      between]
    simp [lettersOfColumn_columnOfLetters letters.letters, Function.comp_def]
  · exact absurd rfl filled

/-! ## What sums add -/

namespace Sum

/-- What holds of a node if it is a sum: of its name, its arguments and whether it is closed. -/
def IfSum (p : Text → List (List Node) → Bool → Prop) : Node → Prop
  | .call written args closed => Inline.key written = name → p written args closed
  | _ => True

/-- What holds of every sum in a sequence, at any depth. -/
def Every (p : Text → List (List Node) → Bool → Prop) (ns : List Node) : Prop :=
  ∀ n ∈ walkAll ns, IfSum p n

/-- Single references, and at least one. -/
def References (args : List (List Node)) : Prop :=
  args ≠ [] ∧ ∀ arg ∈ args, ∃ r, solid arg = [.ref r]

/-- The only argument is a range within one column that has cells. The cells are those of the column
from the first row to the last one, from top to bottom. -/
inductive Column : List (List Node) → List Ref → Prop
  | intro {arg : List Node} {a b : Ref} {column row row' : Text} (single : solid arg = [.range a b])
      (letters : Ref.IsColumn column) (first : a.address = column ++ row) (digits : Ref.IsRow row)
      (last : b.address = column ++ row') (digits' : Ref.IsRow row') (filled : Area.refs a b ≠ []) :
      Column [arg] ((List.range' (Text.natOfDigits row)
        (Text.natOfDigits row' + 1 - Text.natOfDigits row)).map fun n =>
          Ref.make (column ++ Text.ofNat n) (Area.sheetOf a b))

/-- Every sum adds references only. -/
def AllReferences (ns : List Node) : Prop := Every (fun _ args _ => References args) ns

/-- Every sum adds the cells of a column. -/
def AllColumns (ns : List Node) : Prop := Every (fun _ args _ => ∃ refs, Column args refs) ns

variable {ns : List Node} {args : List (List Node)} {refs : List Ref}

theorem arguments_of_filled (filled : ∀ arg ∈ args, solid arg ≠ []) : arguments args = args := by
  rcases Node.arguments_cases args with whole | empty
  · exact whole
  · unfold arguments at empty ⊢
    split at empty
    · next arg => rw [if_neg (filled arg (by simp))]
    · rfl

theorem addsReferences_iff : addsReferences (arguments args) ↔ References args := by
  have known : ∀ {summands}, addsReferences summands ↔ References summands := by
    intro summands
    rw [← Bool.not_eq_false, addsReferences_eq_false]
    simp [References]
  constructor
  · intro adds
    rcases Node.arguments_cases args with whole | empty
    · rwa [whole, known] at adds
    · rw [empty] at adds
      cases adds
  · intro references
    rw [arguments_of_filled fun arg member => ?_, known]
    · exact references
    · obtain ⟨r, single⟩ := references.2 arg member
      simp [single]

/-- Ranges whose ends are written as references are. -/
def FormedRanges (args : List (List Node)) : Prop :=
  ∀ arg ∈ args, ∀ a b, solid arg = [.range a b] → a.Formed ∧ b.Formed

theorem columnRefs?_iff (formed : FormedRanges args) :
    columnRefs? (arguments args) = some refs ↔ Column args refs := by
  constructor
  · intro found
    obtain ⟨arg, a, b, summands, alone, rfl, filled⟩ := columnRefs?_eq_some found
    obtain rfl : args = [arg] := by
      rcases Node.arguments_cases args with whole | empty
      · rw [← whole, summands]
      · rw [empty] at summands
        cases summands
    have single := Node.solid_of_range? (Node.range?_of_sole? alone)
    obtain ⟨firstFormed, lastFormed⟩ := formed arg (by simp) a b single
    have same : Text.trimEnd Char.isDigit a.address = Text.trimEnd Char.isDigit b.address := by
      by_contra differ
      rw [summands] at found
      simp [columnRefs?, alone, differ] at found
    obtain ⟨_, first⟩ := firstFormed.isAddress
    obtain ⟨_, last⟩ := lastFormed.isAddress
    generalize firstSame : a.address = address at first same
    generalize lastSame : b.address = address' at last same
    cases first with
    | intro _ letters _ digits =>
      cases last with
      | intro _ letters' _ digits' =>
        rw [Text.trimEnd_address letters digits, Text.trimEnd_address letters' digits'] at same
        subst same
        rw [Area.refs_column letters firstSame digits lastSame digits' filled]
        exact .intro single letters firstSame digits lastSame digits' filled
  · rintro ⟨single, letters, first, digits, last, digits', filled⟩
    rw [arguments_of_filled (by simp [single])]
    simp only [columnRefs?, Node.sole?, single, first, last, Text.trimEnd_address letters digits,
      Text.trimEnd_address letters digits', filled, ne_eq, not_false_eq_true, and_self, if_true]
    rw [Area.refs_column letters first digits last digits' filled]

/-- The cells that arguments cover: those of their ranges. -/
def covered (args : List (List Node)) : List Ref :=
  args.flatMap fun arg => match range? arg with
    | some (a, b) => Area.refs a b
    | none => []

theorem Column.covered_eq (column : Column args refs) : covered args = refs := by
  obtain ⟨single, letters, first, digits, last, digits', filled⟩ := column
  simp only [covered, List.flatMap_singleton, Node.range?_of_solid single]
  exact Area.refs_column letters first digits last digits' filled

/-- The closed group that adds cells. -/
def adding (refs : List Ref) : Node := .group (joined (refs.map fun r => [.ref r])) true

/-- What a range is spelled out as is read as the group of its cells. -/
theorem parse_spell {a b : Ref} (first : a.Formed) (last : b.Formed) :
    Parser.parse (spell (Area.refs a b)) = [adding (Area.refs a b)] := by
  have each : ∀ t ∈ (Area.refs a b).map fun r => [Node.ref r], Node.ProperAll t := by
    intro t member
    obtain ⟨r, inside, rfl⟩ := List.mem_map.1 member
    exact Node.properAll_single (Area.formed_of_mem_refs first last inside)
  rw [← Node.textAll_column]
  exact Parser.parse_textAll_of_proper
    (Node.properAll_single (Node.proper_group (Node.properAll_joined each)))

/-! ## Replacing sums -/

mutual

/-- A node with every sum in it, wherever it stands, replaced by what is made of its arguments and of
whether it is closed. -/
def replace (made : List (List Node) → Bool → Node) : Node → Node
  | .group body closed => .group (replaceAll made body) closed
  | .call written args closed =>
    if Inline.key written = name then made args closed
    else .call written (replaceArgs made args) closed
  | n => n

def replaceAll (made : List (List Node) → Bool → Node) : List Node → List Node
  | [] => []
  | n :: ns => replace made n :: replaceAll made ns

def replaceArgs (made : List (List Node) → Bool → Node) : List (List Node) → List (List Node)
  | [] => []
  | arg :: args => replaceAll made arg :: replaceArgs made args

end

section

variable {f : Node → Expansion} {made : List (List Node) → Bool → Node}
  {p : Text → List (List Node) → Bool → Prop}

/-- Whether a change keeps what stands inside a sum, and makes the given node of the sum. -/
def Makes (f : Node → Expansion) (made : List (List Node) → Bool → Node) (written : Text)
    (args : List (List Node)) (closed : Bool) : Prop :=
  expandArgs f args = (args, []) ∧ f (.call written args closed) = .of [made args closed]

mutual

theorem expand_eq_replace (others : ∀ n, summands? n = none → f n = .keep n) : ∀ {n : Node},
    (∀ m ∈ walk n, IfSum (Makes f made) m) → expand f n = .of [replace made n]
  | .leaf _, _ | .ref _, _ | .range _ _, _ => others _ rfl
  | .group body closed, makes => by
    rw [walk, List.forall_mem_cons] at makes
    simp only [expand, expandAll_eq_replaceAll others makes.2, Expansion.of,
      others (.group _ closed) rfl]
    rfl
  | .call written args closed, makes => by
    rw [walk, List.forall_mem_cons] at makes
    by_cases sum : Inline.key written = name
    · obtain ⟨inside, made⟩ := makes.1 sum
      simp only [expand, inside, made, replace, if_pos sum]
      rfl
    · have kept := others (.call written (replaceArgs made args) closed) (by simp [summands?, sum])
      simp only [expand, expandArgs_eq_replaceArgs others makes.2, kept, replace, if_neg sum]
      rfl

/-- A change that is about sums only, and does not touch what stands inside them, replaces them. -/
theorem expandAll_eq_replaceAll (others : ∀ n, summands? n = none → f n = .keep n) :
    ∀ {ns : List Node}, Every (Makes f made) ns → expandAll f ns = .of (replaceAll made ns)
  | [], _ => rfl
  | n :: ns, makes => by
    rw [Every, walkAll, List.forall_mem_append] at makes
    simp only [expandAll, expand_eq_replace others makes.1, expandAll_eq_replaceAll others makes.2]
    rfl

theorem expandArgs_eq_replaceArgs (others : ∀ n, summands? n = none → f n = .keep n) :
    ∀ {args : List (List Node)}, (∀ m ∈ walkArgs args, IfSum (Makes f made) m) →
      expandArgs f args = (replaceArgs made args, [])
  | [], _ => rfl
  | arg :: args, makes => by
    rw [walkArgs, List.forall_mem_append] at makes
    simp only [expandArgs, expandAll_eq_replaceAll others makes.1,
      expandArgs_eq_replaceArgs others makes.2]
    rfl

end

mutual

theorem every_replace : ∀ {n : Node},
    (∀ m ∈ walk n, IfSum (fun _ args closed => Every p [made args closed]) m) →
      ∀ m ∈ walk (replace made n), IfSum p m
  | .leaf _, _ | .ref _, _ | .range _ _, _ => by simp [replace, walk, IfSum]
  | .group body closed, each => by
    rw [walk, List.forall_mem_cons] at each
    rw [replace, walk, List.forall_mem_cons]
    exact ⟨trivial, every_replaceAll each.2⟩
  | .call written args closed, each => by
    rw [walk, List.forall_mem_cons] at each
    rw [replace]
    split
    · next sum => simpa [Every, walkAll] using each.1 sum
    · next other =>
      rw [walk, List.forall_mem_cons]
      exact ⟨fun sum => absurd sum other, every_replaceArgs each.2⟩

/-- The sums that are there after replacing are those in what was made. -/
theorem every_replaceAll : ∀ {ns : List Node},
    Every (fun _ args closed => Every p [made args closed]) ns → Every p (replaceAll made ns)
  | [], _ => by simp [Every, replaceAll, walkAll]
  | n :: ns, each => by
    rw [Every, walkAll, List.forall_mem_append] at each
    rw [Every, replaceAll, walkAll, List.forall_mem_append]
    exact ⟨every_replace each.1, every_replaceAll each.2⟩

theorem every_replaceArgs : ∀ {args : List (List Node)},
    (∀ m ∈ walkArgs args, IfSum (fun _ args closed => Every p [made args closed]) m) →
      ∀ m ∈ walkArgs (replaceArgs made args), IfSum p m
  | [], _ => by simp [replaceArgs, walkArgs]
  | arg :: args, each => by
    rw [walkArgs, List.forall_mem_append] at each
    rw [replaceArgs, walkArgs, List.forall_mem_append]
    exact ⟨every_replaceAll each.1, every_replaceArgs each.2⟩

end

end

/-! ## Sums have no sums inside -/

theorem summands?_of_solid {arg : List Node} {n m : Node} (single : solid arg = [n])
    (plain : n.isBracket = false) (inside : m ∈ walkAll arg) : summands? m = none := by
  rcases Node.mem_walkAll_of_solid single inside with space | within
  · cases m with
    | leaf t => rfl
    | _ => cases space
  · cases n with
    | group | call => cases plain
    | _ =>
      obtain rfl := List.mem_singleton.1 within
      rfl

/-- Whether arguments have no sum inside. -/
def NoSums (args : List (List Node)) : Prop := ∀ m ∈ walkArgs args, summands? m = none

theorem noSums_of_solid (single : ∀ arg ∈ args, ∃ n : Node, solid arg = [n] ∧ n.isBracket = false) :
    NoSums args := by
  intro m inside
  obtain ⟨arg, member, n, inArg, within⟩ := Node.mem_walkArgs.1 inside
  obtain ⟨k, alone, plain⟩ := single arg member
  exact summands?_of_solid alone plain (Node.mem_walkAll.2 ⟨n, inArg, within⟩)

theorem References.noSums (references : References args) : NoSums args :=
  noSums_of_solid fun arg member =>
    (references.2 arg member).elim fun r single => ⟨.ref r, single, rfl⟩

theorem Column.noSums (column : Column args refs) : NoSums args := by
  obtain ⟨single⟩ := column
  exact noSums_of_solid (by simpa using ⟨_, single, rfl⟩)

theorem ifSum_of_summands? {n : Node} (other : summands? n = none)
    (p : Text → List (List Node) → Bool → Prop) : IfSum p n := by
  cases n with
  | call written args closed =>
    intro sum
    simp [summands?, sum] at other
  | _ => trivial

theorem NoSums.expandArgs {f : Node → Expansion} (others : ∀ n, summands? n = none → f n = .keep n)
    (noSums : NoSums args) : expandArgs f args = (args, []) :=
  Node.expandArgs_of_keep fun m inside => others m (noSums m inside)

/-- What holds of every sum follows from what holds of each. -/
theorem Every.imp {p q : Text → List (List Node) → Bool → Prop} (every : Every p ns)
    (each : ∀ written args closed, .call written args closed ∈ walkAll ns →
      Inline.key written = name → p written args closed → q written args closed) : Every q ns := by
  intro n inside
  have holds := every n inside
  cases n with
  | call written args closed => exact fun sum => each _ _ _ inside sum (holds sum)
  | _ => trivial

/-! ## One fate for all sums -/

theorem rename_of_other {n : Node} (other : summands? n = none) : rename n = .keep n := by
  cases n with
  | call written args closed =>
    have differs : Inline.key written ≠ name := fun sum => by simp [summands?, sum] at other
    rw [rename, if_neg differs]
  | _ => rfl

theorem spellOut_of_other {n : Node} (other : summands? n = none) : spellOut n = .keep n := by
  simp [spellOut, other]

/-- In a group that adds cells there are references and plus signs, and so no sum. -/
theorem every_adding (refs : List Ref) (p : Text → List (List Node) → Bool → Prop) :
    Every p [adding refs] := by
  have terms : ∀ n ∈ joined (refs.map fun r => [.ref r]), walk n = [n] ∧ summands? n = none := by
    induction refs with
    | nil => simp [joined]
    | cons r refs ih =>
      cases refs with
      | nil => simp [joined, walk, summands?]
      | cons q refs =>
        rw [List.map_cons, List.map_cons, joined, List.intercalate_cons_cons,
          List.forall_mem_append, List.forall_mem_append]
        exact ⟨⟨by simp [walk, summands?], by simp [walk, summands?]⟩, ih⟩
  intro m inside
  rw [walkAll, walkAll, List.append_nil, adding, walk] at inside
  rcases List.mem_cons.1 inside with rfl | within
  · trivial
  · obtain ⟨n, member, within⟩ := Node.mem_walkAll.1 within
    obtain ⟨alone, other⟩ := terms n member
    rw [alone, List.mem_singleton] at within
    exact ifSum_of_summands? (within ▸ other) p

theorem expandAll_rename (all : AllReferences ns) : expandAll rename ns =
    .of (replaceAll (fun args closed => .call "sum" args closed) ns) := by
  refine expandAll_eq_replaceAll (fun n => rename_of_other) (all.imp ?_)
  intro written args closed _ sum references
  exact ⟨references.noSums.expandArgs fun n => rename_of_other, by rw [rename, if_pos sum]⟩

theorem expandAll_spellOut (formed : Every (fun _ args _ => FormedRanges args) ns)
    (all : AllColumns ns) : expandAll spellOut ns =
      .of (replaceAll (fun args _ => adding (covered args)) ns) := by
  refine expandAll_eq_replaceAll (fun n => spellOut_of_other) (all.imp ?_)
  rintro written args closed inside sum ⟨refs, column⟩
  refine ⟨column.noSums.expandArgs fun n => spellOut_of_other, ?_⟩
  have found := (columnRefs?_iff (formed _ inside sum)).2 column
  have isColumn : (summands? (.call written args closed)).bind columnRefs? = some refs := by
    simp [summands?, sum, found]
  obtain ⟨arg, a, b, summands, alone, rfl, -⟩ := columnRefs?_eq_some found
  have member : arg ∈ args := Node.mem_of_mem_arguments (by simp [summands])
  obtain ⟨first, last⟩ := formed _ inside sum arg member a b
    (Node.solid_of_range? (Node.range?_of_sole? alone))
  simp only [spellOut, isColumn]
  rw [parse_spell first last, column.covered_eq]

/-- All sums of a formula, by what holds of the arguments of each. -/
theorem all_sums_iff {q : List (List Node) → Bool} (sees : ∀ args, q (args.map Node.surfaces) = q args)
    (ns : List Node) : (sums ns).all q ↔ Every (fun _ args _ => q (arguments args)) ns := by
  rw [all_sums sees]
  constructor
  · intro all n inside
    cases n with
    | call written args closed =>
      intro sum
      have holds := all _ (Node.mem_callsAll.2 ⟨written, args, closed, inside, rfl⟩) sum
      rwa [Node.arguments_surfaces, sees] at holds
    | _ => trivial
  · intro every c member sum
    obtain ⟨written, args, closed, inside, rfl⟩ := Node.mem_callsAll.1 member
    rw [Node.arguments_surfaces, sees]
    exact every _ inside sum

theorem all_addsReferences_iff (ns : List Node) :
    (sums ns).all addsReferences ↔ AllReferences ns := by
  rw [all_sums_iff addsReferences_surfaces]
  exact ⟨fun all => all.imp fun _ _ _ _ _ => addsReferences_iff.1,
    fun all => all.imp fun _ _ _ _ _ => addsReferences_iff.2⟩

theorem all_columnRefs?_iff (formed : Every (fun _ args _ => FormedRanges args) ns) :
    ((sums ns).all fun args => (columnRefs? args).isSome) ↔ AllColumns ns := by
  rw [all_sums_iff fun args => by rw [columnRefs?_surfaces]]
  have same : ∀ written args closed, .call written args closed ∈ walkAll ns →
      Inline.key written = name →
        ((columnRefs? (arguments args)).isSome ↔ ∃ refs, Column args refs) := by
    intro written args closed inside sum
    rw [Option.isSome_iff_exists]
    exact exists_congr fun refs => columnRefs?_iff (formed _ inside sum)
  exact ⟨fun all => all.imp fun _ _ _ inside sum => (same _ _ _ inside sum).1,
    fun all => all.imp fun _ _ _ inside sum => (same _ _ _ inside sum).2⟩

/-- The ranges in the sums of a formula are written as ranges are. -/
theorem formedRanges_parse (formula : Text) :
    Every (fun _ args _ => FormedRanges args) (Parser.parse formula) := by
  intro n inside
  cases n with
  | call written args closed =>
    intro _ arg member a b single
    have range : Node.range a b ∈ arg := (List.mem_filter.1 (single ▸ List.mem_singleton_self _)).1
    have within : Node.range a b ∈ walk (.call written args closed) :=
      List.mem_cons_of_mem _ (Node.mem_walkArgs.2 ⟨arg, member, _, range, by simp [walk]⟩)
    obtain ⟨ts, suffix⟩ := Parser.exists_suffix_of_mem_parse inside
    have tokens : ∀ t ∈ Node.flat (.range a b), t ∈ Token.tokens formula := fun t member =>
      suffix.mem (List.mem_append_left _ ((Node.flat_infix_of_mem_walk within).subset member))
    exact ⟨Token.formed_of_mem_tokens (tokens (.ref a) (by simp [Node.flat])),
      Token.formed_of_mem_tokens (tokens (.ref b) (by simp [Node.flat]))⟩
  | _ => trivial

theorem inline_of_references (all : AllReferences ns) : inline ns = expandAll rename ns := by
  have adds := (all_addsReferences_iff ns).2 all
  unfold inline
  dsimp only
  split
  · next empty =>
    refine (Node.expandAll_of_keep fun n inside => rename_of_other ?_).symm
    exact List.filterMap_eq_nil_iff.1 empty n inside
  · rfl

theorem inline_of_others (others : ¬ AllReferences ns) : inline ns =
    if (sums ns).all fun args => (columnRefs? args).isSome then expandAll spellOut ns
    else ⟨ns, [name]⟩ := by
  have adds : ¬ (sums ns).all addsReferences := mt (all_addsReferences_iff ns).1 others
  have some_sum : sums ns ≠ [] := by
    intro empty
    rw [empty] at adds
    exact adds rfl
  simp only [inline, some_sum, adds, if_false]
  rfl

/-- The sums of a formula share one fate. If every sum adds references only, and at least one, all
of them get the dialect's own name and nothing else changes. Otherwise, if every sum adds a range
within one column that has cells, each of them is replaced by one closed group, which adds exactly
the cells of its column from top to bottom; nothing else changes, no sum is left, and none of another
kind is met on the way. Otherwise the formula stays as it is and the sums are reported once. So where
one sum stays under a name of its own, all of them do. -/
theorem inline_alike (formula : Text) :
    (AllReferences (Parser.parse formula) → inline (Parser.parse formula) =
      .of (replaceAll (fun args closed => .call "sum" args closed) (Parser.parse formula))) ∧
    (¬ AllReferences (Parser.parse formula) → AllColumns (Parser.parse formula) →
      inline (Parser.parse formula) =
        .of (replaceAll (fun args _ => adding (covered args)) (Parser.parse formula)) ∧
      Every (fun _ args _ => Column args (covered args)) (Parser.parse formula) ∧
      Every (fun _ _ _ => False) (inline (Parser.parse formula)).nodes ∧
      ∀ otherwise, expandAll (spellOutOr otherwise) (Parser.parse formula) =
        inline (Parser.parse formula)) ∧
    (¬ AllReferences (Parser.parse formula) → ¬ AllColumns (Parser.parse formula) →
      inline (Parser.parse formula) = ⟨Parser.parse formula, [name]⟩) ∧
    (¬ Every (fun written _ _ => written = "sum") (inline (Parser.parse formula)).nodes →
      inline (Parser.parse formula) = ⟨Parser.parse formula, [name]⟩) := by
  have formed := formedRanges_parse formula
  generalize Parser.parse formula = ns at formed
  have columns := all_columnRefs?_iff formed
  have renamed : AllReferences ns →
      inline ns = .of (replaceAll (fun args closed => .call "sum" args closed) ns) := fun all =>
    (inline_of_references all).trans (expandAll_rename all)
  have spelled : ¬ AllReferences ns → AllColumns ns → inline ns = expandAll spellOut ns :=
    fun others all => by rw [inline_of_others others, if_pos (columns.2 all)]
  have kept : ¬ AllReferences ns → ¬ AllColumns ns → inline ns = ⟨ns, [name]⟩ :=
    fun others mixed => by rw [inline_of_others others, if_neg (mt columns.1 mixed)]
  have none_left : ¬ AllReferences ns → AllColumns ns →
      Every (fun _ _ _ => False) (inline ns).nodes := by
    intro others all
    rw [spelled others all, expandAll_spellOut formed all]
    exact every_replaceAll (all.imp fun _ args _ _ _ _ => every_adding (covered args) _)
  refine ⟨renamed, fun others all => ⟨?_, ?_, none_left others all, fun otherwise => ?_⟩, kept, ?_⟩
  · rw [spelled others all, expandAll_spellOut formed all]
  · refine all.imp fun _ args _ _ _ ⟨refs, column⟩ => ?_
    rwa [column.covered_eq]
  · rw [spelled others all]
    exact expandAll_spellOutOr otherwise (spellable_of_sums (List.all_eq_true.1 (columns.2 all)))
  · intro named
    by_cases others : AllReferences ns
    · refine absurd ?_ named
      rw [renamed others]
      refine every_replaceAll (others.imp fun _ args closed _ _ references => ?_)
      rw [Every, walkAll, walkAll, List.append_nil, walk, List.forall_mem_cons]
      exact ⟨fun _ => rfl, fun m inside => ifSum_of_summands? (references.noSums m inside) _⟩
    · by_cases all : AllColumns ns
      · exact absurd ((none_left others all).imp fun _ _ _ _ _ => False.elim) named
      · exact kept others all

/-- Two sums over columns, one of them inside a call and the other inside a group, both of which are
never closed. -/
theorem inline_alike_nested :
    ¬ AllReferences (Parser.parse "=IF(sum( A1:A2 ),-(Sum('B''s'!C9:C10") ∧
    AllColumns (Parser.parse "=IF(sum( A1:A2 ),-(Sum('B''s'!C9:C10") ∧
    Node.textAll (inline (Parser.parse "=IF(sum( A1:A2 ),-(Sum('B''s'!C9:C10")).nodes =
      "=IF((A1+A2),-(('B''s'!C9+'B''s'!C10)" ∧
    (inline (Parser.parse "=IF(sum( A1:A2 ),-(Sum('B''s'!C9:C10")).unresolved = [] ∧
    Every (fun _ _ _ => False)
      (inline (Parser.parse "=IF(sum( A1:A2 ),-(Sum('B''s'!C9:C10")).nodes := by
  have tokens : Token.tokens "=IF(sum( A1:A2 ),-(Sum('B''s'!C9:C10" =
      [.op ['='], .func "IF", .lparen, .func "sum", .lparen, .space [' '],
        .ref ⟨none, "A1", "A1"⟩, .colon, .ref ⟨none, "A2", "A2"⟩, .space [' '], .rparen, .comma,
        .op ['-'], .lparen, .func "Sum", .lparen, .ref ⟨some "B's", "C9", "'B''s'!C9"⟩, .colon,
        .ref ⟨none, "C10", "C10"⟩] := by
    decide +kernel
  have parsed : Parser.parse "=IF(sum( A1:A2 ),-(Sum('B''s'!C9:C10" =
      [.leaf (.op ['=']), .call "IF"
        [[.call "sum" [[.leaf (.space [' ']), .range ⟨none, "A1", "A1"⟩ ⟨none, "A2", "A2"⟩,
            .leaf (.space [' '])]] true],
          [.leaf (.op ['-']), .group [.call "Sum" [[.range ⟨some "B's", "C9", "'B''s'!C9"⟩
            ⟨none, "C10", "C10"⟩]] false] false]] false] := by
    rw [Parser.parse, tokens]
    rfl
  have others : ¬ AllReferences (Parser.parse "=IF(sum( A1:A2 ),-(Sum('B''s'!C9:C10") := by
    rw [parsed]
    intro all
    have inside := all (.call "Sum" [[.range ⟨some "B's", "C9", "'B''s'!C9"⟩
      ⟨none, "C10", "C10"⟩]] false) (by simp [walkAll, walk, walkArgs]) (by decide)
    obtain ⟨r, single⟩ := inside.2 [.range ⟨some "B's", "C9", "'B''s'!C9"⟩ ⟨none, "C10", "C10"⟩]
      (List.mem_singleton_self _)
    cases single
  have columns : AllColumns (Parser.parse "=IF(sum( A1:A2 ),-(Sum('B''s'!C9:C10") := by
    have letter : ∀ c : Char, c.isUpper → Ref.IsColumn [c] := fun c capital =>
      ⟨by simp, by simp, by simpa using capital⟩
    have digits : ∀ row : Text, row ≠ [] ∧ row.all Char.isDigit → Ref.IsRow row :=
      fun row shape => ⟨shape.1, List.all_eq_true.1 shape.2⟩
    rw [parsed]
    simp only [AllColumns, Every, walkAll, walk, walkArgs, List.append_nil, List.cons_append,
      List.nil_append, List.forall_mem_cons, List.not_mem_nil, false_imp_iff, implies_true, and_true]
    refine ⟨trivial, fun sum => absurd sum (by decide), fun _ => ⟨_, .intro rfl (letter 'A' rfl) rfl
      (digits "1" (by decide)) rfl (digits "2" (by decide)) (by decide +kernel)⟩, trivial, trivial,
      trivial, trivial, trivial, fun _ => ⟨_, .intro rfl (letter 'C' rfl) rfl
        (digits "9" (by decide)) rfl (digits "10" (by decide)) (by decide +kernel)⟩, trivial⟩
  obtain ⟨whole, -, none_left, -⟩ := (inline_alike _).2.1 others columns
  refine ⟨others, columns, ?_, ?_, none_left⟩
  · rw [whole, parsed]
    decide +kernel
  · rw [whole]
    rfl

end Sum
end CellGraph
