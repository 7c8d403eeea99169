import CellGraph.Grid.Reading
import CellGraph.Proofs.Diagram.Dependencies
import CellGraph.Proofs.Parsing.Mapped

/-!
# Dollar signs of formulas

The formula of a cell is read without its dollar signs, wherever they stand. Where dollar signs
stand in references and literals only, the tree that is converted means what the formula means
exactly if no literal and no sheet name has a dollar sign and none parts a word from an address
that would continue it (`ofCell_marked`); its references are then written without dollar signs and
nothing else is changed. All other dollar signs change the formula (`ofCell_dollars_lost`).
-/

namespace CellGraph

open Text (without)
open Node (mapAll)

/-! ## Trees apart from how references are written -/

/-- What a reference means, apart from how it is written. -/
def Ref.unwritten (r : Ref) : Ref := ⟨r.sheet, r.address, []⟩

/-- Nodes apart from how their references are written: their shape, all other tokens, and the
sheet and the address of each reference. -/
def Node.unwrittenAll (ns : List Node) : List Node := mapAll (.refs Ref.unwritten) ns

/-- A reference is written in one way without dollar signs, in front of whatever follows. -/
theorem Ref.text_eq_of_unwritten {r s : Ref} (formed : r.Formed) (formed' : s.Formed)
    (free : '$' ∉ s.text) (same : s.unwritten = r.unwritten) {t u : Text}
    (text : s.text ++ t = without '$' r.text ++ u) : s.text = without '$' r.text := by
  have plain : ∀ {written address : Text}, IsAddress written address → '$' ∉ written →
      written = address := fun shape free => by
    rw [← shape.without, Text.without_of_not_mem free]
  obtain ⟨sheets, addresses⟩ : s.sheet = r.sheet ∧ s.address = r.address := by
    simpa [unwritten] using same
  cases formed with
  | here shape =>
    cases formed' with
    | here shape' => exact (plain shape' free).trans (addresses.trans shape.without.symm)
    | there => cases sheets
  | @there name nameText written address named shape =>
    cases formed' with
    | here => cases sheets
    | @there name' nameText' written' address' named' shape' =>
      obtain rfl : name' = name := Option.some.inj sheets
      obtain rfl : address' = address := addresses
      have free' : '$' ∉ nameText' ∧ '$' ∉ written' := by simpa using free
      have plainText : '$' ∉ nameText := fun dollar =>
        free'.1 ((named'.mem_iff (by decide)).2 ((named.mem_iff (by decide)).1 dollar))
      rw [Text.without_append, Text.without_of_not_mem plainText, Text.without_cons (by decide),
        shape.without] at text ⊢
      rw [List.append_assoc, List.append_assoc] at text
      rw [named'.eq_of_append named text, plain shape' free'.2]

namespace Token

variable {formula : Text}

theorem name_of_mem_tokens {w : Text} (member : .name w ∈ tokens formula) : '$' ∉ w := by
  fun_induction tokens formula with
  | case1 => simp at member
  | case2 c t ih =>
    rcases List.mem_cons.1 member with same | later
    · obtain ⟨-, -, ⟨l, rest, -, read⟩ | ⟨-, read⟩⟩ :=
        next_cases (c := c) (t := t) (by simp [← same]) (by simp [← same])
      · rw [read] at same
        cases same
      · rw [read] at same
        obtain ⟨start, rfl, -, -⟩ := nextPlain_name (Prod.ext same.symm rfl)
        intro dollar
        rcases List.mem_cons.1 dollar with rfl | inside
        · exact absurd start (by decide)
        · exact absurd (Text.takeWhile_inside _ _ inside) (by decide)
    · exact ih later

/-- Apart from literals, references and characters that stand for themselves, no token of
a formula has a dollar sign. -/
theorem marks_of_mem_tokens (addressed : .other '$' ∉ tokens formula)
    (literals : ∀ t, .string t ∈ tokens formula → '$' ∉ t)
    (sheets : ∀ r name, .ref r ∈ tokens formula → r.sheet = some name → '$' ∉ name)
    {t : Token} (member : t ∈ tokens formula) : t.Marks := by
  cases t with
  | string w => exact literals w member
  | ref r => exact fun name named => sheets r name member named
  | name w => exact name_of_mem_tokens member
  | other c =>
    intro dollar
    obtain rfl : '$' = c := List.mem_singleton.1 dollar
    exact addressed member
  | number w =>
    obtain ⟨l, formed, rfl⟩ := whole_of_mem_tokens member rfl (by simp)
    exact formed.not_mem (by decide)
  | func w =>
    obtain ⟨c, u, rfl, start, bare⟩ := whole_of_mem_tokens member rfl (by simp)
    exact fun dollar => absurd (bare_word start bare _ dollar) (by decide)
  | op w =>
    have whole := whole_of_mem_tokens member rfl (by simp)
    exact fun dollar => (plain_of_mem_op whole dollar).noMark rfl
  | space w =>
    have whole := whole_of_mem_tokens member rfl (by simp)
    exact fun dollar => (plain_of_isBlank (whole.2 _ dollar)).noMark rfl
  | lparen | rparen | comma | colon => exact fun dollar => absurd dollar (by decide)

theorem eq_of_map_refs {f : Ref → Ref} {t u : Token} (same : t.map (.refs f) = u)
    (noRef : ∀ r, u ≠ .ref r) : t = u := by
  cases t with
  | ref r => exact absurd same.symm (noRef _)
  | _ => exact same

/-- Tokens without dollar signs that mean what given tokens mean are these tokens, with their
references written without dollar signs, if they make up the same text without dollar signs. -/
theorem eq_map_unmarked {ts us : List Token} (text : texts us = without '$' (texts ts))
    (same : us.map (map (.refs Ref.unwritten)) = ts.map (map (.refs Ref.unwritten)))
    (formed : ∀ r, .ref r ∈ ts → r.Formed) (marks : ∀ t ∈ ts, t.Marks)
    (clean : ∀ u ∈ us, u.Clean) : us = ts.map unmarked := by
  induction ts generalizing us with
  | nil => simpa using same
  | cons t ts ih =>
    obtain ⟨u, us, rfl, first, rest⟩ := List.map_eq_cons_iff.1 same
    have marksFirst := marks t (by simp)
    rw [texts_cons, texts_cons, Text.without_append, ← text_unmarked marksFirst] at text
    have head : u = t.unmarked := by
      cases t with
      | ref r =>
        obtain ⟨s, rfl, unwritten⟩ := exists_of_map first
        replace unwritten : s.unwritten = r.unwritten := unwritten
        obtain ⟨formed', free⟩ := clean (.ref s) (by simp)
        have written := Ref.text_eq_of_unwritten (formed r (by simp)) formed' free unwritten text
        obtain ⟨sheets, addresses⟩ : s.sheet = r.sheet ∧ s.address = r.address := by
          simpa [Ref.unwritten] using unwritten
        change Token.ref ⟨s.sheet, s.address, s.text⟩ = .ref ⟨r.sheet, r.address, _⟩
        rw [sheets, addresses, written]
      | _ => exact eq_of_map_refs first (by simp [unmarked, map])
    subst head
    rw [List.map_cons, ih (List.append_cancel_left text) rest
      (fun r member => formed r (by simp [member])) (fun t member => marks t (by simp [member]))
      (fun u member => clean u (by simp [member]))]

end Token

namespace Parser

variable {formula : Text}

/-- If the tree of a formula means the same without dollar signs, no literal and no sheet name has
one. -/
theorem free_of_unwrittenAll (same : Node.unwrittenAll (parse (without '$' formula)) =
    Node.unwrittenAll (parse formula)) :
    (∀ t, .string t ∈ Token.tokens formula → '$' ∉ t) ∧
    ∀ r name, .ref r ∈ Token.tokens formula → r.sheet = some name → '$' ∉ name := by
  have tokens := congrArg Node.flatAll same
  simp only [Node.unwrittenAll, Node.flatAll_mapAll, flatAll_parse] at tokens
  have kept : ∀ t ∈ Token.tokens formula, ∃ u ∈ Token.tokens (without '$' formula),
      u.map (.refs Ref.unwritten) = t.map (.refs Ref.unwritten) := fun t member =>
    List.mem_map.1 (tokens ▸ List.mem_map_of_mem member)
  have free : ∀ u ∈ Token.tokens (without '$' formula), u.Clean := fun u member =>
    Token.clean_of_mem_tokens (Text.not_mem_without '$' formula) member
  constructor
  · intro t member
    obtain ⟨u, inTree, equal⟩ := kept _ member
    obtain rfl := Token.eq_of_map_refs equal (by simp [Token.map])
    exact free _ inTree
  · intro r name member named
    obtain ⟨u, inTree, equal⟩ := kept _ member
    obtain ⟨s, rfl, unwritten⟩ := Token.exists_of_map equal
    obtain ⟨sheets, -⟩ : s.sheet = r.sheet ∧ s.address = r.address := by
      simpa [Ref.unwritten] using unwritten
    have clean := free _ inTree
    exact clean.1.not_mem_sheet clean.2 name (sheets.trans named)

/-- If the tree of a formula means the same without dollar signs, none of them parts a word from an
address that would continue it. -/
theorem parted_of_unwrittenAll (marks : ∀ t ∈ Token.tokens formula, t.Marks)
    (same : Node.unwrittenAll (parse (without '$' formula)) = Node.unwrittenAll (parse formula)) :
    (Token.tokens formula).IsChain Token.Parted := by
  have tokens := congrArg Node.flatAll same
  simp only [Node.unwrittenAll, Node.flatAll_mapAll, flatAll_parse] at tokens
  refine Token.parted_of_tokens_without (Token.eq_map_unmarked ?_ tokens
    (fun r member => Token.formed_of_mem_tokens member) marks
    (fun u member => Token.clean_of_mem_tokens (Text.not_mem_without '$' formula) member))
  rw [Token.texts_tokens, Token.texts_tokens]

end Parser

namespace CellFormula

/-- What a tree is converted to in a cell of a sheet. -/
def ofTree (k : SheetKeys) (current : Text) (ns : List Node) :
    Except NumberError Dialect.Converted := do
  let converted ← Dialect.convertTree ns
  return ⟨k.writeTree current converted.nodes, converted.unresolved⟩

theorem ofCell_eq_ofTree {k : SheetKeys} {c : BookCell} {formula : Text}
    (given : c.formula = some formula) (some_char : formula ≠ [])
    (noLink : isLink formula = false) : ofCell k c = ofTree k c.sheet (tree formula) := by
  obtain ⟨d, t, rfl⟩ := List.exists_cons_of_ne_nil some_char
  simp only [ofCell, given, noLink]
  rfl

/-- Dropping the dollar signs of a formula before it is read, if all of them stand in references and
literals. The tree that is converted means what the tree of the formula means exactly if no literal
and no sheet name has a dollar sign and none parts a word from an address that would continue it;
it is then that tree with its references written without dollar signs. -/
theorem ofCell_marked (k : SheetKeys) {c : BookCell} {formula : Text}
    (given : c.formula = some formula) (some_char : formula ≠ [])
    (noLink : isLink formula = false) (addressed : .other '$' ∉ Token.tokens ('=' :: formula)) :
    ofCell k c = ofTree k c.sheet (tree formula) ∧
    (Node.unwrittenAll (tree formula) = Node.unwrittenAll (Parser.parse ('=' :: formula)) ↔
      (∀ t, .string t ∈ Token.tokens ('=' :: formula) → '$' ∉ t) ∧
      (∀ r name, .ref r ∈ Token.tokens ('=' :: formula) → r.sheet = some name → '$' ∉ name) ∧
      (Token.tokens ('=' :: formula)).IsChain Token.Parted) ∧
    (Node.unwrittenAll (tree formula) = Node.unwrittenAll (Parser.parse ('=' :: formula)) →
      tree formula = mapAll (.refs Ref.unmarked) (Parser.parse ('=' :: formula))) := by
  have marked_of_same : Node.unwrittenAll (tree formula) =
      Node.unwrittenAll (Parser.parse ('=' :: formula)) →
        Token.Marked (Token.tokens ('=' :: formula)) := by
    intro same
    obtain ⟨literals, sheets⟩ := Parser.free_of_unwrittenAll same
    have marks : ∀ t ∈ Token.tokens ('=' :: formula), t.Marks := fun t member =>
      Token.marks_of_mem_tokens addressed literals sheets member
    exact ⟨marks, Parser.parted_of_unwrittenAll marks same⟩
  refine ⟨ofCell_eq_ofTree given some_char noLink, ⟨fun same => ?_, ?_⟩,
    fun same => Parser.parse_without (marked_of_same same)⟩
  · obtain ⟨literals, sheets⟩ := Parser.free_of_unwrittenAll same
    exact ⟨literals, sheets, (marked_of_same same).parted⟩
  · rintro ⟨literals, sheets, parted⟩
    have unmarked : tree formula = mapAll (.refs Ref.unmarked) (Parser.parse ('=' :: formula)) :=
      Parser.parse_without
        ⟨fun t member => Token.marks_of_mem_tokens addressed literals sheets member, parted⟩
    rw [unmarked]
    exact Node.mapAll_mapAll _

/-- A formula with dollar signs in a qualified address and in a range, and none elsewhere. -/
theorem ofCell_marked_addresses :
    let k : SheetKeys := ⟨["Main", "x y"]⟩
    let formula : Text := "'x y'!$A$1&\"US\"&SUM($B$1:B$3)"
    let unmarked := mapAll (.refs Ref.unmarked) (Parser.parse ('=' :: formula))
    tree formula = unmarked ∧
      ofCell k ⟨"Main", "C3", 3, 3, .blank, some formula, true⟩ = ofTree k "Main" unmarked := by
  intro k formula unmarked
  have all : ∀ t ∈ Token.tokens ('=' :: formula), t.Marks := by decide +kernel
  obtain ⟨ofCell_eq, free, kept⟩ :=
    ofCell_marked k (c := ⟨"Main", "C3", 3, 3, .blank, some formula, true⟩) rfl (by decide)
      (by decide) (by decide +kernel)
  have same : tree formula = unmarked := kept (free.2
    ⟨fun t member => all _ member, fun r name member named => all _ member name named,
      by decide +kernel⟩)
  exact ⟨same, same ▸ ofCell_eq⟩

/-- The dollar signs of a literal and of a quoted sheet name are lost, so that the sheet is not
found, and two addresses that a dollar sign parts become one name. -/
theorem ofCell_dollars_lost :
    let k : SheetKeys := ⟨["Main", "US$"]⟩
    let cell (formula : Text) : BookCell := ⟨"Main", "C3", 3, 3, .blank, some formula, true⟩
    (∀ formula ∈ (["\"US$ \"&B1", "'US$'!A1", "A1$B$2"] : List Text),
      .other '$' ∉ Token.tokens ('=' :: formula) ∧
      Node.unwrittenAll (tree formula) ≠ Node.unwrittenAll (Parser.parse ('=' :: formula))) ∧
    ofCell k (cell "\"US$ \"&B1") = .ok ⟨"=\"US \"&$\x7bmetric:Main!B1\x7d", []⟩ ∧
    ofCell k (cell "'US$'!A1") = .ok ⟨"='US'!A1", []⟩ ∧
    ofCell k (cell "A1$B$2") = .ok ⟨"=A1B2", []⟩ := by
  intro k cell
  refine ⟨fun formula member => ?_, by decide +kernel⟩
  have differ : ∀ formula ∈ (["\"US$ \"&B1", "'US$'!A1", "A1$B$2"] : List Text),
      .other '$' ∉ Token.tokens ('=' :: formula) ∧
      Node.flatAll (Node.unwrittenAll (tree formula)) ≠
        Node.flatAll (Node.unwrittenAll (Parser.parse ('=' :: formula))) := by
    decide +kernel
  exact ⟨(differ formula member).1,
    fun same => (differ formula member).2 (congrArg Node.flatAll same)⟩

end CellFormula
end CellGraph
