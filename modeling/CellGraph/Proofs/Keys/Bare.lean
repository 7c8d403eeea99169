import CellGraph.Proofs.Keys.Collisions
import CellGraph.Proofs.Parsing.Lossless

/-!
# Names without quotes

A spreadsheet writes a sheet name that is one word without quotes, whatever its script. Such
a reference becomes the placeholder of its cell exactly if the word is of ASCII characters
(`write_bare_iff`): a character outside ASCII is no part of a bare name, nor of a key, so it
stays in the text. What stands behind it may then be taken for a reference to another sheet
(`write_bare_misread`).
-/

namespace CellGraph

/-! ## Characters outside ASCII -/

namespace Text

/-- Whether all characters of a text are ASCII characters. -/
def IsAscii (t : Text) : Prop := ∀ c ∈ t, c.toNat < 128

theorem isAscii_of_all {t : Text} (all : t.all (·.toNat < 128)) : IsAscii t := by
  simpa [IsAscii] using all

theorem isAscii_append {t u : Text} : IsAscii (t ++ u) ↔ IsAscii t ∧ IsAscii u := by
  simp only [IsAscii, List.mem_append, or_imp, forall_and]

theorem toNat_lt_of_isWordChar {c : Char} (word : isWordChar c) : c.toNat < 128 := by
  rw [isWordChar_iff, isAlpha_iff, isUpper_iff, isLower_iff, isDigit_iff] at word
  rcases word with letter | digit | rfl
  · omega
  · omega
  · decide

end Text

open Text (IsAscii isAscii_append isAscii_of_all toNat_lt_of_isWordChar)

theorem SheetName.isAscii_of_isBare {name : Text} (bare : isBare name) : IsAscii name := by
  intro c member
  cases name with
  | nil => cases bare
  | cons d name =>
    simp only [isBare, Bool.and_eq_true, List.all_eq_true] at bare
    rcases List.mem_cons.1 member with rfl | inside
    · exact toNat_lt_of_isWordChar bare.1
    · have bareChar := bare.2 c inside
      simp only [isBareChar, Bool.or_eq_true, beq_iff_eq] at bareChar
      rcases bareChar with word | rfl
      · exact toNat_lt_of_isWordChar word
      · decide

namespace Ref

theorem IsAddress.isAscii {written address : Text} (shape : IsAddress written address) :
    IsAscii written ∧ IsAscii address := by
  have word : ∀ {c : Char}, c.isUpper ∨ c.isDigit → c.toNat < 128 := by
    rintro c (capital | digit)
    · exact toNat_lt_of_isWordChar (Text.isWordChar_of_isUpper capital)
    · exact toNat_lt_of_isWordChar (Text.isWordChar_of_isDigit digit)
  refine ⟨fun c member => ?_, fun c member => word (shape.mem_address member)⟩
  rcases shape.mem_written member with rfl | letterOrDigit
  · decide
  · exact word letterOrDigit

/-- Only a quoted sheet name brings other characters into a reference. -/
theorem Formed.isAscii {r : Ref} (formed : r.Formed) (unquoted : '\'' ∉ r.text) :
    IsAscii r.text := by
  cases formed with
  | here shape => exact shape.isAscii.1
  | there sheet shape =>
    cases sheet with
    | bare plain =>
      refine isAscii_append.2 ⟨SheetName.isAscii_of_isBare plain, ?_⟩
      simpa [IsAscii] using shape.isAscii.1
    | quoted => simp at unquoted

end Ref

/-! ## What stays in a text -/

namespace Node

variable {ref : Ref → Text} {range : Ref → Ref → Text} {d : Char}

mutual

/-- However references and ranges are written, all other characters of a tree stay. -/
theorem mem_write (other : d ∉ [':', '(', ')', ',']) : ∀ {n : Node},
    (∀ r, .ref r ∈ flat n → d ∉ r.text) → d ∈ n.text → d ∈ n.write ref range
  | .leaf _, _, member => member
  | .ref r, free, member => absurd member (free r (by simp [flat]))
  | .range a b, free, member => by
    have outside := And.intro (free a (by simp [flat])) (free b (by simp [flat]))
    simp only [List.mem_cons, not_or] at other
    simp [text, write, rangeText, outside, other.1] at member
  | .group body closed, free, member => by
    have inside := @mem_writeAll other body fun r inBody => free r (by simp [flat, inBody])
    simp only [text, write, List.cons_append, List.mem_cons, List.mem_append] at member ⊢
    exact member.imp_right (Or.imp_left inside)
  | .call name args closed, free, member => by
    have inside := @mem_writeArgs other args fun r inArgs => free r (by simp [flat, inArgs])
    simp only [text, write, List.append_assoc, List.cons_append, List.mem_cons,
      List.mem_append] at member ⊢
    exact member.imp_right (Or.imp_right (Or.imp_left inside))

theorem mem_writeAll (other : d ∉ [':', '(', ')', ',']) : ∀ {ns : List Node},
    (∀ r, .ref r ∈ flatAll ns → d ∉ r.text) → d ∈ textAll ns → d ∈ writeAll ref range ns
  | [], _, member => member
  | n :: ns, free, member => by
    have first := @mem_write other n fun r inFirst => free r (by simp [flatAll, inFirst])
    have rest := @mem_writeAll other ns fun r inRest => free r (by simp [flatAll, inRest])
    rw [textAll, writeAll, List.mem_append] at member
    rw [writeAll, List.mem_append]
    exact member.imp first rest

theorem mem_writeArgs (other : d ∉ [':', '(', ')', ',']) : ∀ {args : List (List Node)},
    (∀ r, .ref r ∈ flatArgs args → d ∉ r.text) → d ∈ writeArgs Ref.text rangeText args →
      d ∈ writeArgs ref range args
  | [], _, member => member
  | [_], free, member => mem_writeAll other free member
  | arg :: next :: args, free, member => by
    have first := @mem_writeAll other arg fun r inFirst => free r (by simp [flatArgs, inFirst])
    have rest := @mem_writeArgs other (next :: args) fun r inRest =>
      free r (by simp [flatArgs, inRest])
    rw [writeArgs.eq_3 _ _ _ _ (by simp), List.mem_append, List.mem_cons] at member ⊢
    exact member.imp first (Or.imp_right rest)

end

end Node

namespace SheetKeys

variable {k : SheetKeys} {current sheet written address : Text}

/-- A character outside ASCII stays in a formula without quotes. -/
theorem mem_write_of_not_ascii {formula : Text} {d : Char} (unquoted : '\'' ∉ formula)
    (outside : 128 ≤ d.toNat) (member : d ∈ formula) : d ∈ k.write current formula := by
  have other : d ∉ [':', '(', ')', ','] := by
    intro listed
    simp only [List.mem_cons, List.not_mem_nil, or_false] at listed
    rcases listed with rfl | rfl | rfl | rfl <;> exact absurd outside (by decide)
  refine Node.mem_writeAll other (fun r inTree inRef => ?_) (by rwa [Parser.textAll_parse])
  rw [Parser.flatAll_parse] at inTree
  have inFormula : r.text ⊆ formula := by
    intro c inText
    rw [← Token.texts_tokens formula]
    exact List.mem_flatMap.2 ⟨.ref r, inTree, inText⟩
  have ascii := (Token.formed_of_mem_tokens inTree).isAscii fun quote => unquoted (inFormula quote)
  exact absurd (ascii d inRef) (by omega)

/-- The keys of cells are ASCII, whatever the names of their sheets. -/
theorem isAscii_keyAt (ascii : IsAscii address) : IsAscii (k.keyAt address sheet) := by
  have named : ∀ name, IsAscii (ofName name) := by
    intro name
    refine isAscii_append.2 ⟨fun c member => ?_, by simp [IsAscii]⟩
    exact toNat_lt_of_isWordChar (List.mem_filter.1 member).2
  unfold keyAt
  split
  · refine isAscii_append.2 ⟨?_, ascii⟩
    cases found : k.find? sheet with
    | none => exact named sheet
    | some key =>
      obtain ⟨n, -, rfl⟩ := Option.map_eq_some_iff.1 found
      exact named n
  · exact ascii

theorem isAscii_placeholder {key : Text} (ascii : IsAscii key) : IsAscii (placeholder key) := by
  have opening : IsAscii "$\x7bmetric:" := isAscii_of_all (by decide)
  have closing : IsAscii "\x7d" := isAscii_of_all (by decide)
  exact isAscii_append.2 ⟨isAscii_append.2 ⟨opening, ascii⟩, closing⟩

/-- One word of any script: ASCII letters, digits and underscores, and characters outside ASCII. -/
structure IsWord (name : Text) : Prop where
  some_char : name ≠ []
  word : ∀ c ∈ name, Text.isWordChar c ∨ 128 ≤ c.toNat

theorem isWord_of_all {name : Text} (some_char : name ≠ [])
    (all : name.all fun c => Text.isWordChar c || decide (128 ≤ c.toNat)) : IsWord name :=
  ⟨some_char, by simpa using all⟩

/-- A word of ASCII characters is a bare sheet name. -/
theorem IsWord.isBare (word : IsWord sheet) (plain : ∀ c ∈ sheet, Text.isWordChar c) :
    SheetName.isBare sheet := by
  cases sheet with
  | nil => exact absurd rfl word.some_char
  | cons c sheet =>
    simp only [List.mem_cons, forall_eq_or_imp] at plain
    simp only [SheetName.isBare, Bool.and_eq_true, List.all_eq_true]
    exact ⟨plain.1, fun d member => by simp [SheetName.isBareChar, plain.2 d member]⟩

theorem IsWord.not_mem_quote (word : IsWord sheet) : '\'' ∉ sheet := by
  intro member
  rcases word.word _ member with isWord | outside
  · exact absurd isWord (by decide)
  · exact absurd outside (by decide)

/-- A reference whose sheet name is one word without quotes becomes the placeholder of the cell
that it names exactly if that word is of ASCII letters, digits and underscores. -/
theorem write_bare_iff (k : SheetKeys) (known : sheet ∈ k.names) (word : IsWord sheet)
    (shape : Ref.IsAddress written address) :
    k.write current (sheet ++ '!' :: written) = placeholder (k.keyAt address sheet) ↔
      ∀ c ∈ sheet, Text.isWordChar c := by
  constructor
  · intro right c member
    by_contra foreign
    have outside := (word.word c member).resolve_left foreign
    have unquoted : '\'' ∉ sheet ++ '!' :: written := by
      have inAddress : '\'' ∉ written := fun quote => by
        rcases shape.mem_written quote with isMarker | capital | digit
        · exact absurd isMarker (by decide)
        · exact absurd capital (by decide)
        · exact absurd digit (by decide)
      simpa [word.not_mem_quote] using inAddress
    have stays : c ∈ k.write current (sheet ++ '!' :: written) :=
      mem_write_of_not_ascii unquoted outside (List.mem_append_left _ member)
    rw [right] at stays
    have ascii : IsAscii (k.keyAt address sheet) := isAscii_keyAt shape.isAscii.2
    exact absurd (isAscii_placeholder ascii c stays) (by omega)
  · intro plain
    exact write_text_ref (.there (.bare (word.isBare plain)) shape)
      (resolve?_there known rfl word.some_char address _)

/-- Two sheets with names of one word, one of them in another script. -/
theorem write_bare_two_scripts :
    ((⟨["Q1_Plan", "Données"]⟩ : SheetKeys).write "Données" ("Q1_Plan" ++ '!' :: "$B2") =
        placeholder ((⟨["Q1_Plan", "Données"]⟩ : SheetKeys).keyAt "B2" "Q1_Plan") ↔
      ∀ c ∈ ("Q1_Plan" : Text), Text.isWordChar c) ∧
    ((⟨["Q1_Plan", "Données"]⟩ : SheetKeys).write "Q1_Plan" ("Données" ++ '!' :: "$B2") =
        placeholder ((⟨["Q1_Plan", "Données"]⟩ : SheetKeys).keyAt "B2" "Données") ↔
      ∀ c ∈ ("Données" : Text), Text.isWordChar c) := by
  have shape : Ref.IsAddress "$B2" "B2" := @Ref.IsAddress.intro ['$'] ['B'] [] ['2'] (.inr rfl)
    ⟨by decide, by decide, List.all_eq_true.1 rfl⟩ (.inl rfl) ⟨by decide, List.all_eq_true.1 rfl⟩
  exact ⟨write_bare_iff _ (by decide) (isWord_of_all (by decide) (by decide)) shape,
    write_bare_iff _ (by decide) (isWord_of_all (by decide) (by decide)) shape⟩

/-- A name outside ASCII is left in front of a cell of the current sheet, and one with such a
character inside is left in front of a cell of a third sheet. -/
theorem write_bare_misread :
    (⟨["Main", "日本"]⟩ : SheetKeys).write "Main" "日本!A1" = "日本!$\x7bmetric:Main!A1\x7d" ∧
    (⟨["Main", "aéb", "b"]⟩ : SheetKeys).write "Main" "aéb!A1" = "aé$\x7bmetric:b!A1\x7d" ∧
    (⟨["Main", "aéb", "b"]⟩ : SheetKeys).write "Main" "aéb!A1" ≠
      placeholder ((⟨["Main", "aéb", "b"]⟩ : SheetKeys).keyAt "A1" "aéb") := by
  decide +kernel

end SheetKeys
end CellGraph
