import CellGraph.Proofs.Keys.Placeholders
import CellGraph.Proofs.Keys.Ranges

/-!
# References to other workbooks

A reference to another workbook has the number of the book between brackets in front of the name
of the sheet. In quotes the brackets belong to the name, no sheet of the workbook has it, and the
reference stays as it is. Without quotes they are characters by themselves, and the rest is
a reference like any other: it becomes a placeholder if the workbook has a sheet of that name
(`write_external`).
-/

namespace CellGraph

/-! ## Case folding -/

namespace Text

theorem ofNat_eq_bracket {n : Nat} (same : Char.ofNat n = '[') : n = 91 := by
  by_cases valid : n.isValidChar
  · have code : (Char.ofNat n).toNat = n := congrArg Char.toNat (dif_pos valid)
    rw [same] at code
    exact code.symm
  · have nothing : Char.ofNat n = '\x00' := dif_neg valid
    rw [same] at nothing
    exact absurd nothing (by decide)

theorem foldExpansions_no_bracket : ∀ entry ∈ foldExpansions, 91 ∉ entry.2 := by decide

theorem foldRuns_no_bracket : ∀ entry ∈ foldRuns, 128 ≤ 91 - entry.2.2.2 →
    91 - entry.2.2.2 < entry.1 ∨ entry.2.1 < 91 - entry.2.2.2 := by decide +kernel

/-- Only an opening bracket folds to one. -/
theorem eq_of_bracket_mem_foldChar {c : Char} (member : '[' ∈ foldChar c) : c = '[' := by
  unfold foldChar at member
  dsimp only at member
  split at member
  · next small =>
    have checked : ∀ c : Char, c.toNat < 0x80 → '[' ∈ [c.toLower] → c = '[' :=
      Text.forall_of_lt (by decide)
    exact checked c small member
  · next large =>
    split at member
    · next codes found =>
      obtain ⟨before, behind, table, -⟩ := List.lookup_eq_some_iff.1 found
      obtain ⟨code, inCodes, same⟩ := List.mem_map.1 member
      have noBracket := foldExpansions_no_bracket (c.toNat, codes) (by simp [table])
      exact absurd (ofNat_eq_bracket same ▸ inCodes) noBracket
    · split at member
      · next first last step distance found =>
        have inRuns := List.mem_of_find?_eq_some found
        have inRun := List.find?_some found
        have folded := ofNat_eq_bracket (List.mem_singleton.1 member).symm
        have noBracket := foldRuns_no_bracket _ inRuns
        simp only [Bool.and_eq_true, decide_eq_true_eq] at inRun noBracket
        omega
      · exact (List.mem_singleton.1 member).symm

theorem bracket_mem_foldCase {t : Text} : '[' ∈ foldCase t ↔ '[' ∈ t := by
  rw [foldCase, List.mem_flatMap]
  constructor
  · rintro ⟨c, member, folded⟩
    exact eq_of_bracket_mem_foldChar folded ▸ member
  · intro member
    exact ⟨'[', member, by decide⟩

end Text

/-! ## Tokens -/

namespace Token

/-- The tokens behind a place are those of the text behind it. -/
theorem tokens_texts_of_append {formula : Text} {ts us : List Token}
    (cut : tokens formula = ts ++ us) : tokens (texts us) = us := by
  induction ts generalizing formula with
  | nil =>
    obtain rfl : tokens formula = us := cut
    rw [texts_tokens]
  | cons t ts ih =>
    cases formula with
    | nil => simp [tokens] at cut
    | cons c formula =>
      rw [tokens, List.cons_append] at cut
      exact ih (List.cons.inj cut).2

/-- A bracket is a character by itself. -/
theorem tokens_bracket {c : Char} (bracket : c = '[' ∨ c = ']') (t : Text) :
    tokens (c :: t) = .other c :: tokens t := by
  have plain : Plain c := by
    rcases bracket with rfl | rfl <;> exact ⟨by decide, by decide, by decide, by decide, by decide⟩
  have read : next c t = (.other c, t) := by
    rw [next_of_plain plain, nextPlain]
    rcases bracket with rfl | rfl
    · simp [scanOperator?_eq_none t (c := '[') (by decide), isNameStart, Text.isBlank]
    · simp [scanOperator?_eq_none t (c := ']') (by decide), isNameStart, Text.isBlank]
  rw [tokens, read]

theorem tokens_ref {r : Ref} (formed : r.Formed) {rest : Text} (ends : Ref.continues rest = false) :
    tokens (r.text ++ rest) = .ref r :: tokens rest := by
  have lexed : Lexed [.ref r] rest := ⟨formed, ends, trivial⟩
  simpa [text] using tokens_texts_append lexed

theorem tokens_number {digits : Text} (some_digit : digits ≠ []) (all : ∀ c ∈ digits, c.isDigit)
    {rest : Text} (ends : Ref.continues rest = false) :
    tokens (digits ++ rest) = .number digits :: tokens rest := by
  have formed : (⟨digits, none, none⟩ : Literal).Formed :=
    ⟨all, by simp, .inl some_digit, by simp⟩
  have lexed : Lexed [.number digits] rest :=
    ⟨⟨_, formed, by simp [Literal.text]⟩, ends, trivial⟩
  simpa [text] using tokens_texts_append lexed

end Token

/-! ## What stands for a part of a formula -/

namespace SheetKeys

variable {k : SheetKeys} {current formula : Text}

/-- What stands for each token of a formula in the formula with placeholders. -/
def replacements (k : SheetKeys) (current formula : Text) : List Text :=
  (Token.tokens formula).zipIdx.map fun (t, i) =>
    k.replaced current (Token.takenSheet (Token.tokens formula) i) t

theorem flatten_replacements :
    (k.replacements current formula).flatten = k.write current formula := by
  rw [write, writeTree, Parser.writeAll_parse, rewritten_eq_replacedAll, replacedAll, replacements,
    List.flatMap_def]

/-- The tokens of a formula from a place on start with those of `part`, and `result` stands for
these in the formula with placeholders, between what stands for the tokens before and behind. -/
def Becomes (k : SheetKeys) (current formula : Text) (place : Nat) (part result : Text) : Prop :=
  ∃ count, Token.texts (((Token.tokens formula).drop place).take count) = part ∧
    k.write current formula = ((k.replacements current formula).take place).flatten ++ result ++
      ((k.replacements current formula).drop (place + count)).flatten

/-- Tokens that become the same whatever sheet they take over become that in a formula. -/
theorem becomes_of_tokens {ts us vs : List Token} (cut : Token.tokens formula = ts ++ (us ++ vs))
    {out : Token → Text} (each : ∀ t ∈ us, ∀ taken, k.replaced current taken t = out t) :
    k.Becomes current formula ts.length (Token.texts us) (us.flatMap out) := by
  have middle : ((k.replacements current formula).drop ts.length).take us.length = us.map out := by
    have sameAll : ∀ (taken : Nat → Option Text) (n : Nat),
        ((us.zipIdx n).map fun (t, i) => k.replaced current (taken i) t) = us.map out := by
      intro taken n
      rw [← List.zipIdx_map_fst n us, List.map_map, List.zipIdx_map_fst]
      exact List.map_congr_left fun p member => each _ (List.fst_mem_of_mem_zipIdx member) _
    simp [replacements, cut, List.zipIdx_append, sameAll]
  refine ⟨us.length, by simp [cut], ?_⟩
  rw [List.flatMap_def, ← middle, ← List.flatten_append, ← List.flatten_append, List.append_assoc,
    ← List.drop_drop, List.take_append_drop, List.take_append_drop, flatten_replacements]

/-! ## References that name a sheet -/

variable {r : Ref} {name : Text}

/-- A reference to a sheet that the workbook lacks stays as it is. -/
theorem wrap_unknown (some_char : name ≠ []) (named : r.sheet = some name)
    (unknown : k.find? name = none) (inherited : Option Text) :
    k.wrap current inherited r = r.text := by
  have meant : k.resolve? r current inherited = none := by
    rw [resolve?_named (by simpa [named] using some_char) (by rw [named, Option.some_or]) some_char,
      unknown]
    rfl
  rw [wrap, meant]

/-- A reference to a sheet of the workbook becomes the placeholder of its cell. -/
theorem wrap_known {sheet : Text} (some_char : name ≠ []) (named : r.sheet = some name)
    (known : sheet ∈ k.names) (same : Text.foldCase name = Text.foldCase sheet)
    (inherited : Option Text) :
    k.wrap current inherited r = placeholder (k.keyAt r.address sheet) := by
  obtain ⟨key, found⟩ := find?_of_mem known
  have meant : k.resolve? r current inherited = some (k.keyAt r.address sheet) := by
    rw [resolve?_named (by simpa [named] using some_char) (by rw [named, Option.some_or]) some_char,
      find?_congr k same, found, keyAt, found]
    by_cases several : k.several = true
    · simp [several]
    · simp [several]
  rw [wrap, meant]

/-- If no sheet has a bracket in its name, a name with a bracket finds none in any letter case. -/
theorem find?_eq_none_of_bracket (free : ∀ sheet ∈ k.names, '[' ∉ sheet) (bracket : '[' ∈ name) :
    k.find? name = none := by
  rw [find?, Option.map_eq_none_iff, List.find?_eq_none]
  intro sheet known same
  have folded : '[' ∈ Text.foldCase sheet := by
    rw [of_decide_eq_true same]
    exact Text.bracket_mem_foldCase.2 bracket
  exact free sheet (List.mem_reverse.1 known) (Text.bracket_mem_foldCase.1 folded)

theorem find?_eq_none (unknown : ∀ sheet ∈ k.names, Text.foldCase name ≠ Text.foldCase sheet) :
    k.find? name = none := by
  rw [find?, Option.map_eq_none_iff, List.find?_eq_none]
  intro sheet known same
  exact unknown sheet (List.mem_reverse.1 known) (of_decide_eq_true same).symm

/-! ## Other workbooks -/

/-- The number of another workbook between brackets, and what stands behind it. -/
def book (number behind : Text) : Text := '[' :: number ++ ']' :: behind

/-- A reference to an address on a sheet of another workbook, with quotes. -/
def quotedExternal (number sheet written : Text) : Text :=
  '\'' :: SheetName.quote (book number sheet) ++ '\'' :: '!' :: written

/-- The same without quotes. -/
def bareExternal (number sheet written : Text) : Text := book number (sheet ++ '!' :: written)

variable {number sheet written address behind : Text}

/-- In quotes, a reference to another workbook is one reference. -/
theorem tokens_quotedExternal (shape : Ref.IsAddress written address)
    (ends : Ref.continues behind = false) :
    Token.tokens (quotedExternal number sheet written ++ behind) =
      .ref ⟨some (book number sheet), address, quotedExternal number sheet written⟩ ::
        Token.tokens behind := by
  have some_char : book number sheet ≠ [] := by simp [book]
  have formed := Ref.Formed.there (.quoted some_char) shape
  simpa [quotedExternal] using Token.tokens_ref formed ends

/-- The tokens of a number between brackets and of a reference behind them. -/
def bookTokens (number : Text) (r : Ref) : List Token :=
  [.other '[', .number number, .other ']', .ref r]

theorem texts_bookTokens (r : Ref) : Token.texts (bookTokens number r) = book number r.text := by
  simp [bookTokens, book, Token.text]

/-- Without quotes, the brackets and the number stand in front of a reference. -/
theorem tokens_bareExternal (some_digit : number ≠ []) (digits : ∀ c ∈ number, c.isDigit)
    (plain : SheetName.isBare sheet) (shape : Ref.IsAddress written address)
    (ends : Ref.continues behind = false) :
    Token.tokens (bareExternal number sheet written ++ behind) =
      bookTokens number ⟨some sheet, address, sheet ++ '!' :: written⟩ ++ Token.tokens behind := by
  have formed := Ref.Formed.there (.bare plain) shape
  rw [bareExternal, book, List.cons_append, List.cons_append, List.append_assoc, List.cons_append,
    Token.tokens_bracket (.inl rfl), Token.tokens_number some_digit digits rfl,
    Token.tokens_bracket (.inr rfl), Token.tokens_ref formed ends]
  rfl

/-- Behind the brackets, the reference is written as anywhere else. -/
theorem becomes_unquoted {ts us : List Token} {result : Text} {r : Ref}
    (cut : Token.tokens formula = ts ++ (bookTokens number r ++ us))
    (same : ∀ taken, k.wrap current taken r = result) :
    k.Becomes current formula ts.length (book number r.text) (book number result) := by
  have each : ∀ t ∈ bookTokens number r, ∀ taken,
      k.replaced current taken t = k.replaced current none t := by
    intro t inside taken
    simp only [bookTokens, List.mem_cons, List.not_mem_nil, or_false] at inside
    rcases inside with rfl | rfl | rfl | rfl
    · rfl
    · rfl
    · rfl
    · rw [replaced_ref, replaced_ref, same, same]
  have outcome : (bookTokens number r).flatMap (k.replaced current none) = book number result := by
    simp [bookTokens, book, replaced_ref, replaced_of_not_ref, Token.text, same]
  rw [← texts_bookTokens, ← outcome]
  exact becomes_of_tokens cut each

/-- A reference to another workbook, wherever it stands as tokens of a formula, if no sheet has
a bracket in its name. In quotes it stays as it is. Without quotes it stays as it is if the workbook
has no sheet of that name, and otherwise its brackets stay in front of the placeholder of a cell of
that sheet. -/
theorem write_external (k : SheetKeys) (current : Text) {ts us : List Token}
    (free : ∀ name ∈ k.names, '[' ∉ name) (some_digit : number ≠ [])
    (digits : ∀ c ∈ number, c.isDigit) (shape : Ref.IsAddress written address)
    (ends : Ref.continues behind = false) (cut : Token.tokens formula = ts ++ us) :
    (Token.texts us = quotedExternal number sheet written ++ behind →
      k.Becomes current formula ts.length (quotedExternal number sheet written)
        (quotedExternal number sheet written)) ∧
    (SheetName.isBare sheet → Token.texts us = bareExternal number sheet written ++ behind →
      ((∀ name ∈ k.names, Text.foldCase sheet ≠ Text.foldCase name) →
        k.Becomes current formula ts.length (bareExternal number sheet written)
          (bareExternal number sheet written)) ∧
      ∀ name ∈ k.names, Text.foldCase sheet = Text.foldCase name →
        k.Becomes current formula ts.length (bareExternal number sheet written)
          (book number (placeholder (k.keyAt address name)))) := by
  have read := Token.tokens_texts_of_append cut
  refine ⟨fun text => ?_, fun plain text => ?_⟩
  · rw [text, tokens_quotedExternal shape ends] at read
    have bracket : '[' ∈ book number sheet := by simp [book]
    have unknown := find?_eq_none_of_bracket free bracket
    rw [← read] at cut
    have each : ∀ t ∈ [Token.ref ⟨some (book number sheet), address,
        quotedExternal number sheet written⟩], ∀ taken, k.replaced current taken t = t.text := by
      intro t inside taken
      rw [List.mem_singleton.1 inside, replaced_ref]
      exact wrap_unknown (by simp [book]) rfl unknown taken
    simpa [Token.text] using becomes_of_tokens cut each
  · rw [text, tokens_bareExternal some_digit digits plain shape ends] at read
    rw [← read] at cut
    have some_char := (SheetName.IsWritten.bare plain).ne_nil
    exact ⟨fun unknown => becomes_unquoted cut (wrap_unknown some_char rfl (find?_eq_none unknown)),
      fun name known same => becomes_unquoted cut (wrap_known some_char rfl known same)⟩

/-- In an argument of a call: in quotes, with a name that no sheet has, and with one that the other
sheet has in other letter case. -/
theorem write_external_in_call :
    (⟨["Main", "Data"]⟩ : SheetKeys).Becomes "Main" "SUM('[12]Data'!$B$2,1)" 2
        (quotedExternal "12" "Data" "$B$2") (quotedExternal "12" "Data" "$B$2") ∧
    (⟨["Main", "Data"]⟩ : SheetKeys).Becomes "Main" "SUM([12]Other!$B$2,1)" 2
        (bareExternal "12" "Other" "$B$2") (bareExternal "12" "Other" "$B$2") ∧
    (⟨["Main", "Data"]⟩ : SheetKeys).Becomes "Main" "SUM([12]DATA!$B$2,1)" 2
        (bareExternal "12" "DATA" "$B$2")
        (book "12" (placeholder ((⟨["Main", "Data"]⟩ : SheetKeys).keyAt "B2" "Data"))) := by
  have shape : Ref.IsAddress "$B$2" "B2" := @Ref.IsAddress.intro ['$'] ['B'] ['$'] ['2'] (.inr rfl)
    ⟨by decide, by decide, List.all_eq_true.1 rfl⟩ (.inr rfl) ⟨by decide, List.all_eq_true.1 rfl⟩
  have free : ∀ name ∈ (⟨["Main", "Data"]⟩ : SheetKeys).names, '[' ∉ name := by decide
  have digits : ∀ c ∈ ("12" : Text), c.isDigit := List.all_eq_true.1 rfl
  have ends : Ref.continues ",1)" = false := by decide
  have quoted : Token.tokens "SUM('[12]Data'!$B$2,1)" = [.func "SUM", .lparen] ++
      [.ref ⟨some "[12]Data", "B2", "'[12]Data'!$B$2"⟩, .comma, .number "1", .rparen] := by
    decide +kernel
  have unknown : Token.tokens "SUM([12]Other!$B$2,1)" = [.func "SUM", .lparen] ++
      [.other '[', .number "12", .other ']', .ref ⟨some "Other", "B2", "Other!$B$2"⟩, .comma,
        .number "1", .rparen] := by
    decide +kernel
  have known : Token.tokens "SUM([12]DATA!$B$2,1)" = [.func "SUM", .lparen] ++
      [.other '[', .number "12", .other ']', .ref ⟨some "DATA", "B2", "DATA!$B$2"⟩, .comma,
        .number "1", .rparen] := by
    decide +kernel
  refine ⟨?_, ?_, ?_⟩
  · exact (write_external _ _ free (by decide) digits shape ends quoted).1 (by decide +kernel)
  · exact ((write_external _ _ free (by decide) digits shape ends unknown).2 (by decide)
      (by decide +kernel)).1 (by decide)
  · exact ((write_external _ _ free (by decide) digits shape ends known).2 (by decide)
      (by decide +kernel)).2 "Data" (by decide) (by decide)

/-- Without quotes, a reference to another workbook becomes one to a sheet of this workbook. -/
theorem write_external_misread :
    (∀ name ∈ (["Sheet1", "Sheet2"] : List Text), '[' ∉ name ∧ ']' ∉ name) ∧
    (⟨["Sheet1", "Sheet2"]⟩ : SheetKeys).write "Sheet1" "[1]Sheet2!A1" =
      "[1]$\x7bmetric:Sheet2!A1\x7d" ∧
    (⟨["Sheet1", "Sheet2"]⟩ : SheetKeys).write "Sheet1" "[1]Sheet2!A1" ≠ "[1]Sheet2!A1" ∧
    (⟨["Sheet1", "Sheet2"]⟩ : SheetKeys).write "Sheet1" "'[1]Sheet2'!A1" = "'[1]Sheet2'!A1" := by
  decide +kernel

end SheetKeys
end CellGraph
