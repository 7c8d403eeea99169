import CellGraph.Proofs.Lexing.Markers
import CellGraph.Proofs.Lexing.Next

/-!
# Dollar signs among tokens

Tokens whose dollar signs stand in addresses only, and stand in front of no address that would
continue the token before it (`Marked`). If the tokens of a formula are such, the dollar signs of
its text stand where scanners expect them (`placed_of_marked`).
-/

namespace CellGraph

open Text (without Placed IsMark)

/-! ## References without dollar signs -/

namespace Ref

/-- The same reference, written without dollar signs. -/
def unmarked (r : Ref) : Ref := ⟨r.sheet, r.address, without '$' r.text⟩

theorem IsRow.free {row : Text} (digits : IsRow row) : '$' ∉ row := fun dollar =>
  absurd (digits.digits _ dollar) (by decide)

theorem IsColumn.free {column : Text} (letters : IsColumn column) : '$' ∉ column := fun dollar =>
  absurd (letters.letters _ dollar) (by decide)

/-- An address is what is left of the written one without dollar signs. -/
theorem IsAddress.without {written address : Text} (shape : IsAddress written address) :
    without '$' written = address := by
  have none : ∀ {m : Text}, IsMarker m → Text.without '$' m = [] := by
    rintro m (rfl | rfl) <;> rfl
  cases shape with
  | intro first letters second digits =>
    simp only [Text.without_append, none first, none second, List.append_nil, List.nil_append,
      Text.without_of_not_mem letters.free, Text.without_of_not_mem digits.free]

theorem IsAddress.unmarked {written address : Text} (shape : IsAddress written address) :
    IsAddress address address := by
  cases shape with
  | intro _ letters _ digits => simpa using IsAddress.intro (.inl rfl) letters (.inl rfl) digits

/-- The letters of a reference. -/
def column (r : Ref) : Text := r.address.takeWhile Char.isUpper

theorem takeWhile_address {column row : Text} (letters : IsColumn column) (digits : IsRow row) :
    (column ++ row).takeWhile Char.isUpper = column := by
  refine Text.takeWhile_append_stop letters.letters fun c head => ?_
  have digit := digits.digits c (List.mem_of_head? head)
  rw [Bool.eq_false_iff]
  exact fun capital => Text.not_isDigit_of_isUpper capital digit

/-- Dropping the dollar signs of its address leaves a reference. -/
theorem Formed.unmarked {r : Ref} (formed : r.Formed) (free : ∀ name ∈ r.sheet, '$' ∉ name) :
    r.unmarked.Formed := by
  cases formed with
  | here shape =>
    rw [Ref.unmarked, shape.without]
    exact .here shape.unmarked
  | @there name nameText written address sheet shape =>
    have named : '$' ∉ nameText := fun dollar => free _ rfl ((sheet.mem_iff (by decide)).1 dollar)
    rw [Ref.unmarked, Text.without_append, Text.without_of_not_mem named,
      Text.without_cons (by decide), shape.without]
    exact .there sheet shape.unmarked

/-! ## The place of a reference -/

variable {before : Option Char} {rest written address : Text}

/-- The dollar signs of an address that nothing continues stand in it. -/
theorem placed_address (shape : IsAddress written address) (ends : continues rest = false)
    (noDollar : rest.head? ≠ some '$') (placed : ∀ p, Placed p rest)
    (fits : ∀ p ∈ before, Text.isWordChar p → p.isDigit) : Placed before (written ++ rest) := by
  have stop : ∀ c ∈ rest.head?, (SheetName.isBareChar c || c == '$') = false := by
    intro c member
    have notDollar : c ≠ '$' := by
      rintro rfl
      exact noDollar member
    simp [not_bare_of_continues ends c member, notDollar]
  have noSheet : ∀ {t : Text}, (∀ c ∈ t, c = '$' ∨ c.isUpper ∨ c.isDigit) →
      ((t ++ rest).dropWhile fun c => SheetName.isBareChar c || c == '$').head? ≠ some '!' := by
    intro t word
    rw [Text.dropWhile_append_stop _ stop]
    · exact ne_bang_of_continues ends
    · intro c member
      rcases word c member with rfl | capital | digit
      · simp
      · simp [SheetName.isBareChar_of_isUpper capital]
      · simp [SheetName.isBareChar_of_isDigit digit]
  have inside := fun c => @IsAddress.mem_written _ _ shape c
  cases shape with
  | @intro mark column mark' row first letters second digits =>
    have behindRow : ∀ p, Placed p (row ++ rest) := fun p =>
      Text.placed_append digits.free (placed _)
    have behindColumn : ∀ p, p.isUpper → Placed (some p) (mark' ++ (row ++ rest)) := by
      intro p capital
      rcases second with rfl | rfl
      · exact behindRow _
      · refine ⟨fun _ => ⟨.inr ?_, ?_⟩, behindRow _⟩
        · obtain ⟨d, row, rfl⟩ := List.exists_cons_of_ne_nil digits.some_digit
          exact ⟨d, rfl, digits.digits d (by simp), by simpa using capital⟩
        · exact noSheet fun c member => inside c (by simp [member])
    have behindMark : ∀ p, Placed p (column ++ (mark' ++ (row ++ rest))) := by
      intro p
      refine Text.placed_append letters.free ?_
      rw [List.getLast?_eq_some_getLast letters.some_letter]
      exact behindColumn _ (letters.letters _ (List.getLast_mem _))
    simp only [List.append_assoc]
    rcases first with rfl | rfl
    · exact behindMark _
    · refine ⟨fun _ => ⟨.inl ?_, ?_⟩, behindMark _⟩
      · obtain ⟨c, column, rfl⟩ := List.exists_cons_of_ne_nil letters.some_letter
        exact ⟨c, rfl, letters.letters c (by simp), fits⟩
      · have ended := noSheet (t := column ++ (mark' ++ row)) fun c member =>
          inside c (by simpa [-List.mem_append] using Or.inr member)
        simpa using ended

end Ref

namespace Token

/-! ## Dollar signs in sequences of tokens -/

/-- The same token, written without dollar signs if it is a reference. -/
def unmarked : Token → Token := map (.refs Ref.unmarked)

/-- Names and references: what any address would continue. -/
def endsWord : Token → Bool
  | .name _ | .ref _ => true
  | _ => false

/-- Whether a token is a reference without a sheet. -/
def isLocal : Token → Bool
  | .ref r => r.sheet.isNone
  | _ => false

/-- Whether a token is a reference without a sheet that would continue the token before it: a word
in any case, a number without exponent if it could be its exponent. -/
def meets : Token → Token → Bool
  | .name _, .ref r | .ref _, .ref r => r.sheet.isNone
  | .number w, .ref r =>
    r.sheet.isNone && r.column == ['E'] && !(w.contains 'e' || w.contains 'E')
  | _, _ => false

/-- Tokens that would stay apart without a dollar sign between them. -/
def Parted (t u : Token) : Prop := meets t u = false

instance : DecidableRel Parted := fun t u => inferInstanceAs (Decidable (meets t u = false))

theorem Parted.not_local {t u : Token} (parted : Parted t u) (word : endsWord t) :
    isLocal u = false := by
  cases u with
  | ref r =>
    cases t with
    | name => exact parted
    | ref => exact parted
    | _ => cases word
  | _ => rfl

/-- Whether the dollar signs of a token are those of an address. -/
def Marks : Token → Prop
  | .ref r => ∀ name ∈ r.sheet, '$' ∉ name
  | t => '$' ∉ t.text

instance : DecidablePred Marks
  | .ref r => inferInstanceAs (Decidable (∀ name ∈ r.sheet, '$' ∉ name))
  | .string _ | .number _ | .func _ | .name _ | .op _ | .lparen | .rparen | .comma | .colon
  | .space _ | .other _ => inferInstanceAs (Decidable ('$' ∉ text _))

/-- Tokens in which dollar signs stand in addresses only and part no words. -/
structure Marked (ts : List Token) : Prop where
  marks : ∀ t ∈ ts, t.Marks
  parted : ts.IsChain Parted

theorem Marked.tail {t : Token} {ts : List Token} (marked : Marked (t :: ts)) : Marked ts :=
  ⟨fun u member => marked.marks u (by simp [member]), marked.parted.tail⟩

theorem text_unmarked {t : Token} (marks : t.Marks) : t.unmarked.text = without '$' t.text := by
  cases t with
  | ref r => rfl
  | _ => exact (Text.without_of_not_mem marks).symm

theorem Marks.free {t : Token} (marks : t.Marks) (noRef : ∀ r, t ≠ .ref r) : '$' ∉ t.text := by
  cases t with
  | ref r => exact absurd rfl (noRef r)
  | _ => exact marks

/-- A reference with a sheet has its first dollar sign behind an exclamation mark. -/
theorem isLocal_of_dollar {r : Ref} (formed : r.Formed) (marks : Marks (.ref r)) {t u : Text}
    (text : r.text = t ++ '$' :: u) (noBang : '!' ∉ t) : isLocal (.ref r) := by
  cases formed with
  | here => rfl
  | @there name nameText written address sheet shape =>
    have named : '$' ∉ nameText := fun dollar => marks _ rfl ((sheet.mem_iff (by decide)).1 dollar)
    rcases List.append_eq_append_iff.1 text with ⟨more, rfl, behind⟩ | ⟨more, rfl, behind⟩
    · cases more with
      | nil => simp at behind
      | cons c more =>
        obtain rfl : '!' = c := (List.cons.inj behind).1
        simp at noBang
    · cases more with
      | nil => simp at behind
      | cons c more =>
        obtain rfl : '$' = c := (List.cons.inj behind).1
        simp at named

/-- A dollar sign that stands in an address starts a reference. -/
theorem isLocal_next_dollar {t : Text} (marks : Marks (next '$' t).1) :
    isLocal (next '$' t).1 := by
  obtain ⟨whole, some_char⟩ := text_next '$' t
  obtain ⟨c, w, start⟩ := List.exists_cons_of_ne_nil some_char
  rw [start] at whole
  obtain ⟨rfl, -⟩ := List.cons.inj whole
  by_cases isRef : ∃ r, (next '$' t).1 = .ref r
  · obtain ⟨r, same⟩ := isRef
    rw [same] at marks start ⊢
    exact isLocal_of_dollar (formed_of_next same).1 marks (t := []) start (by simp)
  · have free := marks.free fun r same => isRef ⟨r, same⟩
    simp [start] at free

/-- A reference without a sheet is an address that is read. -/
theorem exists_address_of_next {c : Char} {t : Text} (starts : isLocal (next c t).1) :
    ∃ written address, Ref.IsAddress written address ∧
      (next c t).1 = .ref ⟨none, address, written⟩ ∧ c :: t = written ++ (next c t).2 := by
  have whole := (text_next c t).1
  cases same : (next c t).1 with
  | ref r =>
    have formed := (formed_of_next same).1
    rw [same] at starts whole
    cases formed with
    | here shape => exact ⟨_, _, shape, rfl, whole.symm⟩
    | there => cases starts
  | _ => simp [same, isLocal] at starts

/-- No dollar sign stands directly behind a word. -/
theorem Marked.head_ne {t : Token} {rest : Text} (marked : Marked (t :: tokens rest))
    (word : endsWord t) : rest.head? ≠ some '$' := by
  intro dollar
  obtain ⟨u, rfl⟩ := List.head?_eq_some_iff.1 dollar
  rw [tokens] at marked
  have starts := isLocal_next_dollar (marked.marks (next '$' u).1 (by simp))
  rw [(List.isChain_cons_cons.1 marked.parted).1.not_local word] at starts
  cases starts

/-- A capital in front of a dollar sign starts a reference. -/
theorem Marked.isLocal_next {c : Char} {u : Text} (marked : Marked (tokens (c :: '$' :: u)))
    (capital : c.isUpper) : isLocal (next c ('$' :: u)).1 := by
  rw [tokens] at marked
  have marks := marked.marks (next c ('$' :: u)).1 (by simp)
  obtain ⟨noLiteral, noNumber, noPoint, start⟩ :
      c ≠ '"' ∧ c.isDigit = false ∧ c ≠ '.' ∧ isNameStart c := by
    have letter := Text.isAlpha_iff.2 (.inl capital)
    refine ⟨?_, ?_, ?_, by simp [isNameStart, letter]⟩
    · rintro rfl
      exact absurd capital (by decide)
    · rw [Bool.eq_false_iff]
      exact Text.not_isDigit_of_isUpper capital
    · rintro rfl
      exact absurd capital (by decide)
  cases found : Ref.scan? (c :: '$' :: u) with
  | none =>
    -- a name, and the dollar sign behind it parts nothing
    have noNumber := Literal.scan_eq_none ('$' :: u) noNumber noPoint
    have read : next c ('$' :: u) = (.name [c], '$' :: u) := by
      have plain : SheetName.isBareChar '$' = false := by decide
      simp [next, noLiteral, found, noNumber, nextPlain, start, plain]
    rw [read] at marked
    exact absurd rfl (marked.head_ne rfl)
  | some read =>
    obtain ⟨r, rest⟩ := read
    have read : next c ('$' :: u) = (.ref r, rest) := by simp [next, noLiteral, found]
    rw [read] at marks ⊢
    have formed := (Ref.formed_of_scan? found).1
    have whole := (Ref.eq_of_scan? found).1
    obtain ⟨d, e, w, text⟩ := formed.two
    rw [text] at whole
    simp only [List.cons_append, List.cons.injEq] at whole
    obtain ⟨rfl, rfl, -⟩ := whole
    refine isLocal_of_dollar formed marks (t := [c]) text ?_
    rw [List.mem_singleton]
    rintro rfl
    exact absurd capital (by decide)

/-! ## The place of the dollar signs of a formula -/

/-- A token with an address behind it ends with no letter, unless it is a word. -/
theorem digit_getLast? {c : Char} {t : Text} (noWord : endsWord (next c t).1 = false)
    {u : Token} (head : u ∈ (tokens (next c t).2).head?) (starts : isLocal u) :
    ∀ p ∈ (next c t).1.text.getLast?, Text.isWordChar p → p.isDigit := by
  intro p last word
  have noFunc : ∀ w, (next c t).1 ≠ .func w := by
    intro w same
    rw [head_of_next_func same] at head
    cases head
    cases starts
  have some_char : (next c t).2 ≠ [] := fun empty => by simp [empty, tokens] at head
  rcases last_of_next noFunc some_char last with ⟨w, same⟩ | same | blank | ⟨-, inner⟩
  · simp [same, endsWord] at noWord
  · obtain ⟨read, outside, -⟩ := next_other same
    rw [read] at same
    cases same
    simp [outside] at word
  · simp [(plain_of_isBlank blank).noWord] at word
  · rcases Text.isWordChar_iff.1 word with letter | digit | rfl
    · simp [isNameStart, letter] at inner
    · exact digit
    · cases inner

/-- The dollar signs of a reference that nothing continues stand in its address. -/
theorem placed_ref {r : Ref} (formed : r.Formed) (marks : Marks (.ref r)) {rest : Text}
    (ends : Ref.continues rest = false) (noDollar : rest.head? ≠ some '$')
    (placed : ∀ p, Placed p rest) {before : Option Char}
    (fits : isLocal (.ref r) → ∀ p ∈ before, Text.isWordChar p → p.isDigit) :
    Placed before (r.text ++ rest) := by
  cases formed with
  | here shape => exact Ref.placed_address shape ends noDollar placed (fits rfl)
  | @there name nameText written address sheet shape =>
    have named : '$' ∉ nameText := fun dollar => marks _ rfl ((sheet.mem_iff (by decide)).1 dollar)
    have free : '$' ∉ nameText ++ ['!'] := by simpa using named
    have inner : Placed (some '!') (written ++ rest) :=
      Ref.placed_address shape ends noDollar placed (by rintro p ⟨⟩; decide)
    have whole : Placed before ((nameText ++ ['!']) ++ (written ++ rest)) :=
      Text.placed_append free (by simpa using inner)
    simpa using whole

/-- The dollar signs of a formula stand in addresses if its tokens say so. -/
theorem placed_of_marked {formula : Text} (marked : Marked (tokens formula))
    {before : Option Char} (fits : ∀ u ∈ (tokens formula).head?, isLocal u →
      ∀ p ∈ before, Text.isWordChar p → p.isDigit) : Placed before formula := by
  fun_induction tokens formula generalizing before with
  | case1 => trivial
  | case2 c t ih =>
    have marks := marked.marks _ (List.mem_cons_self ..)
    have parted := List.isChain_cons.1 marked.parted
    have first := fits _ rfl
    rw [← (text_next c t).1]
    by_cases isRef : ∃ r, (next c t).1 = .ref r
    · obtain ⟨r, same⟩ := isRef
      obtain ⟨formed, ends⟩ := formed_of_next same
      rw [same] at marks marked first parted ⊢
      refine placed_ref formed marks ends (marked.head_ne rfl) (fun p => ?_) first
      refine ih marked.tail fun u head starts => ?_
      simp [(parted.1 u head).not_local rfl] at starts
    · refine Text.placed_append (marks.free fun r same => isRef ⟨r, same⟩) ?_
      refine ih marked.tail fun u head starts => ?_
      have noWord : endsWord (next c t).1 = false := by
        by_contra word
        simp [(parted.1 u head).not_local (by simpa using word)] at starts
      have last := digit_getLast? noWord head starts
      rw [List.getLast?_eq_some_getLast (text_next c t).2] at last ⊢
      exact last

end Token
end CellGraph
