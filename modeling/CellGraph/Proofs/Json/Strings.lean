import CellGraph.Json.Printer
import CellGraph.Json.Reader
import CellGraph.Proofs.Lexing.Scan

/-!
# Reading JSON strings

A string is read in two steps, its code units and then the characters they make, and every
character is written plainly, with a letter behind a backslash, or by its code units. So reading
undoes writing for one character (`scanUnits?_escape`), and for a text by induction.
-/

namespace CellGraph

/-- The code units of a text make the text. -/
theorem Utf.joinUnits?_units16 (t : Text) : joinUnits? (t.flatMap units16) = some t := by
  induction t with
  | nil => rfl
  | cons c t ih =>
    have valid : c.toNat < 0xD800 ∨ 0xDFFF < c.toNat ∧ c.toNat < 0x110000 := c.valid
    rw [List.flatMap_cons]
    by_cases basic : c.toNat < 0x10000
    · have alone : c.toNat < 0xD800 ∨ 0xE000 ≤ c.toNat := by omega
      rw [units16, if_pos basic, List.singleton_append, joinUnits?.eq_def]
      simp only [if_pos alone, ih, Char.ofNat_toNat, Option.map_some]
    · -- Outside the basic plane a character has two units, the halves of a surrogate pair.
      rw [units16, if_neg basic]
      have high : ¬ (0xD800 + (c.toNat - 0x10000) / 0x400 < 0xD800 ∨
          0xE000 ≤ 0xD800 + (c.toNat - 0x10000) / 0x400) := by omega
      have pair : 0xD800 + (c.toNat - 0x10000) / 0x400 < 0xDC00 ∧
          0xDC00 ≤ 0xDC00 + (c.toNat - 0x10000) % 0x400 ∧
          0xDC00 + (c.toNat - 0x10000) % 0x400 < 0xE000 := by omega
      have whole : 0x10000 + (0xD800 + (c.toNat - 0x10000) / 0x400 - 0xD800) * 0x400 +
          (0xDC00 + (c.toNat - 0x10000) % 0x400 - 0xDC00) = c.toNat := by omega
      simp only [List.cons_append, List.nil_append, joinUnits?, if_neg high, if_pos pair, ih,
        whole, Char.ofNat_toNat, Option.map_some]

/-- Code units are numbers of four hexadecimal digits. -/
theorem Utf.lt_of_mem_units16 {c : Char} {n : Nat} (member : n ∈ units16 c) : n < 0x10000 := by
  have valid : c.toNat < 0xD800 ∨ 0xDFFF < c.toNat ∧ c.toNat < 0x110000 := c.valid
  by_cases basic : c.toNat < 0x10000
  · rw [units16, if_pos basic, List.mem_singleton] at member
    omega
  · rw [units16, if_neg basic, List.mem_cons, List.mem_singleton] at member
    omega

namespace Json

/-! ## Hexadecimal digits -/

theorem hexValue?_digitChar : ∀ d < 16, hexValue? d.digitChar = some d := by decide

/-- The number that hexadecimal digits write. -/
def hexNumber? (t : Text) : Option Nat :=
  t.foldlM (fun n c => (hexValue? c).map (n * 16 + ·)) 0

theorem hexNumber?_toDigits (n : Nat) : hexNumber? (Nat.toDigits 16 n) = some n := by
  induction n using Nat.strongRecOn with
  | ind n ih =>
    rcases Nat.lt_or_ge n 16 with small | large
    · simp [Nat.toDigits_of_lt_base small, hexNumber?, hexValue?_digitChar n small]
    · have front := ih (n / 16) (by omega)
      have last := hexValue?_digitChar (n % 16) (by omega)
      have whole : n / 16 * 16 + n % 16 = n := by omega
      rw [hexNumber?] at front
      rw [Nat.toDigits_of_base_le (by decide) large, hexNumber?, List.foldlM_append, front]
      simp [last, whole]

theorem hexNumber?_hex (width n : Nat) : hexNumber? (Text.hex width n) = some n := by
  have zeros (count : Nat) (t : Text) :
      hexNumber? (List.replicate count '0' ++ t) = hexNumber? t := by
    induction count with
    | zero => rfl
    | succ count ih => simpa [hexNumber?, List.replicate_succ, hexValue?] using ih
  rw [Text.hex, zeros, hexNumber?_toDigits]

/-- A code unit is written with four digits, which are read as that unit. -/
theorem exists_hex {n : Nat} (small : n < 0x10000) :
    ∃ a b c d, Text.hex 4 n = [a, b, c, d] ∧ unit? a b c d = some n := by
  have few : (Nat.toDigits 16 n).length ≤ 4 :=
    (Nat.length_toDigits_le_iff (by decide) (by decide)).2 small
  have four : (Text.hex 4 n).length = 4 := by
    simp only [Text.hex, List.length_append, List.length_replicate]
    omega
  have value := hexNumber?_hex 4 n
  match digits : Text.hex 4 n, four with
  | [a, b, c, d], _ =>
    refine ⟨a, b, c, d, rfl, ?_⟩
    rw [digits] at value
    simpa [hexNumber?, unit?, Option.map_eq_bind, Option.bind_assoc, Function.comp_def] using value

theorem printable_of_hexValue? {c : Char} {n : Nat} (value : hexValue? c = some n) :
    Text.Printable c := by
  have bounds {first last : Char} (inside : (first ≤ c && c ≤ last) = true) :
      first.toNat ≤ c.toNat ∧ c.toNat ≤ last.toNat := by
    rw [Bool.and_eq_true, decide_eq_true_iff, decide_eq_true_iff] at inside
    exact inside.imp UInt32.le_iff_toNat_le.1 UInt32.le_iff_toNat_le.1
  have inside : 48 ≤ c.toNat ∧ c.toNat ≤ 102 := by
    unfold hexValue? at value
    split at value
    · next digit =>
      have := Text.isDigit_iff.1 digit
      omega
    · split at value
      · next small =>
        have : 97 ≤ c.toNat ∧ c.toNat ≤ 102 := bounds small
        omega
      · split at value
        · next large =>
          have : 65 ≤ c.toNat ∧ c.toNat ≤ 70 := bounds large
          omega
        · cases value
  constructor <;> omega

theorem printable_of_mem_hex {n : Nat} (small : n < 0x10000) {c : Char}
    (member : c ∈ Text.hex 4 n) : Text.Printable c := by
  obtain ⟨a, b, d, e, digits, value⟩ := exists_hex small
  simp only [unit?, Option.bind_eq_bind, Option.bind_eq_some_iff] at value
  obtain ⟨_, first, _, second, _, third, _, fourth, _⟩ := value
  simp only [digits, List.mem_cons, List.not_mem_nil, or_false] at member
  rcases member with rfl | rfl | rfl | rfl
  · exact printable_of_hexValue? first
  · exact printable_of_hexValue? second
  · exact printable_of_hexValue? third
  · exact printable_of_hexValue? fourth

/-! ## Escapes -/

/-- What is read behind some units. -/
def behind (units : List Nat) (t : Text) : Option (List Nat × Text) :=
  (scanUnits? t).map fun (more, rest) => (units ++ more, rest)

theorem behind_append (ms ns : List Nat) (t : Text) :
    (behind ns t).map (fun (more, rest) => (ms ++ more, rest)) = behind (ms ++ ns) t := by
  simp [behind, Function.comp_def]

/-- How a character is written: plainly, with a letter behind a backslash, or by its units. -/
theorem escape_cases (c : Char) :
    (escape c = [c] ∧ c ≠ '"' ∧ c ≠ '\\' ∧ Text.Printable c) ∨
      (∃ letter, escape c = ['\\', letter] ∧ escaped? letter = some c) ∨
      escape c = (Utf.units16 c).flatMap fun n => "\\u".toList ++ Text.hex 4 n := by
  fun_cases escape c
  case case8 noQuote noSlash _ _ _ _ _ visible =>
    exact .inl ⟨rfl, noQuote, noSlash, by simpa [Text.Printable] using visible⟩
  case case9 => exact .inr (.inr rfl)
  all_goals
    subst_vars
    exact .inr (.inl ⟨_, rfl, by decide⟩)

theorem scanUnits?_letter {letter e : Char} (known : escaped? letter = some e) (t : Text) :
    scanUnits? ('\\' :: letter :: t) = behind [e.toNat] t := by
  have notUnit : letter ≠ 'u' := by
    rintro rfl
    simp [escaped?] at known
  rw [scanUnits?.eq_2 _ _ fun _ _ _ _ _ same => absurd same notUnit, known]
  cases read : scanUnits? t <;> simp [behind, read]

theorem scanUnits?_plain {c : Char} (noQuote : c ≠ '"') (noSlash : c ≠ '\\')
    (visible : 0x20 ≤ c.toNat) (t : Text) : scanUnits? (c :: t) = behind [c.toNat] t := by
  have scanned : ¬ (c.toNat < 0x20 ∨ c = '\\') := by
    rintro (control | same)
    · omega
    · exact noSlash same
  rw [scanUnits?.eq_3 _ _ (fun _ _ _ _ _ same => absurd same noSlash)
    fun _ _ same => absurd same noSlash, if_neg noQuote, if_neg scanned]
  cases read : scanUnits? t <;> simp [behind, read]

theorem scanUnits?_unit {n : Nat} (small : n < 0x10000) (t : Text) :
    scanUnits? ("\\u".toList ++ Text.hex 4 n ++ t) = behind [n] t := by
  obtain ⟨a, b, c, d, digits, value⟩ := exists_hex small
  have start : "\\u".toList = ['\\', 'u'] := by decide
  rw [digits, start]
  simp only [List.cons_append, List.nil_append, scanUnits?, value]
  cases read : scanUnits? t <;> simp [behind, read]

theorem scanUnits?_units {ns : List Nat} (small : ∀ n ∈ ns, n < 0x10000) (t : Text) :
    scanUnits? ((ns.flatMap fun n => "\\u".toList ++ Text.hex 4 n) ++ t) = behind ns t := by
  induction ns with
  | nil => simp [behind]
  | cons n ns ih =>
    have rest := ih fun m member => small m (List.mem_cons_of_mem n member)
    rw [List.flatMap_cons, List.append_assoc, scanUnits?_unit (small n (by simp)), behind, rest,
      behind_append, List.singleton_append]

/-- What is written for a character is read as its code units. -/
theorem scanUnits?_escape (c : Char) (t : Text) :
    scanUnits? (escape c ++ t) = behind (Utf.units16 c) t := by
  have alone (basic : c.toNat < 0x10000) : Utf.units16 c = [c.toNat] := if_pos basic
  rcases escape_cases c with ⟨same, noQuote, noSlash, visible, ascii⟩ | ⟨_, same, known⟩ | same
  · rw [same, alone (by omega)]
    exact scanUnits?_plain noQuote noSlash visible t
  · have basic : c.toNat < 0x10000 := by
      unfold escaped? at known
      split at known <;> cases known <;> decide
    rw [same, alone basic]
    exact scanUnits?_letter known t
  · rw [same]
    exact scanUnits?_units (fun n => Utf.lt_of_mem_units16) t

/-- A string is read up to the quote that closes it. -/
theorem scanUnits?_escapes (t rest : Text) :
    scanUnits? (t.flatMap escape ++ '"' :: rest) = some (t.flatMap Utf.units16, rest) := by
  induction t with
  | nil => simp [scanUnits?]
  | cons c t ih => simp [List.append_assoc, scanUnits?_escape, behind, ih]

theorem printable_of_mem_escape {c d : Char} (member : d ∈ escape c) : Text.Printable d := by
  rcases escape_cases c with ⟨same, _, _, plain⟩ | ⟨letter, same, known⟩ | same
  · rw [same, List.mem_singleton] at member
    rwa [member]
  · have isLetter : Text.Printable letter := by
      unfold escaped? at known
      split at known <;> first | decide | cases known
    rw [same] at member
    simp only [List.mem_cons, List.not_mem_nil, or_false] at member
    rcases member with rfl | rfl
    · decide
    · exact isLetter
  · rw [same] at member
    obtain ⟨n, unit, inUnit⟩ := List.mem_flatMap.1 member
    rcases List.mem_append.1 inUnit with start | digit
    · have visible : ∀ d ∈ "\\u".toList, Text.Printable d := Text.forall_of_all (by decide)
      exact visible d start
    · exact printable_of_mem_hex (Utf.lt_of_mem_units16 unit) digit

/-- What is written for a text is printable, whatever its characters are. -/
theorem printable_of_mem_stringText {t : Text} {c : Char} (member : c ∈ stringText t) :
    Text.Printable c := by
  simp only [stringText, List.mem_append, List.mem_cons, List.mem_flatMap, List.not_mem_nil,
    or_false] at member
  rcases member with (rfl | ⟨d, _, written⟩) | rfl
  · decide
  · exact printable_of_mem_escape written
  · decide

example : stringText "é😀" = "\"\\u00e9\\ud83d\\ude00\"".toList := by decide +kernel

end Json
end CellGraph
