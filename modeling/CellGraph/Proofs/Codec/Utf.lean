import CellGraph.Codec.Utf

/-!
# Reading UTF-8

Every text is read back from its bytes in UTF-8 (`decodeUtf8?_encode`), one character at a time: the
first byte of a character tells how many bytes follow, and each form is used for the characters
that have no shorter one.
-/

namespace CellGraph.Utf

/-- A code point that is that of a character gives the character. -/
theorem charIn?_toNat {first last : Nat} {c : Char} (above : first ≤ c.toNat)
    (below : c.toNat ≤ last) : charIn? first last c.toNat = some c := by
  have valid : c.toNat < 0xD800 ∨ 0xDFFF < c.toNat ∧ c.toNat < 0x110000 := c.valid
  have scalar : ¬ (0xD800 ≤ c.toNat ∧ c.toNat < 0xE000) := by omega
  rw [charIn?, if_pos ⟨above, below, scalar⟩, Char.ofNat_toNat]

theorem toNat_toUInt8 {n : Nat} (small : n < 256) : n.toUInt8.toNat = n := by
  show (UInt8.ofNat n).toNat = n
  rw [UInt8.toNat_ofNat']
  omega

theorem toUInt8_lt {n : Nat} (small : n < 256) (b : UInt8) : n.toUInt8 < b ↔ n < b.toNat := by
  rw [UInt8.lt_iff_toNat_lt, toNat_toUInt8 small]

theorem not_toUInt8_lt {n : Nat} (small : n < 256) {b : UInt8} (above : b.toNat ≤ n) :
    ¬ n.toUInt8 < b := by
  rw [toUInt8_lt small]
  omega

/-- A byte that continues a character holds six bits. -/
theorem continuation?_toUInt8 {n : Nat} (small : n < 0x40) :
    continuation? (0x80 + n).toUInt8 = some n := by
  have byte : 0x80 + n < 256 := by omega
  have below : (0x80 + n).toUInt8 < 0xC0 := (toUInt8_lt byte _).2 (show 0x80 + n < 192 by omega)
  have above : 0x80 ≤ (0x80 + n).toUInt8 := by
    rw [UInt8.le_iff_toNat_le, toNat_toUInt8 byte]
    show 128 ≤ 0x80 + n
    omega
  have inside : (0x80 ≤ (0x80 + n).toUInt8 && (0x80 + n).toUInt8 < 0xC0) = true := by
    rw [decide_eq_true above, decide_eq_true below]
    rfl
  rw [continuation?, if_pos inside, toNat_toUInt8 byte, Nat.add_sub_cancel_left]

/-! ## The forms of characters -/

theorem decodeUtf8?_one {n : Nat} (small : n < 0x80) (bytes : List UInt8) :
    decodeUtf8? (n.toUInt8 :: bytes) = (decodeUtf8? bytes).map (Char.ofNat n :: ·) := by
  have first : n.toUInt8 < 0x80 := (toUInt8_lt (by omega) _).2 small
  rw [decodeUtf8?.eq_def]
  simp only [if_pos first, toNat_toUInt8 (show n < 256 by omega)]

theorem decodeUtf8?_two {high low : Nat} (first : high < 0x20) (second : low < 0x40)
    (bytes : List UInt8) :
    decodeUtf8? ((0xC0 + high).toUInt8 :: (0x80 + low).toUInt8 :: bytes) =
      (charIn? 0x80 0x7FF (high * 0x40 + low)).bind fun c => (decodeUtf8? bytes).map (c :: ·) := by
  have byte : 0xC0 + high < 256 := by omega
  have above (b : UInt8) (low : b.toNat ≤ 0xC0) : ¬ (0xC0 + high).toUInt8 < b :=
    not_toUInt8_lt byte (by omega)
  have below : (0xC0 + high).toUInt8 < 0xE0 :=
    (toUInt8_lt byte _).2 (show 0xC0 + high < 224 by omega)
  rw [decodeUtf8?.eq_def]
  simp only [if_neg (above 0x80 (by decide)), if_neg (above 0xC0 (by decide)), if_pos below,
    continuation?_toUInt8 second, toNat_toUInt8 byte, Nat.add_sub_cancel_left, Option.bind_eq_bind,
    Option.bind_some, Option.pure_def, Option.map_eq_bind, Function.comp_def]

theorem decodeUtf8?_three {high middle low : Nat} (first : high < 0x10) (second : middle < 0x40)
    (third : low < 0x40) (bytes : List UInt8) :
    decodeUtf8?
        ((0xE0 + high).toUInt8 :: (0x80 + middle).toUInt8 :: (0x80 + low).toUInt8 :: bytes) =
      (charIn? 0x800 0xFFFF ((high * 0x40 + middle) * 0x40 + low)).bind fun c =>
        (decodeUtf8? bytes).map (c :: ·) := by
  have byte : 0xE0 + high < 256 := by omega
  have above (b : UInt8) (low : b.toNat ≤ 0xE0) : ¬ (0xE0 + high).toUInt8 < b :=
    not_toUInt8_lt byte (by omega)
  have below : (0xE0 + high).toUInt8 < 0xF0 :=
    (toUInt8_lt byte _).2 (show 0xE0 + high < 240 by omega)
  rw [decodeUtf8?.eq_def]
  simp only [if_neg (above 0x80 (by decide)), if_neg (above 0xC0 (by decide)),
    if_neg (above 0xE0 (by decide)), if_pos below, continuation?_toUInt8 second,
    continuation?_toUInt8 third, toNat_toUInt8 byte, Nat.add_sub_cancel_left, Option.bind_eq_bind,
    Option.bind_some, Option.pure_def, Option.map_eq_bind, Function.comp_def]

theorem decodeUtf8?_four {highest high middle low : Nat} (first : highest < 0x10)
    (second : high < 0x40) (third : middle < 0x40) (fourth : low < 0x40) (bytes : List UInt8) :
    decodeUtf8? ((0xF0 + highest).toUInt8 :: (0x80 + high).toUInt8 :: (0x80 + middle).toUInt8 ::
        (0x80 + low).toUInt8 :: bytes) =
      (charIn? 0x10000 0x10FFFF (((highest * 0x40 + high) * 0x40 + middle) * 0x40 + low)).bind
        fun c => (decodeUtf8? bytes).map (c :: ·) := by
  have byte : 0xF0 + highest < 256 := by omega
  have above (b : UInt8) (low : b.toNat ≤ 0xF0) : ¬ (0xF0 + highest).toUInt8 < b :=
    not_toUInt8_lt byte (by omega)
  rw [decodeUtf8?.eq_def]
  simp only [if_neg (above 0x80 (by decide)), if_neg (above 0xC0 (by decide)),
    if_neg (above 0xE0 (by decide)), if_neg (above 0xF0 (by decide)),
    continuation?_toUInt8 second, continuation?_toUInt8 third, continuation?_toUInt8 fourth,
    toNat_toUInt8 byte, Nat.add_sub_cancel_left, Option.bind_eq_bind,
    Option.bind_some, Option.pure_def, Option.map_eq_bind, Function.comp_def]

/-- The bytes of a character are read as that character, whatever follows. -/
theorem decodeUtf8?_encodeChar (c : Char) (bytes : List UInt8) :
    decodeUtf8? (encodeChar c ++ bytes) = (decodeUtf8? bytes).map (c :: ·) := by
  have valid : c.toNat < 0xD800 ∨ 0xDFFF < c.toNat ∧ c.toNat < 0x110000 := c.valid
  unfold encodeChar
  dsimp only
  split
  · next one =>
    rw [List.singleton_append, decodeUtf8?_one one, Char.ofNat_toNat]
  · next one =>
    split
    · next two =>
      have whole : c.toNat / 0x40 * 0x40 + c.toNat % 0x40 = c.toNat := by omega
      rw [List.cons_append, List.singleton_append, decodeUtf8?_two (by omega) (by omega), whole,
        charIn?_toNat (by omega) (by omega), Option.bind_some]
    · next two =>
      split
      · next three =>
        have whole : (c.toNat / 0x1000 * 0x40 + c.toNat / 0x40 % 0x40) * 0x40 + c.toNat % 0x40 =
            c.toNat := by omega
        rw [List.cons_append, List.cons_append, List.singleton_append,
          decodeUtf8?_three (by omega) (by omega) (by omega), whole,
          charIn?_toNat (by omega) (by omega), Option.bind_some]
      · next three =>
        have whole : ((c.toNat / 0x40000 * 0x40 + c.toNat / 0x1000 % 0x40) * 0x40 +
            c.toNat / 0x40 % 0x40) * 0x40 + c.toNat % 0x40 = c.toNat := by omega
        rw [List.cons_append, List.cons_append, List.cons_append, List.singleton_append,
          decodeUtf8?_four (by omega) (by omega) (by omega) (by omega), whole,
          charIn?_toNat (by omega) (by omega), Option.bind_some]

/-- Every text is read back from its bytes. -/
theorem decodeUtf8?_encode (t : Text) : decodeUtf8? (encode t) = some t := by
  induction t with
  | nil => rfl
  | cons c t ih =>
    rw [encode] at ih ⊢
    rw [List.flatMap_cons, decodeUtf8?_encodeChar, ih, Option.map_some]

end CellGraph.Utf
