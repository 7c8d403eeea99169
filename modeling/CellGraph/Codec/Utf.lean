import CellGraph.Text.Basic

/-!
# Encodings of Unicode

Texts as bytes. Texts are written in UTF-8; they are read in UTF-8, UTF-16 or UTF-32, which a byte
order mark or the places of the zero bytes among the first four tell apart, as for a JSON text that
starts with two ASCII characters.
-/

namespace CellGraph.Utf

/-- Texts of one, two, three or four bytes for a character. -/
def encodeChar (c : Char) : List UInt8 :=
  let n := c.toNat
  if n < 0x80 then [n.toUInt8]
  else if n < 0x800 then [(0xC0 + n / 0x40).toUInt8, (0x80 + n % 0x40).toUInt8]
  else if n < 0x10000 then
    [(0xE0 + n / 0x1000).toUInt8, (0x80 + n / 0x40 % 0x40).toUInt8, (0x80 + n % 0x40).toUInt8]
  else
    [(0xF0 + n / 0x40000).toUInt8, (0x80 + n / 0x1000 % 0x40).toUInt8,
      (0x80 + n / 0x40 % 0x40).toUInt8, (0x80 + n % 0x40).toUInt8]

def encode (t : Text) : List UInt8 := t.flatMap encodeChar

/-- The six bits of a byte that continues a character. -/
def continuation? (b : UInt8) : Option Nat :=
  if 0x80 ≤ b && b < 0xC0 then some (b.toNat - 0x80) else none

/-- The character with a code point in a range; surrogates have none. -/
def charIn? (first last n : Nat) : Option Char :=
  if first ≤ n ∧ n ≤ last ∧ ¬ (0xD800 ≤ n ∧ n < 0xE000) then some (Char.ofNat n) else none

/-- The text of bytes in UTF-8; each character in its shortest form. -/
def decodeUtf8? : List UInt8 → Option Text
  | [] => some []
  | a :: bs =>
    if a < 0x80 then (decodeUtf8? bs).map (Char.ofNat a.toNat :: ·)
    else if a < 0xC0 then none
    else if a < 0xE0 then
      match bs with
      | b :: bs => do
        let n := (a.toNat - 0xC0) * 0x40 + (← continuation? b)
        return (← charIn? 0x80 0x7FF n) :: (← decodeUtf8? bs)
      | _ => none
    else if a < 0xF0 then
      match bs with
      | b :: c :: bs => do
        let n := ((a.toNat - 0xE0) * 0x40 + (← continuation? b)) * 0x40 + (← continuation? c)
        return (← charIn? 0x800 0xFFFF n) :: (← decodeUtf8? bs)
      | _ => none
    else
      match bs with
      | b :: c :: d :: bs => do
        let n := (((a.toNat - 0xF0) * 0x40 + (← continuation? b)) * 0x40 + (← continuation? c)) *
          0x40 + (← continuation? d)
        return (← charIn? 0x10000 0x10FFFF n) :: (← decodeUtf8? bs)
      | _ => none

/-- The text of bytes in UTF-8 as far as they are valid, behind the characters `done` backwards, and
whether all of them are. -/
def scanUtf8 (done : Text) : List UInt8 → Text × Bool
  | [] => (done.reverse, true)
  | a :: bs =>
    if a < 0x80 then scanUtf8 (Char.ofNat a.toNat :: done) bs
    else if a < 0xE0 then
      match bs with
      | b :: bs =>
        match decodeUtf8? [a, b] with
        | some c => scanUtf8 (c ++ done) bs
        | none => (done.reverse, false)
      | _ => (done.reverse, false)
    else if a < 0xF0 then
      match bs with
      | b :: c :: bs =>
        match decodeUtf8? [a, b, c] with
        | some c => scanUtf8 (c ++ done) bs
        | none => (done.reverse, false)
      | _ => (done.reverse, false)
    else
      match bs with
      | b :: c :: d :: bs =>
        match decodeUtf8? [a, b, c, d] with
        | some c => scanUtf8 (c ++ done) bs
        | none => (done.reverse, false)
      | _ => (done.reverse, false)

/-- Bytes two by two as numbers; none if one is left over. -/
def pairs? (bigEndian : Bool) : List UInt8 → Option (List Nat)
  | [] => some []
  | [_] => none
  | a :: b :: bs =>
    let (high, low) := if bigEndian then (a, b) else (b, a)
    (pairs? bigEndian bs).map ((high.toNat * 0x100 + low.toNat) :: ·)

/-- The UTF-16 code units of a character. -/
def units16 (c : Char) : List Nat :=
  if c.toNat < 0x10000 then [c.toNat]
  else
    let n := c.toNat - 0x10000
    [0xD800 + n / 0x400, 0xDC00 + n % 0x400]

/-- The text of UTF-16 code units: two halves of a surrogate pair make one character, and neither
half may stand alone. -/
def joinUnits? : List Nat → Option Text
  | [] => some []
  | n :: ns =>
    if n < 0xD800 ∨ 0xE000 ≤ n then (joinUnits? ns).map (Char.ofNat n :: ·)
    else match ns with
      | low :: ns =>
        if n < 0xDC00 ∧ 0xDC00 ≤ low ∧ low < 0xE000 then
          (joinUnits? ns).map (Char.ofNat (0x10000 + (n - 0xD800) * 0x400 + (low - 0xDC00)) :: ·)
        else none
      | [] => none

/-- The text of bytes in UTF-16 as far as they have a reading, behind the characters `done`
backwards, and whether all have. Of the unit behind the first half of a surrogate pair only the
lower ten bits count. -/
def scanUtf16 (bigEndian : Bool) (done : Text) : List UInt8 → Text × Bool
  | [] => (done.reverse, true)
  | [_] => (done.reverse, false)
  | a :: b :: bs =>
    let unit (a b : UInt8) : Nat :=
      if bigEndian then a.toNat * 0x100 + b.toNat else b.toNat * 0x100 + a.toNat
    let n := unit a b
    if n < 0xD800 ∨ 0xE000 ≤ n then scanUtf16 bigEndian (Char.ofNat n :: done) bs
    else if n < 0xDC00 then
      match bs with
      | c :: d :: bs =>
        scanUtf16 bigEndian
          (Char.ofNat (0x10000 + (n - 0xD800) * 0x400 + unit c d % 0x400) :: done) bs
      | _ => (done.reverse, false)
    else (done.reverse, false)

def decodeUtf16? (bigEndian : Bool) (bytes : List UInt8) : Option Text := do
  joinUnits? (← pairs? bigEndian bytes)

/-- Pairs of 16-bit numbers as code points. -/
def codePoints? (bigEndian : Bool) : List Nat → Option Text
  | [] => some []
  | [_] => none
  | a :: b :: ns => do
    let n := if bigEndian then a * 0x10000 + b else b * 0x10000 + a
    return (← charIn? 0 0x10FFFF n) :: (← codePoints? bigEndian ns)

def decodeUtf32? (bigEndian : Bool) (bytes : List UInt8) : Option Text := do
  codePoints? bigEndian (← pairs? bigEndian bytes)

/-- The text of bytes in the encoding that they show. -/
def decode? (bytes : List UInt8) : Option Text :=
  match bytes with
  | 0x00 :: 0x00 :: 0xFE :: 0xFF :: rest => decodeUtf32? true rest
  | 0xFF :: 0xFE :: 0x00 :: 0x00 :: rest => decodeUtf32? false rest
  | 0xFE :: 0xFF :: rest => decodeUtf16? true rest
  | 0xFF :: 0xFE :: rest => decodeUtf16? false rest
  | 0xEF :: 0xBB :: 0xBF :: rest => decodeUtf8? rest
  | 0x00 :: b :: _ :: _ :: _ => if b = 0 then decodeUtf32? true bytes else decodeUtf16? true bytes
  | _ :: 0x00 :: c :: d :: _ =>
    if c = 0 && d = 0 then decodeUtf32? false bytes else decodeUtf16? false bytes
  | [0x00, _] => decodeUtf16? true bytes
  | [_, 0x00] => decodeUtf16? false bytes
  | _ => decodeUtf8? bytes

example : decode? (encode "é😀") = some "é😀".toList := by decide +kernel

end CellGraph.Utf
