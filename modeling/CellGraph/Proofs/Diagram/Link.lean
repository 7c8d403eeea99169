import CellGraph.Diagram.Link
import CellGraph.Proofs.Codec.Base64
import CellGraph.Proofs.Codec.Zlib
import CellGraph.Proofs.Json.Reading

/-!
# Reading links

A diagram passes four layers on its way into a link: a JSON text, its bytes, packed bytes and their
base64 text, of which the padding is left out. Each layer is read back, however the bytes are packed
and whether or not the marker and the padding are there (`decode_encode`).
-/

namespace CellGraph.Link

open Base64 (isSafe padding)

/-- A text that is a link to a diagram: behind the marker the state of the diagram, packed in any way
that unpacking undoes. -/
def IsLink (diagram link : Text) : Prop :=
  ∃ packed, Zlib.unpack? packed = some (Utf.encode ((state diagram).text .spaced)) ∧
    link = marker ++ Text.trimEnd (· == '=') (Base64.encode packed)

theorem isLink_encode (diagram : Text) : IsLink diagram (encode diagram) :=
  ⟨_, Zlib.unpack?_pack _, rfl⟩

/-! ## The marker and the padding -/

/-- The equals signs that are added to a word with its padding are none. -/
theorem padding_append (word : Text) : padding (word ++ padding word) = [] := by
  have whole : (4 - (word ++ padding word).length % 4) % 4 = 0 := by
    simp only [padding, List.length_append, List.length_replicate]
    omega
  rw [padding, whole]
  rfl

theorem ascii_of_isSafe {c : Char} (safe : isSafe c) : c.toNat < 0x80 := by
  simp only [isSafe, Text.isWordChar, Bool.or_eq_true, beq_iff_eq] at safe
  rcases safe with (alphanumeric | rfl) | rfl
  · have printable := Text.printable_of_isAlphanum alphanumeric
    exact Nat.lt_succ_of_lt printable.2
  · decide
  · decide

theorem ascii_of_mem_encode {bytes : List UInt8} {c : Char} (member : c ∈ Base64.encode bytes) :
    c.toNat < 0x80 := by
  obtain ⟨word, safe, written⟩ := Base64.exists_encode bytes
  rw [written] at member
  rcases List.mem_append.1 member with inWord | inPadding
  · exact ascii_of_isSafe (safe c inWord)
  · rw [List.eq_of_mem_replicate inPadding]
    decide

theorem not_colon_of_mem_encode (bytes : List UInt8) : ':' ∉ Base64.encode bytes := by
  obtain ⟨word, safe, written⟩ := Base64.exists_encode bytes
  rw [written]
  intro member
  rcases List.mem_append.1 member with inWord | inPadding
  · exact absurd (safe _ inWord) (by decide)
  · exact absurd (List.eq_of_mem_replicate inPadding) (by decide)

/-- The marker is taken off where it stands, and nothing else is. -/
theorem after?_marker (t : Text) : Text.after? marker (marker ++ t) = some t := by
  simp [Text.after?]

theorem after?_marker_eq_none {t : Text} (noColon : ':' ∉ t) : Text.after? marker t = none := by
  have noMarker : ¬ marker.isPrefixOf t := by
    intro starts
    have colon : ':' ∈ marker := by decide
    exact noColon ((List.isPrefixOf_iff_prefix.1 starts).subset colon)
  rw [Text.after?, if_neg noMarker]

/-- A text whose padded form is the base64 text of packed bytes holds what unpacking gives. -/
theorem stateBytes_of_padded {packed bytes : List UInt8} {encoded t : Text}
    (unpacked : Zlib.unpack? packed = some bytes)
    (found : (Text.after? marker encoded).getD encoded = t)
    (written : t ++ padding t = Base64.encode packed) : stateBytes encoded = .ok bytes := by
  have ascii : ¬ (Base64.encode packed).any (fun c => 0x80 ≤ c.toNat) = true := by
    intro beyond
    obtain ⟨c, member, high⟩ := List.any_eq_true.1 beyond
    exact absurd (ascii_of_mem_encode member) (Nat.not_lt.2 (of_decide_eq_true high))
  rw [padding] at written
  simp only [stateBytes, found, written, if_neg ascii, Base64.decode?_encode, unpacked]

/-! ## The state -/

theorem decode?_state (diagram : Text) :
    Utf.decode? (Utf.encode ((state diagram).text .spaced)) =
      some ((state diagram).text .spaced) := by
  have start : Utf.encode ((state diagram).text .spaced) =
      0x7B :: 0x22 :: Utf.encode (((state diagram).text .spaced).drop 2) := rfl
  -- A brace and a quotation mark show no encoding but UTF-8.
  have shown (bytes : List UInt8) :
      Utf.decode? (0x7B :: 0x22 :: bytes) = Utf.decodeUtf8? (0x7B :: 0x22 :: bytes) := rfl
  rw [start, shown, ← start, Utf.decodeUtf8?_encode]

/-- The state of a diagram holds the diagram. -/
theorem decode_of_stateBytes {encoded diagram : Text}
    (found : stateBytes encoded = .ok (Utf.encode ((state diagram).text .spaced))) :
    decode encoded = .ok (.string diagram) := by
  have blank : Json.Style.spaced.Blank := Json.Style.blank_of_all (by decide)
  have integral : Json.Integral (state diagram) := by
    simp only [state, Json.Integral, Json.IntegralMembers, and_self]
  have read := Json.read?_text blank integral
  simp only [decode, found, bind, Except.bind, decode?_state, read]
  rfl

/-! ## The result -/

/-- For every diagram, whatever its characters: its link is the marker and a word of letters,
digits, underscores and hyphens, and the diagram is read from the link, from the word alone, and
from both with the padding of the word. That holds of every link to the diagram, however its state
is packed. -/
theorem decode_encode (diagram : Text) :
    IsLink diagram (encode diagram) ∧
    ∀ link, IsLink diagram link →
      ∃ word, link = marker ++ word ∧ (∀ c ∈ word, isSafe c) ∧
        ∀ text ∈ [link, word, link ++ padding word, word ++ padding word],
          decode text = .ok (.string diagram) := by
  refine ⟨isLink_encode diagram, ?_⟩
  rintro link ⟨packed, unpacked, rfl⟩
  obtain ⟨safe, written⟩ := Base64.encode_eq_trimEnd packed
  generalize Text.trimEnd (· == '=') (Base64.encode packed) = word at safe written
  have noColon := not_colon_of_mem_encode packed
  refine ⟨word, rfl, safe, ?_⟩
  have taken (t : Text) : (Text.after? marker (marker ++ t)).getD (marker ++ t) = t := by
    rw [after?_marker, Option.getD_some]
  have left {t : Text} (noColon : ':' ∉ t) : (Text.after? marker t).getD t = t := by
    rw [after?_marker_eq_none noColon, Option.getD_none]
  have padded : (word ++ padding word) ++ padding (word ++ padding word) =
      Base64.encode packed := by
    rw [padding_append, List.append_nil, written]
  rw [written, List.mem_append, not_or] at noColon
  simp only [List.forall_mem_cons]
  refine ⟨?_, ?_, ?_, ?_, List.forall_mem_nil _⟩
  · exact decode_of_stateBytes (stateBytes_of_padded unpacked (taken word) written.symm)
  · exact decode_of_stateBytes (stateBytes_of_padded unpacked (left noColon.1) written.symm)
  · rw [List.append_assoc]
    exact decode_of_stateBytes (stateBytes_of_padded unpacked (taken _) padded)
  · have noColon : ':' ∉ word ++ padding word := List.not_mem_append noColon.1 noColon.2
    exact decode_of_stateBytes (stateBytes_of_padded unpacked (left noColon) padded)

/-- A text with a quote, a character beyond ASCII and a line break. -/
def labelled : Text := "\"é\n"

/-- The state of that text as a diagram, in a compressed block. -/
def deflated : List UInt8 := [
  120, 218, 171, 86, 74, 206, 79, 73, 85, 178, 82, 80, 138, 81, 138, 41, 53, 48, 72, 181, 140, 201,
  83, 210, 81, 80, 202, 77, 45, 202, 77, 204, 76, 1, 74, 84, 43, 149, 100, 164, 230, 130, 149, 164,
  164, 166, 37, 150, 230, 148, 40, 213, 214, 2, 0, 202, 163, 17, 40]

def deflatedWord : Text :=
  "eNqrVkrOT0lVslJQilGKKTUwSLWMyVPSUVDKTS3KTcxMAUpUK5VkpOaClaSkpiWW5pQo1dYCAMqjESg"

theorem decode_encode_deflated :
    IsLink labelled (marker ++ deflatedWord) ∧
      decode (marker ++ deflatedWord) = .ok (.string labelled) ∧
      decode (deflatedWord ++ "=") = .ok (.string labelled) := by
  have unpacked : Zlib.unpack? deflated = some (Utf.encode ((state labelled).text .spaced)) := by
    decide +kernel
  have written : deflatedWord = Text.trimEnd (· == '=') (Base64.encode deflated) := by
    decide +kernel
  have link : IsLink labelled (marker ++ deflatedWord) := ⟨deflated, unpacked, by rw [written]⟩
  obtain ⟨word, same, -, read⟩ := (decode_encode labelled).2 _ link
  obtain rfl : deflatedWord = word := List.append_cancel_left same
  have padded : padding deflatedWord = "=" := by decide +kernel
  rw [padded] at read
  exact ⟨link, read _ (by simp), read _ (by simp)⟩

end CellGraph.Link
