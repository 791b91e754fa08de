import EventRelay.Percent
import EventRelay.Proofs.Text.Utf8

set_option autoImplicit false

/-!
Texts read back from percent encoding. Where the percent sign itself is not kept, each byte can be
told from what was written for it; so different texts are written differently.
-/
namespace EventRelay.Percent

def written (kept : Char → Bool) (byte : UInt8) : List Char :=
  if byte < 0x80 ∧ kept (Char.ofNat byte.toNat) then [Char.ofNat byte.toNat] else escape byte

theorem hexDigit_lt : ∀ n < 16, (hexDigit n).toNat ≤ 127 := by decide

theorem hexValue?_hexDigit :
    ∀ n < 16, Text.hexValue? (UInt8.ofNat (hexDigit n).toNat) = some n := by
  decide

section
variable {kept : Char → Bool}

theorem decode_escape (byte : UInt8) (rest : Bytes) :
    decode ((escape byte).flatMap String.utf8EncodeChar ++ rest) = byte :: decode rest := by
  have bound := byte.toNat_lt
  have high : byte.toNat / 16 < 16 := by omega
  have low : byte.toNat % 16 < 16 := by omega
  have whole : byte.toNat / 16 * 16 + byte.toNat % 16 = byte.toNat := by omega
  have sign : String.utf8EncodeChar '%' = [0x25] := by decide
  simp only [escape, List.flatMap_cons, List.flatMap_nil, sign,
    utf8EncodeChar_of_ascii (hexDigit_lt _ high), utf8EncodeChar_of_ascii (hexDigit_lt _ low),
    List.cons_append, List.nil_append, List.append_nil, decode, hexValue?_hexDigit _ high,
    hexValue?_hexDigit _ low, whole, UInt8.ofNat_toNat]

theorem decode_of_ne {byte : UInt8} (plain : byte ≠ 0x25) (rest : Bytes) :
    decode (byte :: rest) = byte :: decode rest := by
  rw [decode]
  intro high low others same
  exact fun _ => plain same

theorem decode_written (escaped : kept '%' = false) (byte : UInt8) (rest : Bytes) :
    decode ((written kept byte).flatMap String.utf8EncodeChar ++ rest) = byte :: decode rest := by
  unfold written
  by_cases stays : byte < 0x80 ∧ kept (Char.ofNat byte.toNat) = true
  · have small : byte.toNat < 128 := UInt8.lt_iff_toNat_lt.mp stays.1
    have number : (Char.ofNat byte.toNat).toNat = byte.toNat := by
      have valid : byte.toNat.isValidChar := Or.inl (by omega)
      rw [Char.ofNat, dif_pos valid]
      rfl
    have single : String.utf8EncodeChar (Char.ofNat byte.toNat) = [byte] := by
      rw [utf8EncodeChar_of_ascii (by omega), number, UInt8.ofNat_toNat]
    have plain : byte ≠ 0x25 := by
      intro same
      have sign : kept '%' = true := by simpa [same] using stays.2
      rw [escaped] at sign
      cases sign
    rw [if_pos stays, List.flatMap_cons, single]
    exact decode_of_ne plain rest
  · rw [if_neg stays]
    exact decode_escape byte rest

theorem decode_encodeBytes (escaped : kept '%' = false) (bytes : Bytes) :
    decode ((encodeBytes kept bytes).flatMap String.utf8EncodeChar) = bytes := by
  induction bytes with
  | nil => rfl
  | cons byte rest ih =>
      have first : encodeBytes kept (byte :: rest) = written kept byte ++ encodeBytes kept rest :=
        rfl
      rw [first, List.flatMap_append, decode_written escaped, ih]

theorem encode_injective (escaped : kept '%' = false) : Function.Injective (encode kept) := by
  intro x y same
  have bytes : Text.encode x = Text.encode y := by
    have equal := congrArg (fun text => decode (Text.encode text)) same
    simpa only [encode, encode_eq_flatMap, String.toList_ofList, decode_encodeBytes escaped]
      using equal
  rw [← Text.decodeLossy_encode x, bytes, Text.decodeLossy_encode]

theorem of_mem_encode {text : String} {c : Char} (member : c ∈ (encode kept text).toList) :
    kept c = true ∨ c = '%' ∨ ∃ n < 16, c = hexDigit n := by
  rw [encode, String.toList_ofList, encodeBytes, List.mem_flatMap] at member
  obtain ⟨byte, -, here⟩ := member
  have bound := byte.toNat_lt
  by_cases stays : byte < 0x80 ∧ kept (Char.ofNat byte.toNat) = true
  · rw [if_pos stays, List.mem_singleton] at here
    exact Or.inl (here ▸ stays.2)
  · rw [if_neg stays] at here
    simp only [escape, List.mem_cons, List.not_mem_nil, or_false] at here
    right
    rcases here with sign | high | low
    · exact Or.inl sign
    · exact Or.inr ⟨byte.toNat / 16, by omega, high⟩
    · exact Or.inr ⟨byte.toNat % 16, by omega, low⟩

end

theorem decode_of_not_mem {bytes : Bytes} (plain : 0x25 ∉ bytes) : decode bytes = bytes := by
  induction bytes with
  | nil => rfl
  | cons byte rest ih =>
      rw [List.mem_cons, not_or] at plain
      rw [decode_of_ne (Ne.symm plain.1), ih plain.2]

end EventRelay.Percent
