import EventRelay.Json.Document
import EventRelay.Json.Printer
import EventRelay.Proofs.Http.Fields

set_option autoImplicit false

/-!
Strings as JSON text. A string is read from the text that is written for it, whatever characters it
has and whatever follows it: each character is read from what is written for it.
-/
namespace EventRelay

namespace Text

theorem encode_append (first second : String) :
    encode (first ++ second) = encode first ++ encode second := by
  simp [encode_eq_flatMap]

theorem decode?_encode (text : String) : decode? (encode text) = some text := by
  have valid : text.toUTF8.IsValidUTF8 := text.isValidUTF8
  have same : (⟨(encode text).toArray⟩ : ByteArray) = text.toUTF8 := by simp [encode]
  rw [decode?, same, String.fromUTF8?, dif_pos valid]
  rfl

theorem toNat_of_mem_utf8EncodeChar {c : Char} {byte : UInt8}
    (member : byte ∈ String.utf8EncodeChar c) : byte.toNat = c.toNat ∨ 0x80 ≤ byte.toNat := by
  by_cases ascii : c.toNat ≤ 127
  · rw [utf8EncodeChar_of_ascii ascii, List.mem_singleton] at member
    left
    rw [member, UInt8.toNat_ofNat']
    omega
  · right
    have number : c.val.toNat = c.toNat := rfl
    have large : ∀ n, 0x80 ≤ n → n < 0x100 → 0x80 ≤ (UInt8.ofNat n).toNat := by
      intro n least most
      rw [UInt8.toNat_ofNat']
      omega
    unfold String.utf8EncodeChar at member
    simp only [number, ascii, ↓reduceIte] at member
    split at member
    · simp only [List.mem_cons, List.not_mem_nil, or_false] at member
      rcases member with rfl | rfl
      all_goals exact large _ (by omega) (by omega)
    · split at member
      · simp only [List.mem_cons, List.not_mem_nil, or_false] at member
        rcases member with rfl | rfl | rfl
        all_goals exact large _ (by omega) (by omega)
      · simp only [List.mem_cons, List.not_mem_nil, or_false] at member
        rcases member with rfl | rfl | rfl | rfl
        all_goals exact large _ (by omega) (by omega)

end Text

namespace Json.Document

section Reading
variable {rest after : Bytes} {pieces : List Piece}

theorem stringContent?_byte {byte : UInt8}
    (plain : 0x20 ≤ byte.toNat ∧ byte.toNat ≠ 0x22 ∧ byte.toNat ≠ 0x5C)
    (reads : stringContent? rest = some (pieces, after)) :
    stringContent? (byte :: rest) = some (.byte byte :: pieces, after) := by
  have quote : byte ≠ 0x22 := fun same => plain.2.1 (by rw [same]; rfl)
  have backslash : byte ≠ 0x5C := fun same => plain.2.2 (by rw [same]; rfl)
  have printable : ¬ byte < 0x20 := by
    rw [UInt8.lt_iff_toNat_lt]
    exact Nat.not_lt.mpr plain.1
  rw [stringContent?]
  · simp [printable, backslash, reads]
  all_goals simp [quote, backslash]

theorem stringContent?_bytes {bytes : Bytes}
    (plain : ∀ byte ∈ bytes, 0x20 ≤ byte.toNat ∧ byte.toNat ≠ 0x22 ∧ byte.toNat ≠ 0x5C)
    (reads : stringContent? rest = some (pieces, after)) :
    stringContent? (bytes ++ rest) = some (bytes.map .byte ++ pieces, after) := by
  induction bytes with
  | nil => exact reads
  | cons byte bytes ih =>
      obtain ⟨first, others⟩ := List.forall_mem_cons.mp plain
      exact stringContent?_byte first (ih others)

theorem contentBytes?_bytes {found : Bytes} (bytes : Bytes)
    (reads : contentBytes? pieces = some found) :
    contentBytes? (bytes.map .byte ++ pieces) = some (bytes ++ found) := by
  induction bytes with
  | nil => exact reads
  | cons byte bytes ih => simp [contentBytes?, ih]

/-- A unit that is no half of a pair is a character, whatever follows it. -/
theorem contentBytes?_unit {u : Nat} {found : Bytes} (small : u < 0xD800)
    (reads : contentBytes? pieces = some found) :
    contentBytes? (.unit u :: pieces) =
      some (Text.encode (String.singleton (Char.ofNat u)) ++ found) := by
  have high : ¬ (0xD800 ≤ u ∧ u < 0xDC00) := by omega
  have low : ¬ (0xDC00 ≤ u ∧ u < 0xE000) := by omega
  have either : ¬ (0xD800 ≤ u ∧ u < 0xE000) := by omega
  match pieces with
  | [] =>
      rw [contentBytes?, if_neg either, reads, Option.map_some]
      exact nofun
  | .byte b :: others =>
      rw [contentBytes?, if_neg either, reads, Option.map_some]
      exact nofun
  | .unit v :: others => rw [contentBytes?, if_neg high, if_neg low, reads, Option.map_some]

end Reading

def written (c : Char) : Bytes := (escapedChar c).flatMap String.utf8EncodeChar

/-- A character is read from what is written for it, whatever stands after it. -/
def Survives (c : Char) : Prop :=
  ∃ own : List Piece,
    (∀ rest pieces after, stringContent? rest = some (pieces, after) →
      stringContent? (written c ++ rest) = some (own ++ pieces, after)) ∧
    ∀ pieces found, contentBytes? pieces = some found →
      contentBytes? (own ++ pieces) = some (String.utf8EncodeChar c ++ found)

theorem survives_of_short {c : Char} {letter byte : UInt8} (own : written c = [0x5C, letter])
    (short : shortEscape? letter = some byte) (same : String.utf8EncodeChar c = [byte]) :
    Survives c := by
  refine ⟨[.byte byte], ?_, fun pieces found reads => ?_⟩
  · intro rest pieces after reads
    have unnumbered : letter ≠ 0x75 := by
      rintro rfl
      cases short
    rw [own, List.cons_append, List.singleton_append, stringContent?]
    · simp [short, reads]
    · simp [unnumbered]
  · rw [same]
    exact contentBytes?_bytes [byte] reads

/-- Characters with an escape of one letter, the letter, and the byte that it stands for. -/
def shortEscapes : List (Char × UInt8 × UInt8) :=
  [('"', 0x22, 0x22), ('\\', 0x5C, 0x5C), ('\n', 0x6E, 0x0A), ('\r', 0x72, 0x0D),
    ('\t', 0x74, 0x09), ('\x08', 0x62, 0x08), ('\x0c', 0x66, 0x0C)]

theorem shortEscapes_fit : ∀ entry ∈ shortEscapes, written entry.1 = [0x5C, entry.2.1] ∧
    shortEscape? entry.2.1 = some entry.2.2 ∧ String.utf8EncodeChar entry.1 = [entry.2.2] := by
  decide +kernel

/-- The digit of a number below sixteen, as a byte. -/
def hexDigit (n : Nat) : UInt8 := UInt8.ofNat (Nat.digitChar n).toNat

theorem unit?_hexDigit : ∀ n < 0x20,
    (hexPair n).flatMap String.utf8EncodeChar = [hexDigit (n / 16), hexDigit (n % 16)] ∧
      unit? 0x30 0x30 (hexDigit (n / 16)) (hexDigit (n % 16)) = some n := by
  decide +kernel

theorem survives_of_numbered {c : Char} (control : c.toNat < 0x20)
    (own : escapedChar c = ['\\', 'u', '0', '0'] ++ hexPair c.toNat) : Survives c := by
  obtain ⟨digits, value⟩ := unit?_hexDigit c.toNat control
  have bytes : written c =
      [0x5C, 0x75, 0x30, 0x30, hexDigit (c.toNat / 16), hexDigit (c.toNat % 16)] := by
    rw [written, own, List.flatMap_append, digits]
    rfl
  refine ⟨[.unit c.toNat], ?_, fun pieces found reads => ?_⟩
  · intro rest pieces after reads
    simp only [bytes, List.cons_append, List.nil_append, stringContent?, value, reads, bind,
      Option.bind_some]
    rfl
  · rw [List.singleton_append, contentBytes?_unit (by omega) reads, Char.ofNat_toNat,
      encode_eq_flatMap]
    simp

theorem survives_of_plain {c : Char} (printable : 0x20 ≤ c.toNat) (quote : c ≠ '"')
    (backslash : c ≠ '\\') (own : escapedChar c = [c]) : Survives c := by
  have bytes : written c = String.utf8EncodeChar c := by
    rw [written, own, List.flatMap_singleton]
  refine ⟨(String.utf8EncodeChar c).map .byte, ?_, fun pieces found reads => ?_⟩
  · intro rest pieces after reads
    rw [bytes]
    refine stringContent?_bytes (fun byte member => ?_) reads
    have first : c.toNat ≠ 0x22 := fun same => quote (Char.toNat_inj.mp same)
    have second : c.toNat ≠ 0x5C := fun same => backslash (Char.toNat_inj.mp same)
    rcases Text.toNat_of_mem_utf8EncodeChar member with same | large
    · omega
    · omega
  · exact contentBytes?_bytes _ reads

/-- Every character is read from what is written for it. -/
theorem survives (c : Char) : Survives c := by
  by_cases short : ∃ entry ∈ shortEscapes, c = entry.1
  · obtain ⟨entry, member, rfl⟩ := short
    obtain ⟨own, stands, same⟩ := shortEscapes_fit entry member
    exact survives_of_short own stands same
  · simp only [shortEscapes, List.mem_cons, List.not_mem_nil, or_false, exists_eq_or_imp,
      exists_eq_left, not_or] at short
    obtain ⟨quote, backslash, newline, ret, tab, backspace, feed⟩ := short
    have eight : c.toNat ≠ 0x8 := fun same => backspace (Char.toNat_inj.mp same)
    have twelve : c.toNat ≠ 0xC := fun same => feed (Char.toNat_inj.mp same)
    by_cases control : c.toNat < 0x20
    · exact survives_of_numbered control (by simp [escapedChar, *])
    · exact survives_of_plain (Nat.not_lt.mp control) quote backslash (by simp [escapedChar, *])

theorem stringContent?_written (cs : List Char) (rest : Bytes) : ∃ pieces,
    stringContent? (cs.flatMap written ++ 0x22 :: rest) = some (pieces, rest) ∧
      contentBytes? pieces = some (cs.flatMap String.utf8EncodeChar) := by
  induction cs with
  | nil => exact ⟨[], rfl, rfl⟩
  | cons c cs ih =>
      obtain ⟨pieces, reads, content⟩ := ih
      obtain ⟨own, readsOwn, contentOwn⟩ := survives c
      refine ⟨own ++ pieces, ?_, ?_⟩
      · rw [List.flatMap_cons, List.append_assoc]
        exact readsOwn _ _ _ reads
      · rw [List.flatMap_cons]
        exact contentOwn _ _ content

theorem encode_stringText (s : String) :
    Text.encode (stringText s) = 0x22 :: (s.toList.flatMap written ++ [0x22]) := by
  have quote : String.utf8EncodeChar '"' = [0x22] := by decide +kernel
  simp only [encode_eq_flatMap, stringText, String.toList_ofList, List.cons_append,
    List.flatMap_cons, List.flatMap_append, List.flatMap_nil, List.append_nil, quote,
    List.nil_append, List.flatMap_assoc]
  rfl

/-- A string is read from what is written for it, whatever follows. -/
theorem exists_stringContent? (s : String) (rest : Bytes) : ∃ content pieces,
    Text.encode (stringText s) ++ rest = 0x22 :: content ∧
      stringContent? content = some (pieces, rest) ∧ contentText? pieces = some s := by
  obtain ⟨pieces, reads, bytes⟩ := stringContent?_written s.toList rest
  refine ⟨s.toList.flatMap written ++ 0x22 :: rest, pieces, ?_, reads, ?_⟩
  · simp [encode_stringText]
  · rw [contentText?, bytes, ← encode_eq_flatMap, Option.bind_some, Text.decode?_encode]

end Json.Document
end EventRelay
