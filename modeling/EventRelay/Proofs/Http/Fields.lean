import EventRelay.Http.Headers
import EventRelay.Identifier
import Mathlib.Data.List.Basic
import Mathlib.Data.List.Perm.Basic

set_option autoImplicit false

/-!
Header fields and their texts. A text of printable ASCII characters and tabs may be a value and is
read as it was put there, and every text that is read is of this form; texts of visible characters
are among them. A name that is told only once is found wherever its field stands.
-/
namespace EventRelay

theorem encode_eq_flatMap (text : String) :
    Text.encode text = text.toList.flatMap String.utf8EncodeChar := by
  rw [Text.encode, String.toUTF8_eq_toByteArray, ← String.utf8Encode_toList, List.utf8Encode]
  simp

/-- Whether a character may stand in a field that is read as text. -/
def isFieldChar (c : Char) : Bool := (0x20 ≤ c.toNat && c.toNat ≤ 0x7E) || c.toNat == 0x09

def isFieldText (text : String) : Bool := text.toList.all isFieldChar

section Texts
variable {c : Char} {text : String} {field : HeaderField}

theorem toNat_le_of_isFieldChar (allowed : isFieldChar c = true) : c.toNat ≤ 0x7E := by
  simp only [isFieldChar, Bool.or_eq_true, Bool.and_eq_true, decide_eq_true_eq, beq_iff_eq]
    at allowed
  omega

theorem utf8EncodeChar_of_ascii (small : c.toNat ≤ 127) :
    String.utf8EncodeChar c = [UInt8.ofNat c.toNat] := by
  have size : c.utf8Size = 1 := by
    rw [Char.utf8Size_eq_one_iff, UInt32.le_iff_toNat_le]
    exact small
  rw [String.utf8EncodeChar_eq_singleton size]
  rfl

theorem encode_of_isFieldText (fits : isFieldText text = true) :
    Text.encode text = text.toList.map fun c => UInt8.ofNat c.toNat := by
  rw [encode_eq_flatMap, List.map_eq_flatMap]
  refine List.flatMap_congr fun c member => utf8EncodeChar_of_ascii ?_
  exact Nat.le_succ_of_le (toNat_le_of_isFieldChar (List.all_eq_true.mp fits c member))

theorem toNat_byte (allowed : isFieldChar c = true) : (UInt8.ofNat c.toNat).toNat = c.toNat := by
  have bound := toNat_le_of_isFieldChar allowed
  rw [UInt8.toNat_ofNat']
  omega

theorem all_encode_of_isFieldText (fits : isFieldText text = true) {allowed : UInt8 → Bool}
    (allows : ∀ byte : UInt8, 0x20 ≤ byte.toNat ∧ byte.toNat ≤ 0x7E ∨ byte.toNat = 0x09 →
      allowed byte = true) :
    (Text.encode text).all allowed = true := by
  rw [encode_of_isFieldText fits, List.all_map, List.all_eq_true]
  intro c member
  have stands := List.all_eq_true.mp fits c member
  refine allows _ ?_
  rw [toNat_byte stands]
  simpa [isFieldChar] using stands

theorem isValue_of_isFieldText (fits : isFieldText text = true) :
    HeaderField.isValue (Text.encode text) = true := by
  refine all_encode_of_isFieldText fits fun byte allowed => ?_
  simp only [Bool.or_eq_true, Bool.and_eq_true, decide_eq_true_eq, bne_iff_ne, ne_eq, beq_iff_eq,
    UInt8.le_iff_toNat_le, ← UInt8.toNat_inj, UInt8.reduceToNat]
  omega

theorem text?_of_isFieldText (name : String) (fits : isFieldText text = true) :
    HeaderField.text? ⟨name, Text.encode text⟩ = some text := by
  have readable : (Text.encode text).all (fun b => (0x20 ≤ b && b < 0x7F) || b == 0x09) = true := by
    refine all_encode_of_isFieldText fits fun byte allowed => ?_
    simp only [Bool.or_eq_true, Bool.and_eq_true, decide_eq_true_eq, beq_iff_eq,
      UInt8.le_iff_toNat_le, UInt8.lt_iff_toNat_lt, ← UInt8.toNat_inj, UInt8.reduceToNat]
    omega
  have same : ((Text.encode text).map fun b => Char.ofNat b.toNat) = text.toList := by
    rw [encode_of_isFieldText fits, List.map_map]
    refine (List.map_congr_left fun c member => ?_).trans (List.map_id _)
    have stands := List.all_eq_true.mp fits c member
    simp only [Function.comp_apply, toNat_byte stands, Char.ofNat_toNat, id_eq]
  rw [HeaderField.text?, if_pos readable, same, String.ofList_toList]

/-- The bytes of a text that is read are its characters, of the same number. -/
theorem char_of_readable {byte : UInt8}
    (readable : (0x20 ≤ byte && byte < 0x7F || byte == 0x09) = true) :
    isFieldChar (Char.ofNat byte.toNat) = true ∧ (Char.ofNat byte.toNat).toNat = byte.toNat := by
  simp only [Bool.or_eq_true, Bool.and_eq_true, decide_eq_true_eq, beq_iff_eq,
    UInt8.le_iff_toNat_le, UInt8.lt_iff_toNat_lt, ← UInt8.toNat_inj, UInt8.reduceToNat] at readable
  have number : (Char.ofNat byte.toNat).toNat = byte.toNat := by
    have valid : byte.toNat.isValidChar := Or.inl (by omega)
    rw [Char.ofNat, dif_pos valid]
    rfl
  refine ⟨?_, number⟩
  simp only [isFieldChar, number, Bool.or_eq_true, Bool.and_eq_true, decide_eq_true_eq, beq_iff_eq]
  omega

theorem isFieldText_of_text? (read : field.text? = some text) : isFieldText text = true := by
  unfold HeaderField.text? at read
  split at read
  · rename_i readable
    cases read
    rw [isFieldText, String.toList_ofList, List.all_map, List.all_eq_true]
    exact fun byte member => (char_of_readable (List.all_eq_true.mp readable byte member)).1
  · cases read

theorem value_of_text? (read : field.text? = some text) : field.value = Text.encode text := by
  rw [encode_of_isFieldText (isFieldText_of_text? read)]
  unfold HeaderField.text? at read
  split at read
  · rename_i readable
    cases read
    rw [String.toList_ofList, List.map_map]
    refine ((List.map_congr_left fun byte member => ?_).trans (List.map_id _)).symm
    have number := (char_of_readable (List.all_eq_true.mp readable byte member)).2
    rw [Function.comp_apply, number, UInt8.ofNat_toNat, id_eq]
  · cases read

end Texts

namespace Headers
variable {headers fields : Headers} {field : HeaderField} {name : String}

theorem first?_eq_none_iff : headers.first? name = none ↔ ∀ f ∈ headers, f.name ≠ name := by
  simp [first?]

/-- A name that only one field has is found with that field. -/
theorem first?_eq_some (member : field ∈ headers)
    (only : ∀ f ∈ headers, f.name = field.name → f = field) :
    headers.first? field.name = some field := by
  cases found : headers.first? field.name with
  | none => exact absurd rfl (first?_eq_none_iff.mp found field member)
  | some f =>
      have named : f.name = field.name := by simpa using List.find?_some found
      rw [only f (List.mem_of_find?_eq_some found) named]

theorem text?_eq_none (absent : ∀ f ∈ headers, f.name ≠ name) : headers.text? name = none := by
  rw [text?, first?_eq_none_iff.mpr absent]
  rfl

theorem text?_eq_some {text : String} (fits : isFieldText text = true)
    (member : ⟨name, Text.encode text⟩ ∈ headers)
    (only : ∀ f ∈ headers, f.name = name → f = ⟨name, Text.encode text⟩) :
    headers.text? name = some text := by
  have found : headers.first? name = some ⟨name, Text.encode text⟩ := first?_eq_some member only
  rw [text?, found, Option.bind_some, text?_of_isFieldText name fits]

theorem getAll_set_self (headers : Headers) (name : String) (value : Bytes) :
    (headers.set name value).getAll name = [⟨name, value⟩] := by
  simp [getAll, set, List.filter_filter]

theorem getAll_set_of_ne {other : String} (apart : name ≠ other) (value : Bytes) :
    (headers.set other value).getAll name = headers.getAll name := by
  have kept : ∀ field : HeaderField,
      (field.name == name && field.name != other) = (field.name == name) := by
    intro field
    by_cases same : field.name = name
    · simp [same, apart]
    · simp [same]
  simp only [getAll, set, List.filter_append, List.filter_filter, kept]
  simp [Ne.symm apart]

end Headers

def isVisible (c : Char) : Bool := 0x21 ≤ c.toNat && c.toNat ≤ 0x7E

section Visible
variable {c : Char} {text : String}

theorem toNat_bounds (visible : isVisible c = true) : 0x21 ≤ c.toNat ∧ c.toNat ≤ 0x7E := by
  simpa [isVisible] using visible

theorem isFieldText_of_visible (visible : text.toList.all isVisible = true) :
    isFieldText text = true := by
  refine List.all_eq_true.mpr fun c member => ?_
  have bounds := toNat_bounds (List.all_eq_true.mp visible c member)
  simp only [isFieldChar, Bool.or_eq_true, Bool.and_eq_true, decide_eq_true_eq, beq_iff_eq]
  omega

theorem isValue_of_visible (visible : text.toList.all isVisible = true) :
    HeaderField.isValue (Text.encode text) = true :=
  isValue_of_isFieldText (isFieldText_of_visible visible)

theorem text?_of_visible (name : String) (visible : text.toList.all isVisible = true) :
    HeaderField.text? ⟨name, Text.encode text⟩ = some text :=
  text?_of_isFieldText name (isFieldText_of_visible visible)

theorem isVisible_of_isIdentifierChar (allowed : isIdentifierChar c = true) :
    isVisible c = true := by
  have number : c.val.toNat = c.toNat := rfl
  unfold isIdentifierChar Char.isAlphanum Char.isAlpha Char.isUpper Char.isLower Char.isDigit
    at allowed
  simp only [Bool.or_eq_true, Bool.and_eq_true, decide_eq_true_eq, beq_iff_eq, ge_iff_le,
    UInt32.le_iff_toNat_le, number] at allowed
  simp only [isVisible, Bool.and_eq_true, decide_eq_true_eq]
  rcases allowed with ((letter | rfl) | rfl) | rfl
  · have bounds : 48 ≤ c.toNat ∧ c.toNat ≤ 122 := by
      rcases letter with (⟨low, high⟩ | ⟨low, high⟩) | ⟨low, high⟩
      · exact ⟨Nat.le_trans (by decide) low, Nat.le_trans high (by decide)⟩
      · exact ⟨Nat.le_trans (by decide) low, Nat.le_trans high (by decide)⟩
      · exact ⟨Nat.le_trans (by decide) low, Nat.le_trans high (by decide)⟩
    omega
  all_goals decide

theorem visible_of_isIdentifier (identifies : isIdentifier text = true) :
    text.toList.all isVisible = true := by
  simp only [isIdentifier, Bool.and_eq_true, List.all_eq_true] at identifies
  rw [List.all_eq_true]
  exact fun c member => isVisible_of_isIdentifierChar (identifies.2 c member)

theorem isEmpty_of_isIdentifier (identifies : isIdentifier text = true) : text.isEmpty = false := by
  simp only [isIdentifier, Bool.and_eq_true, Bool.not_eq_true'] at identifies
  exact identifies.1

theorem isIdentifier_of_isSpaceName (spaced : isSpaceName text = true) :
    isIdentifier text = true := by
  simp only [isSpaceName, Bool.and_eq_true] at spaced
  exact spaced.2

theorem visible_of_isSpaceName (spaced : isSpaceName text = true) :
    text.toList.all isVisible = true :=
  visible_of_isIdentifier (isIdentifier_of_isSpaceName spaced)

end Visible
end EventRelay
