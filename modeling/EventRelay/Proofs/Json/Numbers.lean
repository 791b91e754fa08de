import EventRelay.Proofs.Json.Texts

set_option autoImplicit false

/-!
Whole numbers as JSON text. The digits of a number that fits 64 bits are read as the number,
wherever they stand: no zero stands in front of another digit, and none is left out.
-/
namespace EventRelay.Json

def digitBytes (n : Nat) : Bytes := (Nat.toDigits 10 n).map fun c => UInt8.ofNat c.toNat

section Digits
variable {n : Nat}

theorem byte_digitChar : ∀ m < 10,
    UInt8.ofNat (Nat.digitChar m).toNat = UInt8.ofNat (48 + m) := by decide

theorem digitBytes_of_lt (small : n < 10) : digitBytes n = [UInt8.ofNat (48 + n)] := by
  rw [digitBytes, Nat.toDigits_of_lt_base small, List.map_singleton, byte_digitChar n small]

theorem digitBytes_of_le (large : 10 ≤ n) :
    digitBytes n = digitBytes (n / 10) ++ [UInt8.ofNat (48 + n % 10)] := by
  have last : n % 10 < 10 := Nat.mod_lt n (by decide)
  rw [digitBytes, Nat.toDigits_of_base_le (by decide) large, List.map_append, List.map_singleton,
    byte_digitChar _ last, digitBytes]

theorem toNat_digit {m : Nat} (small : m < 10) : (UInt8.ofNat (48 + m)).toNat = 48 + m := by
  rw [UInt8.toNat_ofNat']
  omega

theorem isDigit_digit {m : Nat} (small : m < 10) :
    Document.isDigit (UInt8.ofNat (48 + m)) = true := by
  simp only [Document.isDigit, Bool.and_eq_true, decide_eq_true_eq, UInt8.le_iff_toNat_le,
    toNat_digit small, UInt8.reduceToNat]
  omega

theorem isDigit_of_mem_digitBytes (n : Nat) :
    ∀ byte ∈ digitBytes n, Document.isDigit byte = true := by
  induction n using Nat.strongRecOn with
  | ind n ih =>
      intro byte member
      by_cases small : n < 10
      · rw [digitBytes_of_lt small, List.mem_singleton] at member
        exact member ▸ isDigit_digit small
      · rw [digitBytes_of_le (by omega), List.mem_append, List.mem_singleton] at member
        rcases member with before | last
        · exact ih (n / 10) (by omega) byte before
        · exact last ▸ isDigit_digit (Nat.mod_lt n (by decide))

theorem exists_digitBytes_eq_cons (n : Nat) : ∃ first rest, digitBytes n = first :: rest ∧
    (0 < n → first ≠ 0x30) ∧ (rest ≠ [] → 0 < n) := by
  induction n using Nat.strongRecOn with
  | ind n ih =>
      by_cases small : n < 10
      · refine ⟨_, [], digitBytes_of_lt small, ?_, fun more => absurd rfl more⟩
        intro positive same
        have values := congrArg UInt8.toNat same
        rw [toNat_digit small] at values
        have zero : (0x30 : UInt8).toNat = 48 := rfl
        omega
      · obtain ⟨first, rest, same, nonzero, -⟩ := ih (n / 10) (by omega)
        refine ⟨first, rest ++ [UInt8.ofNat (48 + n % 10)], ?_, ?_, fun _ => by omega⟩
        · rw [digitBytes_of_le (by omega), same, List.cons_append]
        · exact fun _ => nonzero (by omega)

theorem whole_digit {m : Nat} (small : m < 10) (fits : n * 10 + m ≤ maxDigits) :
    Digits.whole ⟨n, 0, false⟩ (UInt8.ofNat (48 + m)) = ⟨n * 10 + m, 0, false⟩ := by
  have value : digitValue (UInt8.ofNat (48 + m)) = m := by
    rw [digitValue, toNat_digit small]
    omega
  have room : ¬ maxDigits < n * 10 + m := by omega
  simp only [Digits.whole, value, Bool.false_eq_true, room, or_self, ↓reduceIte]

theorem foldl_whole_digitBytes (fits : n ≤ maxDigits) :
    (digitBytes n).foldl Digits.whole ⟨0, 0, false⟩ = ⟨n, 0, false⟩ := by
  induction n using Nat.strongRecOn with
  | ind n ih =>
      by_cases small : n < 10
      · rw [digitBytes_of_lt small]
        have step := whole_digit (n := 0) small (by omega)
        rwa [Nat.zero_mul, Nat.zero_add] at step
      · have last : n % 10 < 10 := Nat.mod_lt n (by decide)
        have whole : n / 10 * 10 + n % 10 = n := by omega
        have step := whole_digit (n := n / 10) last (by omega)
        rw [whole] at step
        rw [digitBytes_of_le (by omega), List.foldl_append, ih (n / 10) (by omega) (by omega)]
        exact step

end Digits

section Numerals
variable {n : Nat} {rest : Bytes}

theorem takeWhile_isDigit_of_ends (ends : Ends rest) : rest.takeWhile Document.isDigit = [] := by
  cases rest with
  | nil => rfl
  | cons byte rest =>
      apply List.takeWhile_cons_of_neg
      rcases ends with rfl | rfl | rfl
      · decide
      · decide
      · decide

theorem digits?_digitBytes (n : Nat) (ends : Ends rest) :
    Document.digits? (digitBytes n ++ rest) = some (digitBytes n, rest) := by
  have digits := isDigit_of_mem_digitBytes n
  have stops := takeWhile_isDigit_of_ends ends
  have left : rest.dropWhile Document.isDigit = rest := by
    have both := List.takeWhile_append_dropWhile (p := Document.isDigit) (l := rest)
    rwa [stops, List.nil_append] at both
  have found : (digitBytes n ++ rest).takeWhile Document.isDigit = digitBytes n := by
    rw [List.takeWhile_append_of_pos digits, stops, List.append_nil]
  have after : (digitBytes n ++ rest).dropWhile Document.isDigit = rest := by
    rw [List.dropWhile_append_of_pos digits, left]
  obtain ⟨first, others, same, -⟩ := exists_digitBytes_eq_cons n
  rw [Document.digits?, found, after, same]

theorem whole?_digitBytes (n : Nat) (ends : Ends rest) :
    Document.whole? (digitBytes n ++ rest) = some (digitBytes n, rest) := by
  obtain ⟨first, others, same, nonzero, more⟩ := exists_digitBytes_eq_cons n
  rw [Document.whole?, digits?_digitBytes n ends, same]
  simp only [Option.bind_eq_bind, Option.bind_some]
  split
  · rename_i equal
    have apart : first ≠ 0x30 := nonzero (more (by rw [List.tail_eq_of_cons_eq equal]; simp))
    exact absurd (List.head_eq_of_cons_eq equal) apart
  · rfl

theorem ne_of_isDigit {first other : UInt8} (digit : Document.isDigit first = true)
    (no : Document.isDigit other = false) : first ≠ other := by
  rintro rfl
  rw [digit] at no
  cases no

theorem digitBytes_append_ne {byte : UInt8} (no : Document.isDigit byte = false) (n : Nat)
    (rest bytes : Bytes) : digitBytes n ++ rest ≠ byte :: bytes := by
  intro same
  obtain ⟨first, others, digits, -⟩ := exists_digitBytes_eq_cons n
  have digit := isDigit_of_mem_digitBytes n first (by simp [digits])
  rw [digits] at same
  exact ne_of_isDigit digit no (List.head_eq_of_cons_eq same)

theorem not_ends_cons {byte : UInt8} (apart : byte ≠ 0x2C ∧ byte ≠ 0x5D ∧ byte ≠ 0x7D) :
    ¬ Ends (byte :: rest) := by
  rintro (comma | bracket | brace)
  · exact apart.1 comma
  · exact apart.2.1 bracket
  · exact apart.2.2 brace

theorem fraction?_of_ends (ends : Ends rest) : Document.fraction? rest = some (none, rest) := by
  unfold Document.fraction?
  split
  · exact absurd ends (not_ends_cons (by decide))
  · rfl

theorem exponent?_of_ends (ends : Ends rest) : Document.exponent? rest = some (none, rest) := by
  unfold Document.exponent?
  split
  · exact absurd ends (not_ends_cons (by decide))
  · exact absurd ends (not_ends_cons (by decide))
  · rfl

theorem numeral?_digitBytes (n : Nat) (ends : Ends rest) :
    Document.numeral? (digitBytes n ++ rest) = some (⟨false, digitBytes n, none, none⟩, rest) := by
  have whole := whole?_digitBytes n ends
  unfold Document.numeral?
  split
  rename_i negative bytes sign
  split at sign
  · rename_i equal
    exact absurd equal (digitBytes_append_ne (by decide) n rest _)
  · cases sign
    simp only [whole, Option.bind_eq_bind, Option.bind_some, fraction?_of_ends ends,
      exponent?_of_ends ends]
    rfl

theorem value?_digitBytes (fits : n ≤ maxDigits) :
    Numeral.value? ⟨false, digitBytes n, none, none⟩ = some (.integer n) := by
  simp only [Numeral.value?, foldl_whole_digitBytes fits]
  rfl

theorem starts_digitBytes (n : Nat) : Starts (digitBytes n) := by
  have digits := isDigit_of_mem_digitBytes n
  obtain ⟨first, others, same, -⟩ := exists_digitBytes_eq_cons n
  have digit : Document.isDigit first = true := digits first (by simp [same])
  rw [same]
  refine ⟨?_, ne_of_isDigit digit (by decide), ne_of_isDigit digit (by decide)⟩
  have apart : ∀ other, Document.isDigit other = false → first ≠ other :=
    fun other no => ne_of_isDigit digit no
  simp only [Document.isBlank, Bool.or_eq_false_iff, beq_eq_false_iff_ne]
  exact ⟨⟨⟨apart _ (by decide), apart _ (by decide)⟩, apart _ (by decide)⟩, apart _ (by decide)⟩

theorem scalar_digitBytes (fits : n ≤ maxDigits) (ends : Ends rest) :
    Document.scalar (digitBytes n ++ rest) = Document.read (.number (.integer n)) rest := by
  have numeral := numeral?_digitBytes n ends
  unfold Document.scalar
  split
  · rename_i equal
    exact absurd equal (digitBytes_append_ne (by decide) n rest _)
  · rename_i equal
    exact absurd equal (digitBytes_append_ne (by decide) n rest _)
  · rename_i equal
    exact absurd equal (digitBytes_append_ne (by decide) n rest _)
  · rename_i equal
    exact absurd equal (digitBytes_append_ne (by decide) n rest _)
  · simp only [numeral, value?_digitBytes fits]

theorem valueAt_digitBytes (fits : n ≤ maxDigits) (ends : Ends rest) (fuel depth : Nat) :
    Document.valueAt (fuel + 1) depth (digitBytes n ++ rest) =
      Document.read (.number (.integer n)) rest := by
  have unblank := skipBlanks_of_starts ((starts_digitBytes n).append rest)
  rw [Document.valueAt, unblank]
  split
  · rename_i equal
    exact absurd equal (digitBytes_append_ne (by decide) n rest _)
  · rename_i equal
    exact absurd equal (digitBytes_append_ne (by decide) n rest _)
  · exact scalar_digitBytes fits ends

end Numerals

theorem encode_ofNat (n : Nat) : Text.encode (compact (ofNat n)) = digitBytes n := by
  have digits : compact (ofNat n) = String.ofList (Nat.toDigits 10 n) :=
    Nat.toString_eq_ofList_toDigits
  rw [digits, encode_eq_flatMap, String.toList_ofList, digitBytes, List.map_eq_flatMap]
  refine List.flatMap_congr fun c member => utf8EncodeChar_of_ascii ?_
  have digit := Nat.isDigit_of_mem_toDigits (by decide) (by decide) member
  have most : c.toNat ≤ 57 := by
    simp only [Char.isDigit, Bool.and_eq_true, decide_eq_true_eq, UInt32.le_iff_toNat_le] at digit
    exact digit.2
  omega

/-- A number that fits 64 bits is read from its digits, wherever they stand. -/
theorem legible_ofNat {n : Nat} (fits : n ≤ maxDigits) (depth : Nat) : Legible depth (ofNat n) := by
  refine .number ⟨?_, fun fuel rest ends enough => ?_⟩
  · have starts := starts_digitBytes n
    rwa [← encode_ofNat] at starts
  · have written := encode_ofNat n
    rw [ofNat] at written
    rw [written] at enough ⊢
    obtain ⟨first, others, same, -⟩ := exists_digitBytes_eq_cons n
    cases fuel with
    | zero =>
        rw [same] at enough
        cases enough
    | succ fuel => exact valueAt_digitBytes fits ends fuel depth

end EventRelay.Json
