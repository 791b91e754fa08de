import EventRelay.Base64
import Mathlib.Data.List.Nodup

set_option autoImplicit false

/-!
Bytes read back from base 64. Bytes are cut into groups of six bits, and these are written with the
digits of an alphabet; so different bytes have different texts, and a text holds nothing but digits
and padding.
-/
namespace EventRelay.Base64

/-- Bytes as groups of six bits; the last one is filled up with zeros. -/
def sextets : Bytes → List Nat
  | [] => []
  | [x] =>
    let n := x.toNat * 16
    [n / 64, n % 64]
  | [x, y] =>
    let n := (x.toNat * 256 + y.toNat) * 4
    [n / 4096, n / 64 % 64, n % 64]
  | x :: y :: z :: rest =>
    let n := (x.toNat * 256 + y.toNat) * 256 + z.toNat
    n / 262144 :: n / 4096 % 64 :: n / 64 % 64 :: n % 64 :: sextets rest

theorem lt_of_mem_sextets {bytes : Bytes} {n : Nat} (member : n ∈ sextets bytes) : n < 64 := by
  induction bytes using sextets.induct with
  | case1 => cases member
  | case2 x =>
      have bound := x.toNat_lt
      simp only [sextets, List.mem_cons, List.not_mem_nil, or_false] at member
      omega
  | case3 x y =>
      have first := x.toNat_lt
      have second := y.toNat_lt
      simp only [sextets, List.mem_cons, List.not_mem_nil, or_false] at member
      omega
  | case4 x y z rest ih =>
      have first := x.toNat_lt
      have second := y.toNat_lt
      have third := z.toNat_lt
      simp only [sextets, List.mem_cons] at member
      rcases member with here | here | here | here | later
      · omega
      · omega
      · omega
      · omega
      · exact ih later

theorem lowByte_eq {n : Nat} {byte : UInt8} (same : n % 256 = byte.toNat) : lowByte n = byte := by
  rw [lowByte, same]
  exact UInt8.ofNat_toNat

theorem decodeValues?_sextets (bytes : Bytes) : decodeValues? (sextets bytes) = some bytes := by
  induction bytes using sextets.induct with
  | case1 => rfl
  | case2 x =>
      have bound := x.toNat_lt
      generalize same : x.toNat * 16 = n
      have whole : n / 64 * 64 + n % 64 = n := by omega
      have filled : n % 16 = 0 := by omega
      have byte : n / 16 % 256 = x.toNat := by omega
      simp only [sextets, same, decodeValues?, whole, filled, ↓reduceIte]
      rw [lowByte_eq byte]
  | case3 x y =>
      have first := x.toNat_lt
      have second := y.toNat_lt
      generalize same : (x.toNat * 256 + y.toNat) * 4 = n
      have whole : (n / 4096 * 64 + n / 64 % 64) * 64 + n % 64 = n := by omega
      have filled : n % 4 = 0 := by omega
      have high : n / 1024 % 256 = x.toNat := by omega
      have low : n / 4 % 256 = y.toNat := by omega
      simp only [sextets, same, decodeValues?, whole, filled, ↓reduceIte]
      rw [lowByte_eq high, lowByte_eq low]
  | case4 x y z rest ih =>
      have first := x.toNat_lt
      have second := y.toNat_lt
      have third := z.toNat_lt
      rw [sextets]
      generalize same : (x.toNat * 256 + y.toNat) * 256 + z.toNat = n
      have whole : ((n / 262144 * 64 + n / 4096 % 64) * 64 + n / 64 % 64) * 64 + n % 64 = n := by
        omega
      have high : n / 65536 % 256 = x.toNat := by omega
      have middle : n / 256 % 256 = y.toNat := by omega
      have low : n % 256 = z.toNat := by omega
      simp only [decodeValues?, whole, ih, Option.map_some]
      rw [lowByte_eq high, lowByte_eq middle, lowByte_eq low]
      rfl

section Alphabet
variable (a : Alphabet)

/-- Whether the digits are told apart from one another and from padding. -/
def Alphabet.IsDistinct : Prop := a.digits.Nodup ∧ '=' ∉ a.digits

theorem Alphabet.length_digits : a.digits.length = 64 := by
  have shared : alphanumeric.length = 62 := by decide +kernel
  rw [Alphabet.digits, List.length_append, shared]
  rfl

theorem Alphabet.digit_mod (n : Nat) : a.digit (n % 64) = a.digit n := by
  rw [Alphabet.digit, Alphabet.digit, Nat.mod_mod]

theorem Alphabet.digit_eq {n : Nat} (small : n < a.digits.length) : a.digit n = a.digits[n] := by
  have same : n % 64 = n := Nat.mod_eq_of_lt (a.length_digits ▸ small)
  rw [Alphabet.digit, same, List.getD_eq_getElem?_getD, List.getElem?_eq_getElem small]
  rfl

theorem Alphabet.digit_mem (n : Nat) : a.digit n ∈ a.digits := by
  have small : n % 64 < a.digits.length := by
    rw [a.length_digits]
    exact Nat.mod_lt n (by decide)
  rw [← a.digit_mod, a.digit_eq small]
  exact List.getElem_mem small

variable {a}

theorem Alphabet.value?_digit (distinct : a.IsDistinct) {n : Nat} (small : n < 64) :
    a.value? (a.digit n) = some n := by
  have inside : n < a.digits.length := a.length_digits ▸ small
  rw [Alphabet.value?, a.digit_eq inside, List.idxOf?_eq_some_iff]
  refine ⟨inside, rfl, fun other before same => ?_⟩
  have equal := (distinct.1.getElem_inj_iff).mp same
  omega

theorem Alphabet.values_of_digits (distinct : a.IsDistinct) {values : List Nat}
    (small : ∀ n ∈ values, n < 64) : (values.map a.digit).mapM a.value? = some values := by
  induction values with
  | nil => rfl
  | cons n rest ih =>
      have first : a.value? (a.digit n) = some n := value?_digit distinct (small n (by simp))
      have others := ih fun m member => small m (by simp [member])
      rw [List.map_cons, List.mapM_cons, first, others]
      rfl

theorem exists_encodeChars_eq (a : Alphabet) (bytes : Bytes) : ∃ padding,
    encodeChars a bytes = (sextets bytes).map a.digit ++ a.padding padding := by
  induction bytes using sextets.induct with
  | case1 => exact ⟨0, by simp [encodeChars, sextets, Alphabet.padding]⟩
  | case2 x => exact ⟨2, by simp [encodeChars, sextets, a.digit_mod]⟩
  | case3 x y => exact ⟨1, by simp [encodeChars, sextets, a.digit_mod]⟩
  | case4 x y z rest ih =>
      obtain ⟨padding, same⟩ := ih
      exact ⟨padding, by simp [encodeChars, sextets, a.digit_mod, same]⟩

theorem decode?_encode (distinct : a.IsDistinct) (bytes : Bytes) :
    decode? a (encode a bytes) = some bytes := by
  obtain ⟨padding, same⟩ := exists_encodeChars_eq a bytes
  have digits : ∀ c ∈ (sextets bytes).map a.digit, (c ≠ '=') := by
    intro c member equal
    obtain ⟨n, -, rfl⟩ := List.mem_map.mp member
    exact distinct.2 (equal ▸ a.digit_mem n)
  have none : (a.padding padding).takeWhile (· ≠ '=') = [] := by
    unfold Alphabet.padding
    split
    · cases padding <;> simp [List.replicate_succ]
    · rfl
  have body : (encodeChars a bytes).takeWhile (· ≠ '=') = (sextets bytes).map a.digit := by
    rw [same, List.takeWhile_append_of_pos (by simpa using digits), none, List.append_nil]
  have small : ∀ n ∈ sextets bytes, n < 64 := fun _ member => lt_of_mem_sextets member
  have values := Alphabet.values_of_digits distinct small
  simp only [decode?, encode, String.toList_ofList, body, values]
  exact decodeValues?_sextets bytes

theorem encode_injective (distinct : a.IsDistinct) : Function.Injective (encode a) := by
  intro x y same
  have read := congrArg (decode? a) same
  rw [decode?_encode distinct, decode?_encode distinct] at read
  exact Option.some.inj read

theorem mem_digits_of_mem_encode (bare : a.padded = false) {bytes : Bytes} {c : Char}
    (member : c ∈ (encode a bytes).toList) : c ∈ a.digits := by
  obtain ⟨padding, same⟩ := exists_encodeChars_eq a bytes
  have unpadded : a.padding padding = [] := by simp [Alphabet.padding, bare]
  rw [encode, String.toList_ofList, same, unpadded, List.append_nil] at member
  obtain ⟨n, -, rfl⟩ := List.mem_map.mp member
  exact a.digit_mem n

end Alphabet

theorem isDistinct_urlSafe : urlSafe.IsDistinct := by
  constructor
  · decide +kernel
  · decide +kernel

theorem alphanum_of_mem_urlSafe {c : Char} (member : c ∈ urlSafe.digits) :
    c.isAlphanum = true ∨ c = '-' ∨ c = '_' := by
  have all : urlSafe.digits.all (fun c => c.isAlphanum || c == '-' || c == '_') = true := by
    decide +kernel
  simpa [or_assoc] using List.all_eq_true.mp all c member

end EventRelay.Base64
