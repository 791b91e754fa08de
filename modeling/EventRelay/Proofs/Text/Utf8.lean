import EventRelay.Proofs.Http.Fields
import Mathlib.Tactic.IntervalCases

set_option autoImplicit false

/-!
A text that is written in UTF-8 is read back as it is, also by a reader that puts up with what is
ill-formed.
-/
namespace EventRelay.Text

section Bytes
variable {n : Nat}

theorem toNat_ofNat (small : n < 256) : (UInt8.ofNat n).toNat = n :=
  UInt8.toNat_ofNat_of_lt' small

theorem begin_two (low : 0xC2 ≤ n) (high : n < 0xE0) :
    begin (UInt8.ofNat n) = .inr ⟨n - 0xC0, 1, 0x80, 0xBF⟩ := by
  interval_cases n <;> rfl

theorem begin_three (low : 0xE0 ≤ n) (high : n < 0xF0) :
    begin (UInt8.ofNat n) =
      .inr ⟨n - 0xE0, 2, if n = 0xE0 then 0xA0 else 0x80, if n = 0xED then 0x9F else 0xBF⟩ := by
  interval_cases n <;> rfl

theorem begin_four (low : 0xF0 ≤ n) (high : n < 0xF5) :
    begin (UInt8.ofNat n) =
      .inr ⟨n - 0xF0, 3, if n = 0xF0 then 0x90 else 0x80, if n = 0xF4 then 0x8F else 0xBF⟩ := by
  interval_cases n <;> rfl

theorem begin_one (small : n < 0x80) : begin (UInt8.ofNat n) = .inl (some (Char.ofNat n)) := by
  have value := toNat_ofNat (Nat.lt_trans small (by decide) : n < 256)
  have below : UInt8.ofNat n < 0x80 := by
    rw [UInt8.lt_iff_toNat_lt, value]
    exact small
  rw [begin, if_pos below, value]

end Bytes

section Characters
variable (rest : Bytes)

theorem charactersFrom_begin {byte : UInt8} {started : Partial}
    (begins : begin byte = .inr started) :
    charactersFrom none (byte :: rest) = charactersFrom (some started) rest := by
  rw [charactersFrom, begins]

section Continuation
variable {k bits missing : Nat} {low high : UInt8} (small : k < 64)
include small

theorem charactersFrom_more (least : low.toNat ≤ k + 0x80) (most : k + 0x80 ≤ high.toNat)
    (more : 1 < missing) :
    charactersFrom (some ⟨bits, missing, low, high⟩) (UInt8.ofNat (k + 0x80) :: rest) =
      charactersFrom (some ⟨bits * 64 + k, missing - 1, 0x80, 0xBF⟩) rest := by
  have value : (UInt8.ofNat (k + 0x80)).toNat = k + 0x80 := toNat_ofNat (by omega)
  have inside : low ≤ UInt8.ofNat (k + 0x80) ∧ UInt8.ofNat (k + 0x80) ≤ high := by
    rw [UInt8.le_iff_toNat_le, UInt8.le_iff_toNat_le, value]
    exact ⟨least, most⟩
  rw [charactersFrom, if_pos inside, if_neg (by simpa using more), value, Nat.add_sub_cancel]

theorem charactersFrom_last :
    charactersFrom (some ⟨bits, 1, 0x80, 0xBF⟩) (UInt8.ofNat (k + 0x80) :: rest) =
      some (Char.ofNat (bits * 64 + k)) :: charactersFrom none rest := by
  have value : (UInt8.ofNat (k + 0x80)).toNat = k + 0x80 := toNat_ofNat (by omega)
  have inside : 0x80 ≤ UInt8.ofNat (k + 0x80) ∧ UInt8.ofNat (k + 0x80) ≤ 0xBF := by
    rw [UInt8.le_iff_toNat_le, UInt8.le_iff_toNat_le, value]
    exact ⟨Nat.le_add_left _ _, Nat.add_le_add_right (Nat.le_of_lt_succ small) 0x80⟩
  rw [charactersFrom, if_pos inside, if_pos (Nat.le_refl 1), value, Nat.add_sub_cancel]

end Continuation

/-- The bytes of a character are read as this character. -/
theorem charactersFrom_encodeChar (c : Char) :
    charactersFrom none (String.utf8EncodeChar c ++ rest) = some c :: charactersFrom none rest := by
  have valid := c.valid
  simp only [UInt32.isValidChar, Nat.isValidChar] at valid
  have same : Char.ofNat c.toNat = c := Char.ofNat_toNat c
  have number : c.val.toNat = c.toNat := rfl
  rw [number] at valid
  unfold String.utf8EncodeChar
  simp only [number]
  generalize c.toNat = n at *
  split
  · rename_i one
    rw [List.singleton_append, charactersFrom, begin_one (by omega), same]
  · split
    · rename_i two
      have bits : (n / 64 % 32 + 0xC0 - 0xC0) * 64 + n % 64 = n := by omega
      simp only [List.cons_append, List.nil_append]
      rw [charactersFrom_begin _ (begin_two (by omega) (by omega)),
        charactersFrom_last _ (by omega), bits, same]
    · split
      · rename_i three
        have bits : ((n / 4096 % 16 + 0xE0 - 0xE0) * 64 + n / 64 % 64) * 64 + n % 64 = n := by omega
        simp only [List.cons_append, List.nil_append]
        rw [charactersFrom_begin _ (begin_three (by omega) (by omega)),
          charactersFrom_more _ (by omega), charactersFrom_last _ (by omega), bits, same]
        · split
          · exact (by omega : 0xA0 ≤ n / 64 % 64 + 0x80)
          · exact Nat.le_add_left _ _
        · split
          · exact (by omega : n / 64 % 64 + 0x80 ≤ 0x9F)
          · exact (by omega : n / 64 % 64 + 0x80 ≤ 0xBF)
        · decide
      · rename_i four
        have bits :
            (((n / 262144 % 8 + 0xF0 - 0xF0) * 64 + n / 4096 % 64) * 64 + n / 64 % 64) * 64 +
            n % 64 = n := by omega
        simp only [List.cons_append, List.nil_append]
        rw [charactersFrom_begin _ (begin_four (by omega) (by omega)),
          charactersFrom_more _ (by omega), charactersFrom_more _ (by omega) _ _ (by decide),
          charactersFrom_last _ (by omega), bits, same]
        · exact Nat.le_add_left _ _
        · exact (by omega : n / 64 % 64 + 0x80 ≤ 0xBF)
        · split
          · exact (by omega : 0x90 ≤ n / 4096 % 64 + 0x80)
          · exact Nat.le_add_left _ _
        · split
          · exact (by omega : n / 4096 % 64 + 0x80 ≤ 0x8F)
          · exact (by omega : n / 4096 % 64 + 0x80 ≤ 0xBF)
        · decide

end Characters

theorem charactersFrom_encode (cs : List Char) :
    charactersFrom none (cs.flatMap String.utf8EncodeChar) = cs.map some := by
  induction cs with
  | nil => rfl
  | cons c rest ih => rw [List.flatMap_cons, charactersFrom_encodeChar, ih, List.map_cons]

theorem decodeLossy_encode (text : String) : decodeLossy (encode text) = text := by
  rw [decodeLossy, encode_eq_flatMap, charactersFrom_encode, List.map_map]
  have same : text.toList.map ((fun c : Option Char => c.getD '\uFFFD') ∘ some) = text.toList :=
    List.map_id text.toList
  rw [same, String.ofList_toList]

end EventRelay.Text
