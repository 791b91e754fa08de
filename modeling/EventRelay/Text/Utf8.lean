set_option autoImplicit false

/-!
Texts as bytes. `decode?` accepts exactly the well-formed sequences; `decodeLossy` puts a
replacement character for every longest part of an ill-formed sequence.
-/
namespace EventRelay

/-- A sequence of bytes, such as the body of a request. -/
abbrev Bytes := List UInt8

namespace Text

def encode (text : String) : Bytes := text.toUTF8.data.toList

/-- The text whose UTF-8 form the bytes are. -/
def decode? (bytes : Bytes) : Option String := String.fromUTF8? ⟨bytes.toArray⟩

/-- The part of a character that has been read, and what its next byte may be. -/
structure Partial where
  bits : Nat
  missing : Nat
  low : UInt8
  high : UInt8

/-- Begins a character: it is complete, it is ill-formed, or more bytes have to follow. -/
def begin (byte : UInt8) : Option Char ⊕ Partial :=
  let n := byte.toNat
  if byte < 0x80 then .inl (some (Char.ofNat n))
  else if byte < 0xC2 then .inl none
  else if byte < 0xE0 then .inr ⟨n - 0xC0, 1, 0x80, 0xBF⟩
  else if byte = 0xE0 then .inr ⟨0, 2, 0xA0, 0xBF⟩
  else if byte = 0xED then .inr ⟨0xD, 2, 0x80, 0x9F⟩
  else if byte < 0xF0 then .inr ⟨n - 0xE0, 2, 0x80, 0xBF⟩
  else if byte = 0xF0 then .inr ⟨0, 3, 0x90, 0xBF⟩
  else if byte < 0xF4 then .inr ⟨n - 0xF0, 3, 0x80, 0xBF⟩
  else if byte = 0xF4 then .inr ⟨4, 3, 0x80, 0x8F⟩
  else .inl none

/-- The characters of a byte sequence from a given point on, `none` for every ill-formed part. -/
def charactersFrom : Option Partial → Bytes → List (Option Char)
  | none, [] => []
  | some _, [] => [none]
  | none, byte :: rest =>
    match begin byte with
    | .inl c => c :: charactersFrom none rest
    | .inr started => charactersFrom (some started) rest
  | some p, byte :: rest =>
    if p.low ≤ byte ∧ byte ≤ p.high then
      let bits := p.bits * 64 + (byte.toNat - 0x80)
      if p.missing ≤ 1 then some (Char.ofNat bits) :: charactersFrom none rest
      else charactersFrom (some ⟨bits, p.missing - 1, 0x80, 0xBF⟩) rest
    else
      match begin byte with
      | .inl c => none :: c :: charactersFrom none rest
      | .inr started => none :: charactersFrom (some started) rest

/-- The text of the bytes, with U+FFFD for what is ill-formed. -/
def decodeLossy (bytes : Bytes) : String :=
  String.ofList ((charactersFrom none bytes).map fun c => c.getD '\uFFFD')

end Text
end EventRelay
