import EventRelay.Text.Characters
import EventRelay.Text.Utf8
set_option autoImplicit false

/-!
Percent encoding: a byte that may not stand for itself is written as a percent sign and two upper
case hexadecimal digits. Bytes outside ASCII are always written so.
-/
namespace EventRelay.Percent

def hexDigit (n : Nat) : Char := (Nat.digitChar n).toUpper

def escape (byte : UInt8) : List Char :=
  ['%', hexDigit (byte.toNat / 16), hexDigit (byte.toNat % 16)]

/-- The bytes as text; `kept` tells which ASCII characters stand for themselves. -/
def encodeBytes (kept : Char → Bool) (bytes : Bytes) : List Char :=
  bytes.flatMap fun byte =>
    let c := Char.ofNat byte.toNat
    if byte < 0x80 ∧ kept c then [c] else escape byte

def encode (kept : Char → Bool) (text : String) : String :=
  String.ofList (encodeBytes kept (Text.encode text))

/-- The bytes that a percent-encoded sequence stands for; a percent sign without digits stays. -/
def decode : Bytes → Bytes
  | 0x25 :: high :: low :: rest =>
    match Text.hexValue? high, Text.hexValue? low with
    | some h, some l => UInt8.ofNat (h * 16 + l) :: decode rest
    | _, _ => 0x25 :: decode (high :: low :: rest)
  | byte :: rest => byte :: decode rest
  | [] => []

end EventRelay.Percent
