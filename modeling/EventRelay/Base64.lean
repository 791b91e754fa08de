import EventRelay.Text.Utf8
set_option autoImplicit false

/-!
Bytes in base 64, by groups of six bits: the common alphabet with padding, and the one for URLs
and names without it.
-/
namespace EventRelay.Base64

/-- The digits from 0 to 61, which all alphabets share. -/
def alphanumeric : List Char :=
  "ABCDEFGHIJKLMNOPQRSTUVWXYZabcdefghijklmnopqrstuvwxyz0123456789".toList

/-- An alphabet and whether the last group is padded. -/
structure Alphabet where
  /-- The digit 62. -/
  plus : Char
  /-- The digit 63. -/
  slash : Char
  padded : Bool

def standard : Alphabet := ⟨'+', '/', true⟩

def urlSafe : Alphabet := ⟨'-', '_', false⟩

def Alphabet.digits (a : Alphabet) : List Char := alphanumeric ++ [a.plus, a.slash]

/-- The digit of a value below 64. -/
def Alphabet.digit (a : Alphabet) (n : Nat) : Char := a.digits.getD (n % 64) 'A'

def Alphabet.value? (a : Alphabet) (c : Char) : Option Nat := a.digits.idxOf? c

def Alphabet.padding (a : Alphabet) (n : Nat) : List Char :=
  if a.padded then List.replicate n '=' else []

/-- Bytes as digits, three bytes to four digits. -/
def encodeChars (a : Alphabet) : Bytes → List Char
  | [] => []
  | [x] =>
    let n := x.toNat * 16
    [a.digit (n / 64), a.digit n] ++ a.padding 2
  | [x, y] =>
    let n := (x.toNat * 256 + y.toNat) * 4
    [a.digit (n / 4096), a.digit (n / 64), a.digit n] ++ a.padding 1
  | x :: y :: z :: rest =>
    let n := (x.toNat * 256 + y.toNat) * 256 + z.toNat
    a.digit (n / 262144) :: a.digit (n / 4096) :: a.digit (n / 64) :: a.digit n ::
      encodeChars a rest

def encode (a : Alphabet) (bytes : Bytes) : String := String.ofList (encodeChars a bytes)

def lowByte (n : Nat) : UInt8 := UInt8.ofNat (n % 256)

def decodeValues? : List Nat → Option Bytes
  | [] => some []
  | [_] => none
  | [a, b] =>
    let n := a * 64 + b
    if n % 16 = 0 then some [lowByte (n / 16)] else none
  | [a, b, c] =>
    let n := (a * 64 + b) * 64 + c
    if n % 4 = 0 then some [lowByte (n / 1024), lowByte (n / 4)] else none
  | a :: b :: c :: d :: rest =>
    let n := ((a * 64 + b) * 64 + c) * 64 + d
    (decodeValues? rest).map ([lowByte (n / 65536), lowByte (n / 256), lowByte n] ++ ·)

/-- The bytes that a text stands for; padding may be left out. -/
def decode? (a : Alphabet) (text : String) : Option Bytes := do
  let cs := text.toList
  let body := cs.takeWhile (· ≠ '=')
  let values ← body.mapM a.value?
  decodeValues? values

end EventRelay.Base64
