import EventRelay.Json.Basic
import EventRelay.Text.Utf8
set_option autoImplicit false

/-!
How the digits of a number become its value. Digits are taken as long as they fit 64 bits, those
after them count as zeros; a number with a fraction or an exponent, one that does not fit, and
minus zero are floating point: the digits as a whole number, rounded, times or over a rounded
power of ten.
-/
namespace EventRelay.Json

/-- The greatest whole number of 64 bits. -/
def maxDigits : Nat := Nat.pow 2 64 - 1

/-- Digits read so far, how many more places to scale them by, and whether one was left out. -/
structure Digits where
  value : Nat
  scale : Int
  full : Bool
deriving Repr

def digitValue (byte : UInt8) : Nat := byte.toNat - 48

/-- Reads a digit before the point: past the limit each digit is one more place. -/
def Digits.whole (d : Digits) (byte : UInt8) : Digits :=
  let value := d.value * 10 + digitValue byte
  if d.full ∨ maxDigits < value then { d with scale := d.scale + 1, full := true }
  else { d with value }

/-- Reads a digit after the point: once one does not fit, the rest is left out. -/
def Digits.fraction (d : Digits) (byte : UInt8) : Digits :=
  let value := d.value * 10 + digitValue byte
  if d.full ∨ maxDigits < value then { d with full := true }
  else { d with value, scale := d.scale - 1 }

def powerOfTen (n : Nat) : Double := (Double.ofNat? (Nat.pow 10 n)).getD ⟨0⟩

/-- Divides by ten to the given power, in steps of at most 308 places. -/
def scaledDown (x : Double) (places : Nat) : Option Double :=
  if x.significand = 0 then some x
  else if places ≤ 308 then x.over? (powerOfTen places)
  else (x.over? (powerOfTen 308)).bind (scaledDown · (places - 308))
termination_by places

/-- The double of a whole number and a power of ten, or nothing when it is out of range. -/
def scaled? (value : Nat) (scale : Int) : Option Double :=
  (Double.ofNat? value).bind fun x =>
    if 0 ≤ scale then
      if scale ≤ 308 then x.times? (powerOfTen scale.toNat)
      else if x.significand = 0 then some x else none
    else scaledDown x (-scale).toNat

/-- The parts of a number as it is written. -/
structure Numeral where
  negative : Bool
  whole : Bytes
  fraction : Option Bytes
  exponent : Option (Bool × Bytes)
deriving Repr

/-- The greatest exponent that is told apart from an endless one. -/
def maxExponent : Nat := Nat.pow 2 31 - 1

def exponentValue (digits : Bytes) : Nat :=
  digits.foldl (fun n byte => n * 10 + digitValue byte) 0

/-- The number that a numeral stands for, or nothing when it is out of range. -/
def Numeral.value? (n : Numeral) : Option Number :=
  let whole := n.whole.foldl Digits.whole ⟨0, 0, false⟩
  let float := fun (value : Nat) (scale : Int) =>
    (scaled? value scale).map fun x => Number.double (x.withSign n.negative)
  match n.fraction, n.exponent with
  | none, none =>
    if whole.full then float whole.value whole.scale
    else if ¬ n.negative then some (.integer whole.value)
    else if whole.value = 0 ∨ Nat.pow 2 63 < whole.value then float whole.value 0
    else some (.integer (-whole.value))
  | fraction, exponent =>
    let start := { whole with full := false }
    let digits := (fraction.getD []).foldl Digits.fraction start
    match exponent with
    | none => float digits.value digits.scale
    | some (down, places) =>
      let e := exponentValue places
      if maxExponent < e then
        if down ∨ digits.value = 0 then some (.double (Double.withSign ⟨0⟩ n.negative)) else none
      else float digits.value (if down then digits.scale - e else digits.scale + e)

end EventRelay.Json
