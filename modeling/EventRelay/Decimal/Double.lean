set_option autoImplicit false

/-!
Finite numbers in 64-bit binary floating point, kept by their bits. Arithmetic is exact on natural
numbers and rounds once, to the nearest number with ties to even.
-/
namespace EventRelay

/-- A number in 64-bit binary floating point. -/
structure Double where
  bits : UInt64
deriving DecidableEq, Repr, Inhabited

namespace Double

def isNegative (x : Double) : Bool := x.bits.toNat ≥ Nat.pow 2 63

/-- The absolute value is `significand * 2 ^ exponent`. -/
def significand (x : Double) : Nat :=
  let biased := x.bits.toNat / Nat.pow 2 52 % Nat.pow 2 11
  let fraction := x.bits.toNat % Nat.pow 2 52
  if biased = 0 then fraction else fraction + Nat.pow 2 52

/-- The exponent that belongs to `significand`. -/
def exponent (x : Double) : Int :=
  let biased := x.bits.toNat / Nat.pow 2 52 % Nat.pow 2 11
  if biased = 0 then -1074 else Int.ofNat biased - 1075

/-- Whether the neighbour below is only half as far as the one above. -/
def isAtBoundary (x : Double) : Bool :=
  x.bits.toNat % Nat.pow 2 52 = 0 ∧ 1 < x.bits.toNat / Nat.pow 2 52 % Nat.pow 2 11

/-- The absolute value as a quotient of natural numbers. -/
def ratio (x : Double) : Nat × Nat :=
  if 0 ≤ x.exponent then (x.significand * Nat.pow 2 x.exponent.toNat, 1)
  else (x.significand, Nat.pow 2 (-x.exponent).toNat)

/-- The whole number nearest to a quotient; a tie goes to the even one. -/
def roundedQuotient (num den : Nat) : Nat :=
  let q := num / den
  let twice := 2 * (num % den)
  if twice < den then q else if den < twice then q + 1 else if q % 2 = 0 then q else q + 1

/-- `num / (den * 2 ^ e)`, rounded to a whole number. -/
def scaledQuotient (num den : Nat) (e : Int) : Nat :=
  if 0 ≤ e then roundedQuotient num (den * Nat.pow 2 e.toNat)
  else roundedQuotient (num * Nat.pow 2 (-e).toNat) den

/-- The exponent at which a positive quotient has a significand of 53 bits, or the least
exponent. -/
def exponentOf (num den : Nat) : Int :=
  let guess : Int := (num.log2 : Int) - den.log2 - 52
  let fits := if 0 ≤ guess then den * Nat.pow 2 guess.toNat * Nat.pow 2 52 ≤ num
    else den * Nat.pow 2 52 ≤ num * Nat.pow 2 (-guess).toNat
  max (if fits then guess else guess - 1) (-1074)

/-- The number nearest to a quotient, or nothing when that lies beyond the greatest one. -/
def ofRatio? (negative : Bool) (num den : Nat) : Option Double :=
  let sign := if negative then Nat.pow 2 63 else 0
  if num = 0 ∨ den = 0 then some ⟨UInt64.ofNat sign⟩
  else
    let e := exponentOf num den
    let magnitude := scaledQuotient num den e + (e + 1074).toNat * Nat.pow 2 52
    if magnitude < 0x7FF * Nat.pow 2 52 then some ⟨UInt64.ofNat (sign + magnitude)⟩ else none

/-- The number nearest to a natural number, or nothing when it is too great. -/
def ofNat? (n : Nat) : Option Double := ofRatio? false n 1

/-- The product with a natural number's nearest double, on absolute values. -/
def times? (x factor : Double) : Option Double :=
  let (a, b) := x.ratio
  let (c, d) := factor.ratio
  ofRatio? false (a * c) (b * d)

/-- The quotient by a double, on absolute values. -/
def over? (x divisor : Double) : Option Double :=
  let (a, b) := x.ratio
  let (c, d) := divisor.ratio
  ofRatio? false (a * d) (b * c)

/-- The number with its sign changed when `negative` holds. -/
def withSign (x : Double) (negative : Bool) : Double :=
  ⟨UInt64.ofNat (x.bits.toNat % Nat.pow 2 63 + if negative then Nat.pow 2 63 else 0)⟩

end Double
end EventRelay
