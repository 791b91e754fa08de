import EventRelay.Decimal.Double
set_option autoImplicit false

/-!
The fewest decimal digits that read back as a given number: of the points on the coarsest decimal
grid that has one inside the number's rounding interval, the one nearest to the number.
-/
namespace EventRelay.Double

/-- The absolute value and the ends of the interval that rounds to it, over one denominator, and
whether the ends belong to it. -/
structure Interval where
  low : Nat
  value : Nat
  high : Nat
  den : Nat
  closed : Bool

def interval (x : Double) : Interval :=
  let m := 4 * x.significand
  let below := if x.isAtBoundary then 1 else 2
  let closed := x.significand % 2 == 0
  let e := x.exponent - 2
  if 0 ≤ e then
    let unit := Nat.pow 2 e.toNat
    ⟨(m - below) * unit, m * unit, (m + 2) * unit, 1, closed⟩
  else ⟨m - below, m, m + 2, Nat.pow 2 (-e).toNat, closed⟩

/-- Whether `digits * 10 ^ scale` lies in the interval. -/
def Interval.holds (i : Interval) (digits : Nat) (scale : Int) : Bool :=
  let point := if 0 ≤ scale then digits * Nat.pow 10 scale.toNat * i.den else digits * i.den
  let unit := if 0 ≤ scale then 1 else Nat.pow 10 (-scale).toNat
  if i.closed then i.low * unit ≤ point ∧ point ≤ i.high * unit
  else i.low * unit < point ∧ point < i.high * unit

/-- The point of the grid of step `10 ^ scale` that is nearest to the value among those inside. -/
def Interval.onGrid? (i : Interval) (scale : Int) : Option Nat :=
  let num := if 0 ≤ scale then i.value else i.value * Nat.pow 10 (-scale).toNat
  let den := if 0 ≤ scale then i.den * Nat.pow 10 scale.toNat else i.den
  let under := num / den
  match i.holds under scale, i.holds (under + 1) scale with
  | true, true => some (roundedQuotient num den)
  | true, false => some under
  | false, true => some (under + 1)
  | false, false => none

/-- The first grid with a point inside, from coarse to fine. -/
def Interval.search (i : Interval) : Nat → Int → Nat × Int
  | 0, scale => (i.value / i.den, scale)
  | tries + 1, scale =>
    match i.onGrid? scale with
    | some digits => (digits, scale)
    | none => i.search tries (scale - 1)

/-- A step of ten that is greater than the value. -/
def Interval.coarsest (i : Interval) : Int :=
  (Int.ofNat i.value.log2 - Int.ofNat i.den.log2 + 1) * 30103 / 100000 + 2

/-- Drops zeros at the end of the digits. -/
def stripZeros : Nat → Nat → Int → Nat × Int
  | 0, digits, scale => (digits, scale)
  | fuel + 1, digits, scale =>
    if digits ≠ 0 ∧ digits % 10 = 0 then stripZeros fuel (digits / 10) (scale + 1)
    else (digits, scale)

/-- The shortest `(digits, scale)` with `digits * 10 ^ scale` reading back as the absolute value. -/
def shortest (x : Double) : Nat × Int :=
  let i := x.interval
  let (digits, scale) := i.search 24 i.coarsest
  stripZeros 20 digits scale

end EventRelay.Double
