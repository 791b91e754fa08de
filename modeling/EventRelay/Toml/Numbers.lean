import EventRelay.Decimal.Double
import EventRelay.Toml.Basic
import EventRelay.Toml.Strings
set_option autoImplicit false

/-!
Numbers of TOML: integers of 64 bits in four bases, and floating point, of which no more is kept
than that it is well formed.
-/
namespace EventRelay.Toml

open Text (Parser)

def numberOf (base : Nat) (digits : List Char) : Nat := (Text.number? base digits).getD 0

/-- Digits of a base; single underscores may stand between them. -/
def digits? (isDigit : Char → Bool) : Parser (List Char) := fun cs =>
  let found := cs.takeWhile fun c => isDigit c || c == '_'
  let digits := found.filter isDigit
  let lonely := (found.zip (found.drop 1)).all fun pair => pair.1 ≠ '_' || pair.2 ≠ '_'
  if digits.isEmpty ∨ found.head? = some '_' ∨ found.getLast? = some '_' ∨ ¬ lonely then none
  else some (digits, cs.drop found.length)

def integer? (n : Int) : Option Value :=
  if -Int.pow 2 63 ≤ n ∧ n < Int.pow 2 63 then some (.integer n) else none

/-- An integer in a base after its two letters. -/
def based? (base : Nat) (isDigit : Char → Bool) (cs : List Char) : Option (Value × List Char) := do
  let (digits, rest) ← digits? isDigit cs
  let n ← integer? (numberOf base digits)
  return (n, rest)

def sign (cs : List Char) : Bool × List Char :=
  match cs with
  | '+' :: rest => (false, rest)
  | '-' :: rest => (true, rest)
  | cs => (false, cs)

/-- The digits before a point: no zero in front of another digit. -/
def whole? : Parser (List Char)
  | '0' :: rest => some (['0'], rest)
  | cs => digits? Char.isDigit cs

def fraction? : Parser (Option (List Char))
  | '.' :: rest => (digits? Char.isDigit rest).map fun (digits, rest) => (some digits, rest)
  | cs => some (none, cs)

def exponent? (cs : List Char) : Option (Option Int × List Char) :=
  match cs with
  | c :: rest =>
    if c = 'e' ∨ c = 'E' then
      let (negative, rest) := sign rest
      (digits? Char.isDigit rest).map fun (digits, rest) =>
        let n := numberOf 10 digits
        (some (if negative then -n else n), rest)
    else some (none, cs)
  | [] => some (none, cs)

/-- Whether the digits of a number, scaled by a power of ten, are beyond all doubles. -/
def isBeyond (digits : List Char) (scale : Int) : Bool :=
  let digits := digits.dropWhile (· = '0')
  let places := digits.length + scale
  if digits.isEmpty ∨ places ≤ 308 then false
  else if 309 < places then true
  else
    let num := numberOf 10 digits * Nat.pow 10 scale.toNat
    (Double.ofRatio? false num (Nat.pow 10 (-scale).toNat)).isNone

/-- A number with a fraction or an exponent; a positive one is not beyond all doubles. -/
def float? (negative : Bool) (digits fraction : List Char) (exponent : Int) : Option Value :=
  if ¬ negative ∧ isBeyond (digits ++ fraction) (exponent - fraction.length) then none
  else some .float

def decimal? (cs : List Char) : Option (Value × List Char) := do
  let (negative, cs) := sign cs
  match cs with
  | 'i' :: 'n' :: 'f' :: rest => some (.float, rest)
  | 'n' :: 'a' :: 'n' :: rest => some (.float, rest)
  | cs =>
    let (digits, cs) ← whole? cs
    let (fraction, cs) ← fraction? cs
    let (exponent, cs) ← exponent? cs
    if fraction.isSome ∨ exponent.isSome then
      return (← float? negative digits (fraction.getD []) (exponent.getD 0), cs)
    let n := numberOf 10 digits
    let value ← integer? (if negative then -n else n)
    return (value, cs)

def number? : Parser Value
  | '0' :: 'x' :: rest => based? 16 (fun c => (Text.digitValue? 16 c).isSome) rest
  | '0' :: 'o' :: rest => based? 8 (fun c => '0' ≤ c && c ≤ '7') rest
  | '0' :: 'b' :: rest => based? 2 (fun c => c == '0' || c == '1') rest
  | cs => decimal? cs

end EventRelay.Toml
