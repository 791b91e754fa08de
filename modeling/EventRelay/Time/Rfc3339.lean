import EventRelay.Text.Characters
import EventRelay.Text.Split
import EventRelay.Time.Instant
set_option autoImplicit false

/-!
Date and time as text. Two forms are read: the strict one of RFC 3339, and a looser one with
blanks, short numbers and any year. What is written has no more fraction than needed, in
thousands, and is read by both unless its year needs a sign.
-/
namespace EventRelay.Rfc3339

open Text (Parser)

def number (digits : List Char) : Nat := digits.foldl (fun n c => n * 10 + (c.toNat - 48)) 0

/-- The digits at the start of a text, at most as many as given. -/
def leadingDigits : Nat → List Char → List Char
  | 0, _ => []
  | n + 1, c :: rest => if c.isDigit then c :: leadingDigits n rest else []
  | _, [] => []

def digits (least most : Nat) : Parser Nat := fun cs =>
  let found := leadingDigits most cs
  if found.length < least then none else some (number found, cs.drop found.length)

def char (c : Char) : Parser Unit
  | d :: rest => if c = d then some ((), rest) else none
  | [] => none

def dateEnd : Parser Unit
  | c :: rest => if c = 'T' ∨ c = 't' ∨ c = ' ' then some ((), rest) else none
  | [] => none

/-- Nanoseconds after a point, if there is one; digits after the ninth do not count. -/
def fraction : Parser Nat
  | '.' :: rest =>
    match leadingDigits 9 rest with
    | [] => none
    | found =>
      some (number found * Nat.pow 10 (9 - found.length),
        (rest.drop found.length).dropWhile Char.isDigit)
  | cs => some (0, cs)

def offsetSign : Parser Int
  | '+' :: rest => some (1, rest)
  | '-' :: rest => some (-1, rest)
  | '\u2212' :: rest => some (-1, rest)
  | _ => none

def offsetMinutes : Parser Nat := fun cs => do
  let (minutes, rest) ← digits 2 2 cs
  if 60 ≤ minutes then none
  return (minutes, rest)

/-- The offset of a clock in seconds: `Z`, or a sign with hours and minutes. -/
def offset (between : Parser Unit) : Parser Int := fun cs =>
  match cs with
  | 'Z' :: rest => some (0, rest)
  | 'z' :: rest => some (0, rest)
  | cs => do
    let (sign, cs) ← offsetSign cs
    let (hours, cs) ← digits 2 2 cs
    let ((), cs) ← between cs
    let (minutes, cs) ← offsetMinutes cs
    return (sign * (hours * 3600 + minutes * 60), cs)

def parse? (text : String) : Option Instant := do
  let (year, cs) ← digits 4 4 text.toList
  let ((), cs) ← char '-' cs
  let (month, cs) ← digits 2 2 cs
  let ((), cs) ← char '-' cs
  let (day, cs) ← digits 2 2 cs
  let ((), cs) ← dateEnd cs
  let (hour, cs) ← digits 2 2 cs
  let ((), cs) ← char ':' cs
  let (minute, cs) ← digits 2 2 cs
  let ((), cs) ← char ':' cs
  let (second, cs) ← digits 2 2 cs
  let (nanos, cs) ← fraction cs
  let (offset, cs) ← offset (char ':') cs
  if ¬ cs.isEmpty then none
  let date ← Date.of? year month day
  Instant.ofLocal? date ⟨hour, minute, second, nanos⟩ offset

/-- Greatest number of digits after a sign. -/
def anyLength (cs : List Char) : Nat := cs.length

/-- A year: four digits at most, or any number after a sign. -/
def looseYear : Parser Int := fun cs =>
  match Text.trimStart cs with
  | '-' :: rest => (digits 1 (anyLength rest) rest).map fun (n, rest) => (-Int.ofNat n, rest)
  | '+' :: rest => (digits 1 (anyLength rest) rest).map fun (n, rest) => (Int.ofNat n, rest)
  | cs => (digits 1 4 cs).map fun (n, rest) => (Int.ofNat n, rest)

def looseNumber : Parser Nat := fun cs => digits 1 2 (Text.trimStart cs)

def looseChar (c : Char) : Parser Unit := fun cs => char c (Text.trimStart cs)

def colonsOrBlanks : Parser Unit := fun cs =>
  some ((), cs.dropWhile fun c => c = ':' ∨ Text.isBlank c)

/-- The letters of UTC in any case, or an offset. -/
def looseOffset : Parser Int
  | a :: b :: c :: rest =>
    if a.toUpper = 'U' ∧ b.toUpper = 'T' ∧ c.toUpper = 'C' then some (0, rest)
    else offset colonsOrBlanks (a :: b :: c :: rest)
  | cs => offset colonsOrBlanks cs

def parseLoose? (text : String) : Option Instant := do
  let (year, cs) ← looseYear text.toList
  let ((), cs) ← looseChar '-' cs
  let (month, cs) ← looseNumber cs
  let ((), cs) ← looseChar '-' cs
  let (day, cs) ← looseNumber cs
  let ((), cs) ← dateEnd cs
  let (hour, cs) ← looseNumber cs
  let ((), cs) ← looseChar ':' cs
  let (minute, cs) ← looseNumber cs
  let ((), cs) ← looseChar ':' cs
  let (second, cs) ← looseNumber cs
  let (nanos, cs) ← fraction cs
  let (offset, cs) ← looseOffset (Text.trimStart cs)
  if ¬ (Text.trimStart cs).isEmpty then none
  let date ← Date.of? year month day
  Instant.ofLocal? date ⟨hour, minute, second, nanos⟩ offset

def padded (width n : Nat) : List Char :=
  let digits := Nat.toDigits 10 n
  List.replicate (width - digits.length) '0' ++ digits

/-- A year; outside the four digits it has a sign. -/
def yearText (year : Int) : List Char :=
  if 0 ≤ year ∧ year ≤ 9999 then padded 4 year.toNat
  else (if year < 0 then '-' else '+') :: padded 4 year.natAbs

/-- A fraction of a second in three, six or nine digits. -/
def fractionText (nanos : Nat) : List Char :=
  if nanos = 0 then []
  else if nanos % 1000000 = 0 then '.' :: padded 3 (nanos / 1000000)
  else if nanos % 1000 = 0 then '.' :: padded 6 (nanos / 1000)
  else '.' :: padded 9 nanos

def text (i : Instant) : String :=
  let date := i.date
  let time := i.timeOfDay
  String.ofList (yearText date.year ++ '-' :: padded 2 date.month ++ '-' :: padded 2 date.day
    ++ 'T' :: padded 2 time.hour ++ ':' :: padded 2 time.minute ++ ':' :: padded 2 time.second
    ++ fractionText time.nanos ++ ['Z'])

end EventRelay.Rfc3339
