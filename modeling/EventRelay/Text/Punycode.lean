set_option autoImplicit false

/-!
Texts of any characters as texts of ASCII. The ASCII characters come first; for every other
character follows how far it is, in the order of characters and places, from the one before. The
distances are numbers whose digits have thresholds, so that each shows where it ends, and the
thresholds adapt to the distances seen so far.
-/
namespace EventRelay.Text.Punycode

/-- The first character that is not ASCII. -/
def start : Nat := 0x80

def digit (value : Nat) : Char :=
  if value < 26 then Char.ofNat ('a'.toNat + value) else Char.ofNat ('0'.toNat + (value - 26))

def value? (c : Char) : Option Nat :=
  if 'a' ≤ c ∧ c ≤ 'z' then some (c.toNat - 'a'.toNat)
  else if c.isDigit then some (c.toNat - '0'.toNat + 26)
  else none

/-- The threshold of the digit at a place. Places go up by 36. -/
def threshold (bias place : Nat) : Nat := min 26 (max 1 (place - bias))

theorem threshold_pos (bias place : Nat) : 1 ≤ threshold bias place := by
  unfold threshold; omega

/-- The bias for a distance that has been scaled, and the bias that its scaling adds. -/
def settle (distance added : Nat) : Nat :=
  if distance ≤ 455 then added + 36 * distance / (distance + 38)
  else settle (distance / 35) (added + 36)
termination_by distance
decreasing_by omega

/-- The bias after a distance, with the number of characters then and whether it was the first. -/
def adapt (distance count : Nat) (first : Bool) : Nat :=
  let scaled := if first then distance / 700 else distance / 2
  settle (scaled + scaled / count) 0

def writeNumber (bias place number : Nat) : List Char :=
  if number < threshold bias place then [digit number]
  else
    let left := number - threshold bias place
    let base := 36 - threshold bias place
    digit (threshold bias place + left % base) :: writeNumber bias (place + 36) (left / base)
termination_by number
decreasing_by
  have positive := threshold_pos bias place
  exact Nat.lt_of_le_of_lt (Nat.div_le_self _ _) (by omega)

/-- A character with the place it has among the characters up to it. -/
structure Insertion where
  code : Nat
  place : Nat
deriving DecidableEq, Repr

/-- The characters that are not ASCII, `before` being those on the left, in reverse. -/
def insertionsAfter (before : List Nat) : List Nat → List Insertion
  | [] => []
  | code :: rest =>
    let others := insertionsAfter (code :: before) rest
    if code < start then others else ⟨code, (before.filter (· ≤ code)).length⟩ :: others

/-- The characters that are not ASCII, in the order in which they are written. -/
def insertions (codes : List Nat) : List Insertion :=
  (insertionsAfter [] codes).mergeSort fun a b =>
    a.code < b.code || (a.code == b.code && a.place ≤ b.place)

/-- Writes insertions into a text of `count` characters; the last one was before `next`. -/
def writeInsertions (bias count : Nat) (next : Insertion) (first : Bool) :
    List Insertion → List Char
  | [] => []
  | found :: rest =>
    let distance := (found.code - next.code) * (count + 1) + found.place - next.place
    writeNumber bias 36 distance
      ++ writeInsertions (adapt distance (count + 1) first) (count + 1)
        ⟨found.code, found.place + 1⟩ false rest

def encode (text : List Char) : List Char :=
  let plain := text.filter (·.toNat < start)
  plain ++ (if plain.isEmpty then [] else ['-'])
    ++ writeInsertions 72 plain.length ⟨start, 0⟩ true (insertions (text.map Char.toNat))

/-- What has been read, and the number that is being read. -/
structure Reading where
  text : List Char
  next : Insertion
  bias : Nat
  first : Bool
  number : Nat
  weight : Nat
  place : Nat

/-- The state in which a number begins. -/
def Reading.fresh (text : List Char) (next : Insertion) (bias : Nat) (first : Bool) : Reading :=
  ⟨text, next, bias, first, 0, 1, 36⟩

/-- A character of the given code, if there is one. -/
def char? (code : Nat) : Option Char :=
  if h : code.isValidChar then some (Char.ofNatAux code h) else none

def insertAt (r : Reading) (number : Nat) : Option Reading := do
  let count := r.text.length + 1
  let place := (r.next.place + number) % count
  let code := r.next.code + (r.next.place + number) / count
  let c ← char? code
  let text := r.text.take place ++ c :: r.text.drop place
  return .fresh text ⟨code, place + 1⟩ (adapt number count r.first) false

def readDigit (r : Reading) (c : Char) : Option Reading := do
  let value ← value? c
  let number := r.number + value * r.weight
  let threshold := threshold r.bias r.place
  if value < threshold then insertAt r number
  else return { r with number, weight := r.weight * (36 - threshold), place := r.place + 36 }

/-- The ASCII characters and the digits, which a hyphen separates if there are any of the former. -/
def split (text : List Char) : List Char × List Char :=
  match text.reverse.dropWhile (· ≠ '-') with
  | [] | [_] => ([], text)
  | _ :: plain => (plain.reverse, (text.reverse.takeWhile (· ≠ '-')).reverse)

def decode? (text : List Char) : Option (List Char) := do
  let (plain, digits) := split text
  let r ← digits.foldlM readDigit (.fresh plain ⟨start, 0⟩ 72 true)
  if r.place = 36 then return r.text else none

end EventRelay.Text.Punycode
