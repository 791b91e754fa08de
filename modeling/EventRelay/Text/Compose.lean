import EventRelay.Text.Compose.Table
import EventRelay.Text.Table
set_option autoImplicit false

/-!
Texts in which every character that can be composed of others is. A text is taken apart as far as
possible, its marks are put into the order of their classes, and then each character takes up the
marks that nothing keeps from it.
-/
namespace EventRelay.Text

namespace Compose

/-- A character and the two that compose it. -/
structure Pair where
  whole : Char
  first : Char
  second : Char
deriving DecidableEq, Repr

def pair? : List Nat → Option Pair
  | [whole, first, second] => some ⟨.ofNat whole, .ofNat first, .ofNat second⟩
  | _ => none

def pairs : List Pair := (Text.Table.rows Table.pairs).filterMap pair?

/-- Marks from one to another, and their class. -/
structure MarkSpan where
  span : Text.Table.Span
  rank : Nat
deriving DecidableEq, Repr

def markSpan? : List Nat → Option MarkSpan
  | [first, last, rank] => some ⟨⟨first, last⟩, rank⟩
  | _ => none

def markSpans : List MarkSpan := (Text.Table.rows Table.classes).filterMap markSpan?

/-- The class of a mark; zero for a character that marks are put on. -/
def rank (c : Char) : Nat :=
  if c.toNat < 0x300 then 0
  else
    match markSpans.find? (·.span.holds c) with
    | some found => found.rank
    | none => 0

def firstSyllable : Nat := 0xAC00

/-- The first letters of the three kinds: at the beginning, in the middle, before the first at the
end. -/
def firstLeading : Nat := 0x1100
def firstVowel : Nat := 0x1161
def beforeTrailing : Nat := 0x11A7

def syllableParts? (c : Char) : Option (Char × Char) :=
  if firstSyllable ≤ c.toNat ∧ c.toNat < firstSyllable + 19 * 21 * 28 then
    let n := c.toNat - firstSyllable
    if n % 28 = 0 then
      some (.ofNat (firstLeading + n / 588), .ofNat (firstVowel + n % 588 / 28))
    else some (.ofNat (c.toNat - n % 28), .ofNat (beforeTrailing + n % 28))
  else none

def syllable? (first second : Char) : Option Char :=
  let l := first.toNat - firstLeading
  let v := second.toNat - firstVowel
  let s := first.toNat - firstSyllable
  let t := second.toNat - beforeTrailing
  if firstLeading ≤ first.toNat ∧ l < 19 ∧ firstVowel ≤ second.toNat ∧ v < 21 then
    some (.ofNat (firstSyllable + (l * 21 + v) * 28))
  else if firstSyllable ≤ first.toNat ∧ s < 19 * 21 * 28 ∧ s % 28 = 0
      ∧ beforeTrailing < second.toNat ∧ t < 28 then
    some (.ofNat (first.toNat + t))
  else none

def parts? (c : Char) : Option (Char × Char) :=
  if c.toNat < 0x80 then none
  else
    match syllableParts? c with
    | some parts => some parts
    | none => (pairs.find? (·.whole == c)).map fun pair => (pair.first, pair.second)

def whole? (first second : Char) : Option Char :=
  if second.toNat < 0x80 then none
  else
    match syllable? first second with
    | some c => some c
    | none => (pairs.find? fun pair => pair.first == first && pair.second == second).map (·.whole)

/-- How often a character can be taken apart. -/
def depth : Nat := 8

/-- A character taken apart, a number of times at most. -/
def takeApart : Nat → Char → List Char
  | 0, c => [c]
  | n + 1, c =>
    match parts? c with
    | none => [c]
    | some (first, second) => takeApart n first ++ takeApart n second

/-- Puts a character before others, behind the marks of lower classes that follow it. -/
def place (c : Char) : List Char → List Char
  | [] => [c]
  | d :: rest =>
    if rank d ≠ 0 ∧ rank d < rank c then d :: place c rest else c :: d :: rest

def sortMarks : List Char → List Char
  | [] => []
  | c :: rest => place c (sortMarks rest)

/-- Composes a character with what follows; `kept` are the marks in between, in reverse. -/
def gather (base : Char) (kept : List Char) : List Char → List Char
  | [] => base :: kept.reverse
  | c :: rest =>
    let open_ := match kept with
      | [] => true
      | last :: _ => rank last < rank c
    match (if open_ then whole? base c else none) with
    | some c => gather c kept rest
    | none =>
      if rank c = 0 then base :: kept.reverse ++ gather c [] rest else gather base (c :: kept) rest

/-- Composes a text whose marks are in order. -/
def join : List Char → List Char
  | [] => []
  | c :: rest => if rank c = 0 then gather c [] rest else c :: join rest

end Compose

/-- The text in which all that can be composed is. -/
def composed (text : List Char) : List Char :=
  Compose.join (Compose.sortMarks (text.flatMap (Compose.takeApart Compose.depth)))

end EventRelay.Text
