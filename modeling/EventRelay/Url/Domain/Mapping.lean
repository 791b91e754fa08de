import EventRelay.Text.Compose
import EventRelay.Url.Domain.Table
set_option autoImplicit false

/-!
The characters of domain names. Some stand for others: capital letters for small ones, and
variants of a letter for the letter; some are left out, and some must not be written.
-/
namespace EventRelay.Url.Domain

open Text.Table (Span rows spans within)

/-- Evenly spaced characters and what they stand for. -/
structure Run where
  first : Nat
  count : Nat
  step : Nat
  target : Nat
deriving DecidableEq, Repr

def run? : List Nat → Option Run
  | [first, target] => some ⟨first, 1, 1, target⟩
  | [first, count, target] => some ⟨first, count, 1, target⟩
  | [first, count, step, target] => some ⟨first, count, step, target⟩
  | _ => none

def Run.image? (run : Run) (c : Char) : Option Char :=
  let distance := c.toNat - run.first
  if run.first ≤ c.toNat ∧ distance % run.step = 0 ∧ distance / run.step < run.count then
    some (.ofNat (run.target + distance))
  else none

def mappingRuns : List Run := (rows Table.runs).filterMap run?

/-- The characters that stand for several others. -/
def sequences : List (Nat × List Char) :=
  (rows Table.sequences).filterMap fun row =>
    match row with
    | [] => none
    | c :: others => some (c, others.map .ofNat)

def allowedSpans : List Span := spans Table.allowed

def ignoredSpans : List Span := spans Table.ignored

def markSpans : List Span := spans Table.marks

def isMark (c : Char) : Bool := within markSpans c

def mapChar? (c : Char) : Option (List Char) :=
  if c.toNat < 0x80 then some [c.toLower]
  else if ¬ within allowedSpans c then none
  else if within ignoredSpans c then some []
  else
    match mappingRuns.findSome? (·.image? c) with
    | some d => some [d]
    | none => some ((sequences.lookup c.toNat).getD [c])

/-- What a name stands for, if all its characters may be written. -/
def mapped? (name : List Char) : Option (List Char) :=
  (name.mapM mapChar?).map fun found => Text.composed found.flatten

end EventRelay.Url.Domain
