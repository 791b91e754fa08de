import EventRelay.Text.Characters
import EventRelay.Text.Split
set_option autoImplicit false

/-!
Tables of characters as lines of text. A line holds rows with blanks between them, a row holds
numbers in hexadecimal with points between them; what the numbers of a row mean is up to the
table.
-/
namespace EventRelay.Text.Table

def row (word : List Char) : List Nat := (piecesOf '.' word).filterMap (number? 16)

def rows (lines : List String) : List (List Nat) :=
  lines.flatMap fun line => (piecesOf ' ' line.toList).map row

structure Span where
  first : Nat
  last : Nat
deriving DecidableEq, Repr

def Span.holds (span : Span) (c : Char) : Bool := span.first ≤ c.toNat && c.toNat ≤ span.last

def span? : List Nat → Option Span
  | [only] => some ⟨only, only⟩
  | [first, last] => some ⟨first, last⟩
  | _ => none

def spans (lines : List String) : List Span := (rows lines).filterMap span?

def within (spans : List Span) (c : Char) : Bool := spans.any (·.holds c)

theorem within_iff (spans : List Span) (c : Char) :
    within spans c = true ↔ ∃ span ∈ spans, span.first ≤ c.toNat ∧ c.toNat ≤ span.last := by
  simp [within, Span.holds]

end EventRelay.Text.Table
