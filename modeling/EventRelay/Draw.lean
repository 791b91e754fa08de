set_option autoImplicit false

/-!
Even draws from a source of random words. A word times the number of outcomes has a high part,
which is the outcome, and a low part, which decides whether the word counts: the words that count
fall evenly on the outcomes. A source that runs out goes on with zeros, and zero always counts.
-/
namespace EventRelay

abbrev Words := List UInt64

namespace Draw

/-- How far `n` can be doubled within a word of the given width. -/
def leadingZeros (width n : Nat) : Nat := width - 1 - n.log2

/-- The greatest low part with which a word counts. -/
def zone (width n : Nat) : Nat := n * Nat.pow 2 (leadingZeros width n) - 1

def outcome? (width n : Nat) (word : UInt64) : Option Nat :=
  let product := word.toNat % Nat.pow 2 width * n
  if product % Nat.pow 2 width ≤ zone width n then some (product / Nat.pow 2 width) else none

/-- A number below `n`, drawn from words of the given width, and the words left. -/
def below (width n : Nat) : Words → Nat × Words
  | [] => (0, [])
  | word :: rest =>
    match outcome? width n word with
    | some value => (value, rest)
    | none => below width n rest

def pick (table : List String) (words : Words) : String × Words :=
  let (place, rest) := below 32 table.length words
  (table.getD place "", rest)

end Draw
end EventRelay
