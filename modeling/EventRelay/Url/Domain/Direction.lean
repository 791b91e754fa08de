import EventRelay.Text.Table
import EventRelay.Url.Domain.DirectionTable
set_option autoImplicit false

/-!
The rule for names in scripts written from the right: a label keeps to one direction, so that it
cannot be shown as something else than it is.
-/
namespace EventRelay.Url.Domain

open Text.Table (Span spans within)

inductive Direction where
  | left
  | right
  | arabicLetter
  | arabicDigit
  | digit
  | separator
  | terminator
  | commonSeparator
  | mark
  | boundary
  | neutral
deriving DecidableEq, Repr

namespace Direction

/-- The spans of all directions but `left`. -/
def table : List (Direction × List Span) :=
  [(right, spans DirectionTable.right), (arabicLetter, spans DirectionTable.arabicLetters),
    (arabicDigit, spans DirectionTable.arabicDigits), (digit, spans DirectionTable.digits),
    (separator, spans DirectionTable.separators), (terminator, spans DirectionTable.terminators),
    (commonSeparator, spans DirectionTable.commonSeparators), (mark, spans DirectionTable.marks),
    (boundary, spans DirectionTable.boundaries), (neutral, spans DirectionTable.neutral)]

def of (c : Char) : Direction :=
  match table.find? fun entry => within entry.2 c with
  | some (direction, _) => direction
  | none => left

/-- Whether a direction makes a name one of a script written from the right. -/
def isRightward (d : Direction) : Bool := d = right || d = arabicLetter || d = arabicDigit

/-- Whether a direction may stand in every label. -/
def isCommon (d : Direction) : Bool :=
  [digit, separator, commonSeparator, terminator, neutral, boundary, mark].contains d

def lastOf (ds : List Direction) : Direction := (ds.reverse.find? (· ≠ mark)).getD mark

/-- Whether a label written from the right keeps to its direction. -/
def keepsRight (ds : List Direction) : Bool :=
  ds.all (fun d => d.isRightward || d.isCommon)
    && [right, arabicLetter, digit, arabicDigit].contains (lastOf ds)
    && !(ds.contains digit && ds.contains arabicDigit)

/-- Whether a label written from the left keeps to its direction. -/
def keepsLeft (ds : List Direction) : Bool :=
  ds.all (fun d => d = left || d.isCommon) && [left, digit].contains (lastOf ds)

/-- Whether a label keeps to the direction of its first character. -/
def keeps : List Direction → Bool
  | [] => true
  | left :: rest => keepsLeft (left :: rest)
  | right :: rest => keepsRight (right :: rest)
  | arabicLetter :: rest => keepsRight (arabicLetter :: rest)
  | _ => false

end Direction

/-- Whether the labels of a name keep to their directions, which matters only if one is written
from the right. -/
def keepsDirections (labels : List (List Char)) : Bool :=
  let directions := labels.map (·.map Direction.of)
  !(directions.any fun ds => ds.any (·.isRightward)) || directions.all Direction.keeps

end EventRelay.Url.Domain
