import EventRelay.Text.Compose
import EventRelay.Url.Domain.JoiningTable
set_option autoImplicit false

/-!
Where the two invisible characters that join letters or keep them apart may stand: after a mark
that takes a vowel away, and the one that keeps apart also between letters that would join.
-/
namespace EventRelay.Url.Domain

open Text.Table (Span spans within)

/-- The character that keeps letters apart. -/
def nonJoiner : Char := '\u200c'

def joiner : Char := '\u200d'

/-- The class of marks that take a vowel away. -/
def vowelKiller : Nat := 9

def leftSpans : List Span := spans JoiningTable.left

def rightSpans : List Span := spans JoiningTable.right

def bothSpans : List Span := spans JoiningTable.both

def transparentSpans : List Span := spans JoiningTable.transparent

/-- The first character through which nothing joins. -/
def firstSolid? (cs : List Char) : Option Char := cs.find? fun c => !within transparentSpans c

/-- Whether letters would join across a place, `before` being those on its left, in reverse. -/
def wouldJoin (before after : List Char) : Bool :=
  (firstSolid? before).any (fun c => within leftSpans c || within bothSpans c)
    && (firstSolid? after).any (fun c => within rightSpans c || within bothSpans c)

def mayStand (before : List Char) (c : Char) (after : List Char) : Bool :=
  let killed := before.head?.any fun d => Text.Compose.rank d == vowelKiller
  if c = joiner then killed
  else if c = nonJoiner then killed || wouldJoin before after
  else true

/-- Whether the rest of a label keeps to the rule, `before` being its beginning, in reverse. -/
def joinsWellAfter (before : List Char) : List Char → Bool
  | [] => true
  | c :: rest => mayStand before c rest && joinsWellAfter (c :: before) rest

/-- Whether a label keeps to the rule. -/
def joinsWell (label : List Char) : Bool := joinsWellAfter [] label

end EventRelay.Url.Domain
