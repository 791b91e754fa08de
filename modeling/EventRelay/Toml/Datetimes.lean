import EventRelay.Time.Instant
import EventRelay.Toml.Numbers
set_option autoImplicit false

/-!
Dates and times of TOML. Nothing is configured by one, so that its text is kept as it is written.
-/
namespace EventRelay.Toml

open Text (Parser)

/-- So many digits, for a number within bounds. -/
def fixed? (length least most : Nat) : Parser Nat := fun cs =>
  let found := cs.take length
  let n := numberOf 10 found
  if found.length = length ∧ found.all Char.isDigit ∧ least ≤ n ∧ n ≤ most then
    some (n, cs.drop length)
  else none

def mark? (c : Char) (cs : List Char) : Option (List Char) :=
  match cs with
  | d :: rest => if c = d then some rest else none
  | [] => none

def date? (cs : List Char) : Option (List Char) := do
  let (year, cs) ← fixed? 4 0 9999 cs
  let cs ← mark? '-' cs
  let (month, cs) ← fixed? 2 1 12 cs
  let cs ← mark? '-' cs
  let (_, cs) ← fixed? 2 1 (Date.daysInMonth year month) cs
  return cs

def time? (cs : List Char) : Option (List Char) := do
  let (_, cs) ← fixed? 2 0 23 cs
  let cs ← mark? ':' cs
  let (_, cs) ← fixed? 2 0 59 cs
  let cs ← mark? ':' cs
  let (_, cs) ← fixed? 2 0 60 cs
  match cs with
  | '.' :: rest =>
    if (rest.takeWhile Char.isDigit).isEmpty then none else return rest.dropWhile Char.isDigit
  | cs => return cs

def offset? (cs : List Char) : Option (List Char) :=
  match cs with
  | c :: rest =>
    if c = 'Z' ∨ c = 'z' then some rest
    else if c = '+' ∨ c = '-' then do
      let (_, rest) ← fixed? 2 0 23 rest
      let rest ← mark? ':' rest
      let (_, rest) ← fixed? 2 0 59 rest
      return rest
    else some cs
  | [] => some cs

def afterDatetime? (cs : List Char) : Option (List Char) :=
  match date? cs with
  | none => time? cs
  | some rest =>
    match rest with
    | c :: more =>
      if c = 'T' ∨ c = 't' ∨ c = ' ' then
        match time? more with
        | some more => offset? more
        | none => some rest
      else some rest
    | [] => some rest

def datetime? (cs : List Char) : Option (Value × List Char) :=
  (afterDatetime? cs).map fun rest =>
    (.datetime (String.ofList (cs.take (cs.length - rest.length))), rest)

end EventRelay.Toml
