import EventRelay.Text.Characters
set_option autoImplicit false

/-!
Strings of TOML, on one line or on several, with escapes or without. A reader gives its result and
the text after it.
-/
namespace EventRelay.Toml

open Text (Parser)

def isBlank (c : Char) : Bool := c == ' ' || c == '\t'

/-- The text from its next part on the line. -/
def skipBlanks (cs : List Char) : List Char := cs.dropWhile isBlank

/-- Characters that may stand in comments and strings. -/
def isText (c : Char) : Bool := c == '\t' || (0x20 ≤ c.toNat && c.toNat != 0x7F)

def lineEnd? : List Char → Option (List Char)
  | '\n' :: rest => some rest
  | '\r' :: '\n' :: rest => some rest
  | _ => none

def char? (n : Nat) : Option Char :=
  if n < 0xD800 ∨ (0xDFFF < n ∧ n < 0x110000) then some (Char.ofNat n) else none

/-- The character that so many hexadecimal digits write. -/
def codePoint? (length : Nat) (cs : List Char) : Option (Char × List Char) := do
  let found := cs.take length
  if found.length < length then none
  let c ← char? (← Text.number? 16 found)
  return (c, cs.drop length)

def escape? : Parser Char
  | 'b' :: rest => some ('\x08', rest)
  | 't' :: rest => some ('\t', rest)
  | 'n' :: rest => some ('\n', rest)
  | 'f' :: rest => some ('\x0c', rest)
  | 'r' :: rest => some ('\r', rest)
  | '"' :: rest => some ('"', rest)
  | '\\' :: rest => some ('\\', rest)
  | 'u' :: rest => codePoint? 4 rest
  | 'U' :: rest => codePoint? 8 rest
  | _ => none

/-- The content of a string after its quotation mark. -/
def basicString? : Nat → Parser (List Char)
  | 0, _ => none
  | _, [] => none
  | _ + 1, '"' :: rest => some ([], rest)
  | fuel + 1, '\\' :: rest => do
    let (c, rest) ← escape? rest
    let (content, rest) ← basicString? fuel rest
    return (c :: content, rest)
  | fuel + 1, c :: rest => do
    if ¬ isText c then none
    let (content, rest) ← basicString? fuel rest
    return (c :: content, rest)

def literalString? (cs : List Char) : Option (List Char × List Char) := do
  let content := cs.takeWhile (· ≠ '\'')
  if ¬ content.all isText then none
  match cs.dropWhile (· ≠ '\'') with
  | _ :: rest => some (content, rest)
  | [] => none

def isSpace (c : Char) : Bool := isBlank c || c == '\n' || c == '\r'

/-- What follows a backslash at the end of a line: the text after all blanks and empty lines. -/
def continued? (cs : List Char) : Option (List Char) :=
  match lineEnd? (skipBlanks cs) with
  | none => none
  | some _ =>
    let blank := cs.takeWhile isSpace
    if (blank.zip (blank.drop 1)).all (fun pair => pair.1 ≠ '\r' || pair.2 == '\n')
        ∧ blank.getLast? ≠ some '\r' then
      some (cs.dropWhile isSpace)
    else none

/-- How many of a mark stand at the start. -/
def leading (mark : Char) (cs : List Char) : Nat := (cs.takeWhile (· = mark)).length

/-- The content of a string of several lines: up to three marks, of which up to two more belong to
it. -/
def longString? (mark : Char) (escapes : Bool) : Nat → Parser (List Char)
  | 0, _ => none
  | _, [] => none
  | fuel + 1, c :: rest =>
    let cs := c :: rest
    let marks := leading mark cs
    if 3 ≤ marks then
      if marks ≤ 5 then some (List.replicate (marks - 3) mark, cs.drop marks) else none
    else
      let next := fun (found : Char) (rest : List Char) =>
        (longString? mark escapes fuel rest).map fun (content, rest) => (found :: content, rest)
      match lineEnd? cs with
      | some rest => next '\n' rest
      | none =>
        if c = '\\' ∧ escapes then
          match continued? rest with
          | some rest => longString? mark escapes fuel rest
          | none =>
            match escape? rest with
            | some (found, rest) => next found rest
            | none => none
        else if isText c then next c rest
        else none

/-- A string of several lines after its marks; a line end right after them does not count. -/
def afterMarks? (mark : Char) (escapes : Bool) (cs : List Char) : Option (List Char × List Char) :=
  longString? mark escapes (cs.length + 1) ((lineEnd? cs).getD cs)

def string? : Parser String := fun cs =>
  let found := match cs with
    | '"' :: '"' :: '"' :: rest => afterMarks? '"' true rest
    | '\'' :: '\'' :: '\'' :: rest => afterMarks? '\'' false rest
    | '"' :: rest => basicString? (rest.length + 1) rest
    | '\'' :: rest => literalString? rest
    | _ => none
  found.map fun (content, rest) => (String.ofList content, rest)

end EventRelay.Toml
