import EventRelay.Toml.Datetimes
set_option autoImplicit false

/-!
Reading a document of TOML line by line.
-/
namespace EventRelay.Toml

open Text (Parser)

def scalar? (cs : List Char) : Option (Value × List Char) :=
  match cs with
  | '"' :: _ => (string? cs).map fun (s, rest) => (.string s, rest)
  | '\'' :: _ => (string? cs).map fun (s, rest) => (.string s, rest)
  | 't' :: 'r' :: 'u' :: 'e' :: rest => some (.bool true, rest)
  | 'f' :: 'a' :: 'l' :: 's' :: 'e' :: rest => some (.bool false, rest)
  | cs => (datetime? cs).or (number? cs)

/-- How many arrays and tables may stand in one another, and how many parts a key may have. -/
def maxDepth : Nat := 80

def isBareKeyChar (c : Char) : Bool := c.isAlphanum || c == '_' || c == '-'

def keyPart? (cs : List Char) : Option (String × List Char) :=
  match cs with
  | '"' :: rest =>
    (basicString? (rest.length + 1) rest).map fun (content, rest) => (String.ofList content, rest)
  | '\'' :: rest => (literalString? rest).map fun (content, rest) => (String.ofList content, rest)
  | cs =>
    match cs.takeWhile isBareKeyChar with
    | [] => none
    | found => some (String.ofList found, cs.dropWhile isBareKeyChar)

/-- The parts of a key, and the text after it and its blanks. -/
def keyParts? : Nat → Parser (List String)
  | 0, _ => none
  | fuel + 1, cs => do
    let (part, rest) ← keyPart? (skipBlanks cs)
    match skipBlanks rest with
    | '.' :: rest =>
      let (parts, rest) ← keyParts? fuel rest
      return (part :: parts, rest)
    | rest => return ([part], rest)

def key? (cs : List Char) : Option ((List String × String) × List Char) := do
  let (parts, rest) ← keyParts? maxDepth cs
  let last ← parts.getLast?
  if maxDepth ≤ parts.length then none
  return ((parts.dropLast, last), rest)

def afterComment? (cs : List Char) : Option (List Char) :=
  match cs with
  | '#' :: rest =>
    let ended := fun (c : Char) => c = '\n' ∨ c = '\r'
    if (rest.takeWhile fun c => !ended c).all isText then some (rest.dropWhile fun c => !ended c)
    else none
  | cs => some cs

/-- The text after blanks, comments and line ends. -/
def skipLines? : Nat → List Char → Option (List Char)
  | 0, cs => some cs
  | fuel + 1, cs => do
    let cs ← afterComment? (skipBlanks cs)
    match lineEnd? cs with
    | some rest => skipLines? fuel rest
    | none => return cs

/-- Puts the members of a table in braces together. -/
def inlineOf? (members : List ((List String × String) × Value)) : Option Value :=
  (members.foldl
    (fun table member => table.bind fun (origin, entries) =>
      addValue member.1.1 member.1.2 member.2 origin entries)
    (some (.header, []))).map fun found => .inlineTable found.2

mutual

def valueAt? : Nat → Nat → Parser Value
  | 0, _, _ => none
  | fuel + 1, depth, cs =>
    match cs with
    | '[' :: rest => do
      if maxDepth ≤ depth + 1 then none
      let (items, rest) ← itemsAt? fuel (depth + 1) rest
      return (.array items, rest)
    | '\x7b' :: rest => do
      if maxDepth ≤ depth + 1 then none
      match skipBlanks rest with
      | '\x7d' :: rest => return (.inlineTable [], rest)
      | rest =>
        let (members, rest) ← membersAt? fuel (depth + 1) rest
        let table ← inlineOf? members
        return (table, rest)
    | cs => scalar? cs

def itemsAt? : Nat → Nat → Parser (List Value)
  | 0, _, _ => none
  | fuel + 1, depth, cs => do
    match ← skipLines? cs.length cs with
    | ']' :: rest => return ([], rest)
    | cs =>
      let (item, rest) ← valueAt? fuel depth cs
      match ← skipLines? rest.length rest with
      | ']' :: rest => return ([item], rest)
      | ',' :: rest =>
        let (items, rest) ← itemsAt? fuel depth rest
        return (item :: items, rest)
      | _ => none

def membersAt? : Nat → Nat → Parser (List ((List String × String) × Value))
  | 0, _, _ => none
  | fuel + 1, depth, cs => do
    let (key, rest) ← key? cs
    let rest ← mark? '=' rest
    let (value, rest) ← valueAt? fuel depth (skipBlanks rest)
    match skipBlanks rest with
    | '\x7d' :: rest => return ([(key, value)], rest)
    | ',' :: rest =>
      let (members, rest) ← membersAt? fuel depth rest
      return ((key, value) :: members, rest)
    | _ => none

end

inductive Line where
  | nothing
  | header (several : Bool) (path : List String) (key : String)
  | entry (path : List String) (key : String) (value : Value)

def line? (cs : List Char) : Option (Line × List Char) :=
  match skipBlanks cs with
  | [] => some (.nothing, [])
  | '#' :: rest => some (.nothing, '#' :: rest)
  | '\n' :: rest => some (.nothing, '\n' :: rest)
  | '\r' :: rest => some (.nothing, '\r' :: rest)
  | '[' :: '[' :: rest => do
    let ((path, key), rest) ← key? rest
    let rest ← mark? ']' rest
    let rest ← mark? ']' rest
    return (.header true path key, rest)
  | '[' :: rest => do
    let ((path, key), rest) ← key? rest
    let rest ← mark? ']' rest
    return (.header false path key, rest)
  | cs => do
    let ((path, key), rest) ← key? cs
    let rest ← mark? '=' rest
    let rest := skipBlanks rest
    let (value, rest) ← valueAt? (rest.length + 1) 0 rest
    return (.entry path key value, rest)

def Draft.follow? (draft : Draft) : Line → Option Draft
  | .nothing => some draft
  | .header several path key => draft.begin? several path key
  | .entry path key value => draft.add? path key value

/-- Reads lines up to the end of the text. -/
def readLines? : Nat → List Char → Draft → Option Draft
  | 0, _, _ => none
  | fuel + 1, cs, draft => do
    let (line, rest) ← line? cs
    let draft ← draft.follow? line
    match ← afterComment? (skipBlanks rest) with
    | [] => return draft
    | rest =>
      let rest ← lineEnd? rest
      readLines? fuel rest draft

/-- The table that a text describes; a mark of byte order at its start does not count. -/
def parse? (text : String) : Option Entries :=
  let cs := match text.toList with
    | '\uFEFF' :: rest => rest
    | cs => cs
  (readLines? (cs.length + 1) cs ⟨[], []⟩).map (·.root)

end EventRelay.Toml
