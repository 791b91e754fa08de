import EventRelay.Json.Number
import EventRelay.Text.Characters
set_option autoImplicit false

/-!
JSON text as it is written, before it is known what is wanted of it. A part that no reader looks
at may hold what has no value: a number out of range, a string that is no text, containers nested
too deeply. Where the text goes wrong the document ends, and what was read before stays visible.
-/
namespace EventRelay.Json

/-- A JSON document with its members and items in the order of the text. -/
inductive Document where
  | null
  | bool (b : Bool)
  | number (n : Number)
  | string (s : String)
  | array (items : List Document) (closed : Bool)
  /-- A member whose name is no text has none. -/
  | object (members : List (Option String × Document)) (closed : Bool)
  /-- Well-formed, but without a value. -/
  | unreadable
  /-- The text ends or goes wrong here. -/
  | broken
deriving Repr, Inhabited

namespace Document

/-- A string's content: bytes as they stand and UTF-16 units written by their number. -/
inductive Piece where
  | byte (b : UInt8)
  | unit (u : Nat)

/-- The byte that an escape of one letter stands for. -/
def shortEscape? (letter : UInt8) : Option UInt8 :=
  match letter with
  | 0x22 => some 0x22
  | 0x5C => some 0x5C
  | 0x2F => some 0x2F
  | 0x62 => some 0x08
  | 0x66 => some 0x0C
  | 0x6E => some 0x0A
  | 0x72 => some 0x0D
  | 0x74 => some 0x09
  | _ => none

/-- The unit written by four hexadecimal digits. -/
def unit? (a b c d : UInt8) : Option Nat := do
  let a ← Text.hexValue? a
  let b ← Text.hexValue? b
  let c ← Text.hexValue? c
  let d ← Text.hexValue? d
  return ((a * 16 + b) * 16 + c) * 16 + d

/-- The content of a string after its opening quotation mark, and what follows the closing one. -/
def stringContent? : Bytes → Option (List Piece × Bytes)
  | [] => none
  | 0x22 :: rest => some ([], rest)
  | 0x5C :: 0x75 :: a :: b :: c :: d :: rest => do
    let u ← unit? a b c d
    let (pieces, rest) ← stringContent? rest
    return (.unit u :: pieces, rest)
  | 0x5C :: letter :: rest => do
    let byte ← shortEscape? letter
    let (pieces, rest) ← stringContent? rest
    return (.byte byte :: pieces, rest)
  | byte :: rest => do
    if byte < 0x20 ∨ byte = 0x5C then none
    let (pieces, rest) ← stringContent? rest
    return (.byte byte :: pieces, rest)

/-- The bytes of a string's content; units pair up to characters. -/
def contentBytes? : List Piece → Option Bytes
  | [] => some []
  | .byte b :: rest => (contentBytes? rest).map (b :: ·)
  | .unit high :: .unit low :: rest =>
    if 0xD800 ≤ high ∧ high < 0xDC00 then
      if 0xDC00 ≤ low ∧ low < 0xE000 then
        let c := Char.ofNat (0x10000 + (high - 0xD800) * 0x400 + (low - 0xDC00))
        (contentBytes? rest).map (Text.encode (String.singleton c) ++ ·)
      else none
    else if 0xDC00 ≤ high ∧ high < 0xE000 then none
    else (contentBytes? (.unit low :: rest)).map
      (Text.encode (String.singleton (Char.ofNat high)) ++ ·)
  | .unit u :: rest =>
    if 0xD800 ≤ u ∧ u < 0xE000 then none
    else (contentBytes? rest).map (Text.encode (String.singleton (Char.ofNat u)) ++ ·)

def contentText? (pieces : List Piece) : Option String :=
  (contentBytes? pieces).bind Text.decode?

def isDigit (byte : UInt8) : Bool := 0x30 ≤ byte && byte ≤ 0x39

def digits? (bytes : Bytes) : Option (Bytes × Bytes) :=
  match bytes.takeWhile isDigit with
  | [] => none
  | found => some (found, bytes.dropWhile isDigit)

/-- The digits before the point: no zero stands in front of another digit. -/
def whole? (bytes : Bytes) : Option (Bytes × Bytes) := do
  let (found, rest) ← digits? bytes
  match found with
  | 0x30 :: _ :: _ => none
  | _ => some (found, rest)

def fraction? : Bytes → Option (Option Bytes × Bytes)
  | 0x2E :: rest => (digits? rest).map fun (found, rest) => (some found, rest)
  | bytes => some (none, bytes)

/-- An exponent, if there is one, and whether it is negative. -/
def exponent? (bytes : Bytes) : Option (Option (Bool × Bytes) × Bytes) :=
  let signed := fun (rest : Bytes) =>
    let (down, rest) := match rest with
      | 0x2B :: rest => (false, rest)
      | 0x2D :: rest => (true, rest)
      | rest => (false, rest)
    (digits? rest).map fun (found, rest) => (some (down, found), rest)
  match bytes with
  | 0x65 :: rest => signed rest
  | 0x45 :: rest => signed rest
  | bytes => some (none, bytes)

def numeral? (bytes : Bytes) : Option (Numeral × Bytes) := do
  let (negative, bytes) := match bytes with
    | 0x2D :: rest => (true, rest)
    | bytes => (false, bytes)
  let (whole, bytes) ← whole? bytes
  let (fraction, bytes) ← fraction? bytes
  let (exponent, bytes) ← exponent? bytes
  return (⟨negative, whole, fraction, exponent⟩, bytes)

def isBlank (byte : UInt8) : Bool := byte == 0x20 || byte == 0x09 || byte == 0x0A || byte == 0x0D

/-- The text from its next part on. -/
def skipBlanks (bytes : Bytes) : Bytes := bytes.dropWhile isBlank

/-- How many containers may stand in one another. -/
def maxDepth : Nat := 127

/-- A value after which the text goes on. -/
def read (document : Document) (rest : Bytes) : Document × Option Bytes := (document, some rest)

def failed : Document × Option Bytes := (.broken, none)

def scalar (bytes : Bytes) : Document × Option Bytes :=
  match bytes with
  | 0x6E :: 0x75 :: 0x6C :: 0x6C :: rest => read .null rest
  | 0x74 :: 0x72 :: 0x75 :: 0x65 :: rest => read (.bool true) rest
  | 0x66 :: 0x61 :: 0x6C :: 0x73 :: 0x65 :: rest => read (.bool false) rest
  | 0x22 :: rest =>
    match stringContent? rest with
    | some (pieces, rest) =>
      match contentText? pieces with
      | some text => read (.string text) rest
      | none => read .unreadable rest
    | none => failed
  | bytes =>
    match numeral? bytes with
    | some (numeral, rest) =>
      match numeral.value? with
      | some n => read (.number n) rest
      | none => read .unreadable rest
    | none => failed

/-- A container at a depth; one that is too deep has no value. -/
def container (depth : Nat) (closed : Bool) (document : Document) : Document :=
  if depth < maxDepth then document else if closed then .unreadable else .broken

mutual

def valueAt : Nat → Nat → Bytes → Document × Option Bytes
  | 0, _, _ => failed
  | fuel + 1, depth, bytes =>
    match skipBlanks bytes with
    | 0x5B :: rest =>
      match skipBlanks rest with
      | 0x5D :: rest => read (container depth true (.array [] true)) rest
      | rest =>
        let (items, rest) := itemsAt fuel (depth + 1) rest
        (container depth rest.isSome (.array items rest.isSome), rest)
    | 0x7B :: rest =>
      match skipBlanks rest with
      | 0x7D :: rest => read (container depth true (.object [] true)) rest
      | rest =>
        let (members, rest) := membersAt fuel (depth + 1) rest
        (container depth rest.isSome (.object members rest.isSome), rest)
    | bytes => scalar bytes

def itemsAt : Nat → Nat → Bytes → List Document × Option Bytes
  | 0, _, _ => ([], none)
  | fuel + 1, depth, bytes =>
    match valueAt fuel depth bytes with
    | (item, none) => ([item], none)
    | (item, some rest) =>
      match skipBlanks rest with
      | 0x5D :: rest => ([item], some rest)
      | 0x2C :: rest =>
        match skipBlanks rest with
        | 0x5D :: _ => ([item], none)
        | rest =>
          let (items, rest) := itemsAt fuel depth rest
          (item :: items, rest)
      | _ => ([item], none)

def membersAt : Nat → Nat → Bytes → List (Option String × Document) × Option Bytes
  | 0, _, _ => ([], none)
  | fuel + 1, depth, bytes =>
    match bytes with
    | 0x22 :: rest =>
      match stringContent? rest with
      | none => ([], none)
      | some (pieces, rest) =>
        let name := contentText? pieces
        match skipBlanks rest with
        | 0x3A :: rest =>
          match valueAt fuel depth rest with
          | (value, none) => ([(name, value)], none)
          | (value, some rest) =>
            match skipBlanks rest with
            | 0x7D :: rest => ([(name, value)], some rest)
            | 0x2C :: rest =>
              let (members, rest) := membersAt fuel depth (skipBlanks rest)
              ((name, value) :: members, rest)
            | _ => ([(name, value)], none)
        | _ => ([(name, .broken)], none)
    | _ => ([], none)

end

/-- The document that a text begins with, and whether the text ends there. -/
def ofBytes (bytes : Bytes) : Document × Bool :=
  match valueAt (2 * bytes.length + 2) 0 bytes with
  | (document, some rest) => (document, (skipBlanks rest).isEmpty)
  | (document, none) => (document, false)

end Document
end EventRelay.Json
