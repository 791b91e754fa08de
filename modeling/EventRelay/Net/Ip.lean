import EventRelay.Text.Characters
import EventRelay.Text.Split
set_option autoImplicit false

/-!
Addresses of the internet as text, and those with a port, which a listener can be bound to.
-/
namespace EventRelay.Net

open Text (number?)

/-- A piece of one to four hexadecimal digits. -/
def piece? (digits : List Char) : Option Nat :=
  if digits.isEmpty ∨ 4 < digits.length then none else number? 16 digits

/-- A byte in decimal without zeros in front. -/
def byte? (digits : List Char) : Option Nat :=
  match digits with
  | [] => none
  | '0' :: _ :: _ => none
  | digits => (number? 10 digits).bind fun n => if n < 256 then some n else none

/-- Two pieces written as four bytes with points. -/
def embeddedIpv4? (text : List Char) : Option (List Nat) :=
  match (Text.piecesOf '.' text).mapM byte? with
  | some [a, b, c, d] => some [a * 256 + b, c * 256 + d]
  | _ => none

/-- Pieces with colons between them; at the end of an address the last two may have points. -/
def pieceList? (atEnd : Bool) : List (List Char) → Option (List Nat)
  | [] => some []
  | [last] =>
    if atEnd ∧ last.contains '.' then embeddedIpv4? last else (piece? last).map ([·])
  | text :: rest => do
    let piece ← piece? text
    let pieces ← pieceList? atEnd rest
    return piece :: pieces

/-- What stands before and after the first two colons in a row. -/
def cutDoubleColon? : List Char → Option (List Char × List Char)
  | [] => none
  | ':' :: ':' :: rest => some ([], rest)
  | c :: rest => (cutDoubleColon? rest).map fun (before, after) => (c :: before, after)

/-- The pieces of one side of the two colons. -/
def side? (atEnd : Bool) (text : List Char) : Option (List Nat) :=
  if text.isEmpty then some [] else pieceList? atEnd (Text.piecesOf ':' text)

def ipv6? (text : List Char) : Option (List Nat) :=
  match cutDoubleColon? text with
  | some (before, after) => do
    let front ← side? false before
    let back ← side? true after
    if 7 < front.length + back.length then none
    return front ++ List.replicate (8 - front.length - back.length) 0 ++ back
  | none => do
    let pieces ← side? true text
    if pieces.length ≠ 8 then none
    return pieces

/-- A decimal number, with any zeros in front, below a limit. -/
def isNumberBelow (limit : Nat) (digits : List Char) : Bool :=
  !digits.isEmpty && match Text.number? 10 digits with
    | some n => n < limit
    | none => false

def isPort (digits : List Char) : Bool := isNumberBelow (Nat.pow 2 16) digits

def isIpv4 (text : List Char) : Bool := (embeddedIpv4? text).isSome

/-- Whether a text is eight pieces, with or without the number of a zone. -/
def isZonedIpv6 (text : List Char) : Bool :=
  match Text.cutOf? '%' text with
  | some (address, zone) => (ipv6? address).isSome && isNumberBelow (Nat.pow 2 32) zone
  | none => (ipv6? text).isSome

/-- Whether a text is an address with a port; one of eight pieces stands in brackets. -/
def isSocketAddress (text : String) : Bool :=
  match text.toList with
  | '[' :: rest =>
    match Text.cutOf? ']' rest with
    | some (address, ':' :: port) => isZonedIpv6 address && isPort port
    | _ => false
  | cs =>
    match Text.cutOf? ':' cs with
    | some (address, port) => isIpv4 address && isPort port
    | none => false

end EventRelay.Net
