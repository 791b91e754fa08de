import EventRelay.Net.Ip
import EventRelay.Percent
import EventRelay.Text.Characters
import EventRelay.Url.Basic
import EventRelay.Url.Domain
set_option autoImplicit false

/-!
Hosts as URLs write them: addresses of six groups and four, in brackets or with points, and names.
-/
namespace EventRelay.Url

open Net (ipv6?)
open Text (number?)

/-- A part of an address with points: in hexadecimal after `0x`, in octal after a zero. -/
def ipv4Number? : List Char → Option Nat
  | [] => none
  | '0' :: 'x' :: digits => number? 16 digits
  | '0' :: 'X' :: digits => number? 16 digits
  | '0' :: d :: digits => number? 8 (d :: digits)
  | digits => number? 10 digits

/-- The parts of a name between its points, without an empty one at the end. -/
def addressParts (name : List Char) : List (List Char) :=
  let parts := Text.piecesOf '.' name
  if parts.getLast? = some [] ∧ 1 < parts.length then parts.dropLast else parts

/-- Whether the last part of a name is a number, so that the name has to be an address. -/
def endsInNumber (name : List Char) : Bool :=
  match (addressParts name).getLast? with
  | none => false
  | some [] => false
  | some last => last.all Char.isDigit || (ipv4Number? last).isSome

/-- The address that numbers write: all but the last are single bytes. -/
def ipv4OfNumbers? : List Nat → Nat → Option Nat
  | [], _ => none
  | [last], room => if last < room then some last else none
  | n :: rest, room =>
    if n < 256 then (ipv4OfNumbers? rest (room / 256)).map (n * (room / 256) + ·) else none

def ipv4? (name : List Char) : Option Nat := do
  let parts := addressParts name
  if 4 < parts.length then none
  let numbers ← parts.mapM ipv4Number?
  ipv4OfNumbers? numbers (Nat.pow 2 32)

def bracketed (text : List Char) : Except Error Host :=
  match text.getLast?, ipv6? text.dropLast with
  | some ']', some pieces => .ok (.ipv6 pieces)
  | _, _ => .error .ipv6

def forbiddenInHost (c : Char) : Bool :=
  ['\x00', '\t', '\n', '\r', ' ', '#', '/', ':', '<', '>', '?', '@', '[', '\\', ']', '^',
    '|'].contains c

/-- Whether a character stands for itself where only controls are written by their bytes. -/
def isNoControl (c : Char) : Bool := 0x20 ≤ c.toNat && c.toNat < 0x7F

def opaqueHost (text : List Char) : Except Error Host :=
  match text with
  | '[' :: rest => bracketed rest
  | text =>
    if text.any forbiddenInHost then .error .domainCharacter
    else .ok (.domain (Percent.encode isNoControl (String.ofList text)))

/-- The host of a special scheme: an address in brackets, a domain, or an address with points. -/
def specialHost (text : List Char) : Except Error Host :=
  match text with
  | '[' :: rest => bracketed rest
  | text =>
    match Domain.toAscii? (Percent.decode (Text.encode (String.ofList text))) with
    | none => .error .domainName
    | some name =>
      if name.isEmpty then .error .emptyHost
      else if endsInNumber name then
        match ipv4? name with
        | some address => .ok (.ipv4 address)
        | none => .error .ipv4
      else .ok (.domain (String.ofList name))

end EventRelay.Url
