import EventRelay.Decimal.Shortest
import EventRelay.Json.Basic
set_option autoImplicit false

/-!
Values as text: `compact` without any blank, `pretty` with a line for every item and member. A
double has the fewest digits that read back; from 1e16 on and below 1e-5 it has an exponent with
its sign.
-/
namespace EventRelay.Json

def hexPair (n : Nat) : List Char :=
  [Nat.digitChar (n / 16), Nat.digitChar (n % 16)]

def escapedChar (c : Char) : List Char :=
  if c = '"' then ['\\', '"']
  else if c = '\\' then ['\\', '\\']
  else if c = '\n' then ['\\', 'n']
  else if c = '\r' then ['\\', 'r']
  else if c = '\t' then ['\\', 't']
  else if c.toNat = 0x8 then ['\\', 'b']
  else if c.toNat = 0xC then ['\\', 'f']
  else if c.toNat < 0x20 then ['\\', 'u', '0', '0'] ++ hexPair c.toNat
  else [c]

def stringText (s : String) : String :=
  String.ofList ('"' :: s.toList.flatMap escapedChar ++ ['"'])

def zeros (n : Nat) : List Char := List.replicate n '0'

/-- Digits with a point, an exponent or zeros, for the value `digits * 10 ^ scale`. -/
def decimalText (digits : List Char) (scale : Int) : List Char :=
  let point : Int := digits.length + scale
  if 0 ≤ scale ∧ point ≤ 16 then digits ++ zeros scale.toNat ++ ['.', '0']
  else if 0 < point ∧ point ≤ 16 then digits.take point.toNat ++ '.' :: digits.drop point.toNat
  else if -5 < point ∧ point ≤ 0 then ['0', '.'] ++ zeros (-point).toNat ++ digits
  else
    let exponent := 'e' :: (if 0 < point then ['+'] else []) ++ (toString (point - 1)).toList
    match digits with
    | [] => exponent
    | [d] => d :: exponent
    | d :: rest => d :: '.' :: rest ++ exponent

def doubleText (x : Double) : String :=
  let sign := if x.isNegative then ['-'] else []
  if x.significand = 0 then String.ofList (sign ++ ['0', '.', '0'])
  else
    let (digits, scale) := x.shortest
    String.ofList (sign ++ decimalText (Nat.toDigits 10 digits) scale)

def numberText : Number → String
  | .integer n => toString n
  | .double x => doubleText x

def commaSeparated (texts : List String) : String := ",".intercalate texts

mutual

/-- A value as text without blanks. -/
def compact : Json → String
  | .null => "null"
  | .bool true => "true"
  | .bool false => "false"
  | .number n => numberText n
  | .string s => stringText s
  | .array items => "[" ++ commaSeparated (compactItems items) ++ "]"
  | .object members => "\x7b" ++ commaSeparated (compactMembers members) ++ "\x7d"

def compactItems : List Json → List String
  | [] => []
  | item :: rest => compact item :: compactItems rest

def compactMembers : List (String × Json) → List String
  | [] => []
  | (name, value) :: rest => (stringText name ++ ":" ++ compact value) :: compactMembers rest

end

/-- Lines of a container, each further in than the brackets around them. -/
def block (opening closing : String) (depth : Nat) (lines : List String) : String :=
  if lines.isEmpty then opening ++ closing
  else
    let indent := fun (n : Nat) => "\n" ++ String.ofList (List.replicate (2 * n) ' ')
    opening ++ commaSeparated (lines.map (indent (depth + 1) ++ ·)) ++ indent depth ++ closing

mutual

/-- A value as text with lines, inside as many containers as `depth` says. -/
def prettyAt (depth : Nat) : Json → String
  | .array items => block "[" "]" depth (prettyItems (depth + 1) items)
  | .object members => block "\x7b" "\x7d" depth (prettyMembers (depth + 1) members)
  | .null => "null"
  | .bool true => "true"
  | .bool false => "false"
  | .number n => numberText n
  | .string s => stringText s

def prettyItems (depth : Nat) : List Json → List String
  | [] => []
  | item :: rest => prettyAt depth item :: prettyItems depth rest

def prettyMembers (depth : Nat) : List (String × Json) → List String
  | [] => []
  | (name, value) :: rest =>
    (stringText name ++ ": " ++ prettyAt depth value) :: prettyMembers depth rest

end

/-- A value as text with lines. -/
def pretty (value : Json) : String := prettyAt 0 value

def escape16 (n : Nat) : List Char := '\\' :: 'u' :: hexPair (n / 256 % 256) ++ hexPair (n % 256)

def asciiChar (c : Char) : List Char :=
  let n := c.toNat
  if n < 0x7F then [c]
  else if n < 0x10000 then escape16 n
  else escape16 (0xD800 + (n - 0x10000) / 0x400) ++ escape16 (0xDC00 + (n - 0x10000) % 0x400)

def compactAscii (value : Json) : String := String.ofList ((compact value).toList.flatMap asciiChar)

end EventRelay.Json
