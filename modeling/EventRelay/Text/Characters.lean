set_option autoImplicit false

/-!
Letter case, white space and digits, and what a reader of characters gives. Letter case is that of
ASCII, and other characters are left as they are; white space is what has Unicode's property
`White_Space`; digits stand for numbers in bases up to sixteen.
-/
namespace EventRelay.Text

/-- A reading step: a result and the text after it. -/
abbrev Parser (α : Type) := List Char → Option (α × List Char)

/-- The text with its ASCII letters in upper case. -/
def upper (text : String) : String := text.map Char.toUpper

/-- The text with its ASCII letters in lower case. -/
def lower (text : String) : String := text.map Char.toLower

/-- Equality that does not tell upper from lower case ASCII letters. -/
def sameIgnoringCase (left right : String) : Bool := lower left == lower right

@[simp] theorem toList_upper (text : String) : (upper text).toList = text.toList.map Char.toUpper :=
  String.toList_map

@[simp] theorem toList_lower (text : String) : (lower text).toList = text.toList.map Char.toLower :=
  String.toList_map

theorem sameIgnoringCase_iff (left right : String) :
    sameIgnoringCase left right = true ↔ lower left = lower right := by
  simp [sameIgnoringCase]

def isBlank (c : Char) : Bool :=
  let n := c.toNat
  (0x9 ≤ n && n ≤ 0xD) || n == 0x20 || n == 0x85 || n == 0xA0 || n == 0x1680 ||
    (0x2000 ≤ n && n ≤ 0x200A) || n == 0x2028 || n == 0x2029 || n == 0x202F || n == 0x205F ||
    n == 0x3000

def trimStart (cs : List Char) : List Char := cs.dropWhile isBlank

def trim (text : String) : String :=
  String.ofList (trimStart (trimStart text.toList).reverse).reverse

def digitValue? (base : Nat) (c : Char) : Option Nat :=
  let n := c.toNat
  let value := if c.isDigit then n - 0x30 else if 0x61 ≤ n ∧ n ≤ 0x66 then n - 0x61 + 10
    else if 0x41 ≤ n ∧ n ≤ 0x46 then n - 0x41 + 10 else base
  if value < base then some value else none

/-- The value of a byte that is a hexadecimal digit. -/
def hexValue? (byte : UInt8) : Option Nat := digitValue? 16 (Char.ofNat byte.toNat)

/-- The number that digits write in a base. -/
def number? (base : Nat) (digits : List Char) : Option Nat :=
  digits.foldl (fun n c => n.bind fun n => (digitValue? base c).map (n * base + ·)) (some 0)

end EventRelay.Text
