import EventRelay.Text.Punycode
import EventRelay.Text.Utf8
import EventRelay.Url.Domain.Direction
import EventRelay.Url.Domain.Joining
import EventRelay.Url.Domain.Mapping
set_option autoImplicit false

/-!
Domain names in their ASCII form. A label that has other characters is written by its code with a
sign in front; one that already has the sign has to be such a code.
-/
namespace EventRelay.Url.Domain

/-- ASCII characters that stand in no domain. -/
def isForbidden (c : Char) : Bool :=
  c.toNat ≤ 0x20 || c.toNat == 0x7F ||
    ['#', '%', '/', ':', '<', '>', '?', '@', '[', '\\', ']', '^', '|'].contains c

def isAscii (c : Char) : Bool := c.toNat < 0x80

/-- What stands in front of a code. -/
def sign : List Char := ['x', 'n', '-', '-']

/-- The label of a code, which has characters outside ASCII and is its own mapping. -/
def ofCode? (code : List Char) : Option (List Char) := do
  if ¬ code.all isAscii then none
  let label ← Text.Punycode.decode? code
  if label.all isAscii ∨ mapped? label ≠ some label then none
  return label

def readable? (label : List Char) : Option (List Char) :=
  match Text.dropStart? sign label with
  | some code => ofCode? code
  | none => some label

def isLabel (label : List Char) : Bool :=
  (Text.dropStart? sign label).isNone && !label.any isForbidden && !label.head?.any isMark
    && joinsWell label

def labelAscii (label : List Char) : List Char :=
  if label.all isAscii then label else sign ++ Text.Punycode.encode label

def labels? (name : List Char) : Option (List (List Char)) := do
  let labels ← (Text.piecesOf '.' (← mapped? name)).mapM readable?
  if labels.all isLabel ∧ keepsDirections labels then return labels else none

def toAscii? (bytes : Bytes) : Option (List Char) := do
  let text ← Text.decode? bytes
  let labels ← labels? text.toList
  return List.intercalate ['.'] (labels.map labelAscii)

end EventRelay.Url.Domain
