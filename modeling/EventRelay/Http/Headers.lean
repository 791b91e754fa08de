import EventRelay.Keyed
import EventRelay.Text.Characters
import EventRelay.Text.Utf8
set_option autoImplicit false

/-!
Header fields of requests and responses, in the order in which they were added. Names are in lower
case; a value is bytes, and only one of printable ASCII and tabs can be read as text.
-/
namespace EventRelay

structure HeaderField where
  name : String
  value : Bytes
deriving DecidableEq, Repr, Inhabited

abbrev Headers := List HeaderField

/-- Characters of the names of header fields and of methods. -/
def isTokenChar (c : Char) : Bool :=
  c.isAlphanum
    || ['!', '#', '$', '%', '&', '\'', '*', '+', '-', '.', '^', '_', '\x60', '|', '~'].contains c

namespace HeaderField

def name? (text : String) : Option String :=
  if text.isEmpty ∨ ¬ text.toList.all isTokenChar then none else some (Text.lower text)

def isValue (value : Bytes) : Bool :=
  value.all fun b => (0x20 ≤ b && b != 0x7F) || b == 0x09

def of? (name : String) (value : Bytes) : Option HeaderField :=
  match name? name with
  | some name => if isValue value then some ⟨name, value⟩ else none
  | none => none

def text? (field : HeaderField) : Option String :=
  if field.value.all fun b => (0x20 ≤ b && b < 0x7F) || b == 0x09 then
    some (String.ofList (field.value.map fun b => Char.ofNat b.toNat))
  else none

end HeaderField

namespace Headers

def getAll (headers : Headers) (name : String) : List HeaderField :=
  headers.filter (·.name == name)

def first? (headers : Headers) (name : String) : Option HeaderField :=
  headers.find? (·.name == name)

def has (headers : Headers) (name : String) : Bool := (headers.first? name).isSome

/-- The first value of a name, if it is text. -/
def text? (headers : Headers) (name : String) : Option String :=
  (headers.first? name).bind HeaderField.text?

/-- The first value of a name, if it is text and not empty. -/
def filled? (headers : Headers) (name : String) : Option String :=
  (headers.text? name).filter (!·.isEmpty)

def append (headers : Headers) (name : String) (value : Bytes) : Headers :=
  headers ++ [⟨name, value⟩]

/-- Puts a value in the place of all that a name had. -/
def set (headers : Headers) (name : String) (value : Bytes) : Headers :=
  headers.filter (·.name != name) ++ [⟨name, value⟩]

def setText (headers : Headers) (name : String) (value : String) : Headers :=
  if HeaderField.isValue (Text.encode value) then headers.set name (Text.encode value) else headers

def texts (headers : Headers) : List (String × String) :=
  headers.filterMap fun field => field.text?.map fun text => (field.name, text)

/-- Every name with its last value that is text. -/
def lastTexts (headers : Headers) : List (String × String) := Keyed.ofList headers.texts

/-- Every name with all its values that are text, separated by commas. -/
def joinedTexts (headers : Headers) : List (String × String) :=
  headers.texts.foldl
    (fun found entry =>
      match Keyed.get? found entry.1 with
      | some text => Keyed.insert found entry.1 (text ++ ", " ++ entry.2)
      | none => Keyed.insert found entry.1 entry.2)
    []

end Headers
end EventRelay
