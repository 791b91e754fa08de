import EventRelay.Json.Document
set_option autoImplicit false

/-!
Reading a document as a value of a wanted type, part by part in the order of the text. Two things
can go wrong: the text is no JSON, or it is and does not fit the type. The first fault met counts.
-/
namespace EventRelay.Json

/-- Why a text cannot be read as a type. -/
inductive Fault where
  /-- The text is no JSON, or a part in use has no value. -/
  | malformed
  /-- The value does not fit the type. -/
  | mismatch
deriving DecidableEq, Repr

abbrev Reader (α : Type) := Document → Except Fault α

namespace Document

mutual

def ofJson : Json → Document
  | .null => .null
  | .bool b => .bool b
  | .number n => .number n
  | .string s => .string s
  | .array items => .array (ofItems items) true
  | .object members => .object (ofMembers members) true

def ofItems : List Json → List Document
  | [] => []
  | item :: rest => ofJson item :: ofItems rest

def ofMembers : List (String × Json) → List (Option String × Document)
  | [] => []
  | (name, value) :: rest => (some name, ofJson value) :: ofMembers rest

end

mutual

/-- Passes over a part that nobody wants; it need only be well-formed. -/
def skip : Document → Except Fault Unit
  | .broken => .error .malformed
  | .array items closed => do
    skipItems items
    if closed then pure () else throw .malformed
  | .object members closed => do
    skipMembers members
    if closed then pure () else throw .malformed
  | _ => .ok ()

def skipItems : List Document → Except Fault Unit
  | [] => .ok ()
  | item :: rest => do
    skip item
    skipItems rest

def skipMembers : List (Option String × Document) → Except Fault Unit
  | [] => .ok ()
  | (_, value) :: rest => do
    skip value
    skipMembers rest

end

mutual

/-- The value of a document in which every part has one. -/
def toJson : Document → Except Fault Json
  | .null => .ok .null
  | .bool b => .ok (.bool b)
  | .number n => .ok (.number n)
  | .string s => .ok (.string s)
  | .array items closed => do
    let items ← itemsToJson items
    if closed then pure (.array items) else throw .malformed
  | .object members closed => do
    let members ← membersToJson members
    if closed then pure (Json.ofMembers members) else throw .malformed
  | .unreadable => .error .malformed
  | .broken => .error .malformed

def itemsToJson : List Document → Except Fault (List Json)
  | [] => .ok []
  | item :: rest => do
    let item ← toJson item
    let rest ← itemsToJson rest
    return item :: rest

def membersToJson : List (Option String × Document) → Except Fault (List (String × Json))
  | [] => .ok []
  | (none, _) :: _ => .error .malformed
  | (some name, value) :: rest => do
    let value ← toJson value
    let rest ← membersToJson rest
    return (name, value) :: rest

end

end Document

namespace Reader

/-- The fault of a scalar or container where something else is wanted. -/
def misfit {α : Type} : Reader α
  | .unreadable => .error .malformed
  | .broken => .error .malformed
  | _ => .error .mismatch

def text : Reader String
  | .string s => .ok s
  | document => misfit document

def bool : Reader Bool
  | .bool b => .ok b
  | document => misfit document

/-- A whole number of at most the given size. -/
def nat (most : Nat) : Reader Nat
  | .number (.integer n) => if 0 ≤ n ∧ n ≤ most then .ok n.toNat else .error .mismatch
  | document => misfit document

def value : Reader Json := Document.toJson

def optional {α : Type} (reader : Reader α) : Reader (Option α)
  | .null => .ok none
  | document => (reader document).map some

def items {α : Type} (reader : Reader α) : List Document → Except Fault (List α)
  | [] => .ok []
  | item :: rest => do
    let item ← reader item
    let rest ← items reader rest
    return item :: rest

def list {α : Type} (reader : Reader α) : Reader (List α)
  | .array documents closed => do
    let found ← items reader documents
    if closed then pure found else throw .malformed
  | document => misfit document

def entries {α : Type} (reader : Reader α) :
    List (Option String × Document) → Except Fault (List (String × α))
  | [] => .ok []
  | (none, _) :: _ => .error .malformed
  | (some name, document) :: rest => do
    let found ← reader document
    let rest ← entries reader rest
    return (name, found) :: rest

/-- A map from strings; the last entry of a key counts. -/
def map {α : Type} (reader : Reader α) : Reader (List (String × α))
  | .object members closed => do
    let found ← entries reader members
    if closed then pure (Keyed.ofList found) else throw .malformed
  | document => misfit document

def object : Reader (List (String × Json)) := map value

end Reader

/-- How a record is read from an object, or from an array of its members' values in their order. -/
structure Record (σ : Type) where
  /-- The names of the members. -/
  names : List String
  /-- The names that must be there. -/
  required : List String
  /-- The record before any member is read. -/
  blank : σ
  /-- Takes a member's value into the record. -/
  take : String → Document → σ → Except Fault σ

namespace Record

variable {σ : Type}

def complete (record : Record σ) (seen : List String) : Bool :=
  record.required.all (seen.contains ·)

/-- Reads members in order: one of a known name may stand only once, others are passed over. -/
def takeMembers (record : Record σ) :
    List (Option String × Document) → Bool → List String → σ → Except Fault σ
  | [], closed, seen, state =>
    if ¬ closed then .error .malformed
    else if record.complete seen then .ok state
    else .error .mismatch
  | (none, _) :: _, _, _, _ => .error .malformed
  | (some name, document) :: rest, closed, seen, state =>
    if record.names.contains name then
      if seen.contains name then .error .mismatch
      else do
        let state ← record.take name document state
        record.takeMembers rest closed (name :: seen) state
    else do
      document.skip
      record.takeMembers rest closed seen state

/-- Reads the values of an array in the order of the names. -/
def takeItems (record : Record σ) :
    List String → List Document → Bool → List String → σ → Except Fault σ
  | [], [], closed, _, state => if closed then .ok state else .error .malformed
  | [], _ :: _, _, _, _ => .error .malformed
  | _ :: _, [], closed, seen, state =>
    if ¬ closed then .error .malformed
    else if record.complete seen then .ok state
    else .error .mismatch
  | name :: names, document :: rest, closed, seen, state => do
    let state ← record.take name document state
    record.takeItems names rest closed (name :: seen) state

def read (record : Record σ) : Reader σ
  | .object members closed => record.takeMembers members closed [] record.blank
  | .array items closed => record.takeItems record.names items closed [] record.blank
  | document => Reader.misfit document

end Record

/-- A text read as a type; nothing may follow the value. -/
def readBytes {α : Type} (reader : Reader α) (bytes : Bytes) : Except Fault α := do
  let (document, ended) := Document.ofBytes bytes
  let found ← reader document
  if ended then pure found else throw .malformed

def readValue {α : Type} (reader : Reader α) (value : Json) : Except Fault α :=
  reader (Document.ofJson value)

def parse (bytes : Bytes) : Except Fault Json := readBytes Reader.value bytes

end EventRelay.Json
