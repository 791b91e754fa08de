import EventRelay.Keyed
import EventRelay.Decimal.Double
set_option autoImplicit false

/-!
Values as JSON has them. The members of an object are a map in ascending order of their names.
-/
namespace EventRelay

namespace Json

/-- A number: whole numbers that fit 64 bits, signed or not, are kept apart from all others. -/
inductive Number where
  | integer (n : Int)
  | double (x : Double)
deriving DecidableEq, Repr, Inhabited

end Json

inductive Json where
  | null
  | bool (b : Bool)
  | number (n : Json.Number)
  | string (s : String)
  | array (items : List Json)
  | object (members : List (String × Json))
deriving Repr, Inhabited

namespace Json

mutual

def same : Json → Json → Bool
  | .null, .null => true
  | .bool a, .bool b => a == b
  | .number a, .number b => a == b
  | .string a, .string b => a == b
  | .array items, .array others => sameItems items others
  | .object members, .object others => sameMembers members others
  | _, _ => false

def sameItems : List Json → List Json → Bool
  | [], [] => true
  | item :: items, other :: others => same item other && sameItems items others
  | _, _ => false

def sameMembers : List (String × Json) → List (String × Json) → Bool
  | [], [] => true
  | (name, value) :: members, (other, found) :: others =>
    name == other && same value found && sameMembers members others
  | _, _ => false

end

mutual

theorem same_iff (value other : Json) : same value other = true ↔ value = other := by
  cases value with
  | array items => cases other <;> simp [same, sameItems_iff items]
  | object members => cases other <;> simp [same, sameMembers_iff members]
  | _ => cases other <;> simp [same]

theorem sameItems_iff (items others : List Json) :
    sameItems items others = true ↔ items = others := by
  cases items with
  | nil => cases others <;> simp [sameItems]
  | cons item items =>
    cases others <;> simp [sameItems, same_iff item, sameItems_iff items]

theorem sameMembers_iff (members others : List (String × Json)) :
    sameMembers members others = true ↔ members = others := by
  match members with
  | [] => cases others <;> simp [sameMembers]
  | (name, value) :: members =>
    match others with
    | [] => simp [sameMembers]
    | (other, found) :: others =>
      simp [sameMembers, same_iff value, sameMembers_iff members, and_assoc]

end

instance : DecidableEq Json := fun value other => decidable_of_iff _ (same_iff value other)

/-- An object of the given members; the last of a name counts. -/
def ofMembers (members : List (String × Json)) : Json := .object (Keyed.ofList members)

def get? : Json → String → Option Json
  | .object members, name => Keyed.get? members name
  | _, _ => none

def text? : Json → Option String
  | .string s => some s
  | _ => none

/-- A whole number that is not negative. -/
def nat? : Json → Option Nat
  | .number (.integer n) => if 0 ≤ n then some n.toNat else none
  | _ => none

def ofNat (n : Nat) : Json := .number (.integer n)

def strings (texts : List String) : Json := .array (texts.map .string)

def ofTexts (entries : List (String × String)) : Json := .object (Keyed.mapValues .string entries)

end Json
end EventRelay
