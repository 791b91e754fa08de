import EventRelay.Http.Headers
set_option autoImplicit false

/-!
Media types by their grammar: a type, a subtype that may end in a suffix, and parameters. What a
header field says that is not of this form is no media type.
-/
namespace EventRelay

/-- A media type without its parameters, in lower case. -/
structure MediaType where
  type : String
  subtype : String
  /-- What follows the last plus sign of the subtype. -/
  ending : Option String
deriving DecidableEq, Repr

namespace MediaType

/-- What follows the value of a parameter: blanks, then nothing or a semicolon. -/
def afterQuoted? : List Char → Option (List Char)
  | [] => some []
  | ' ' :: rest => afterQuoted? rest
  | ';' :: rest => some rest
  | _ => none

def isQuotedChar (c : Char) : Bool := 0x1F < c.toNat && c.toNat != 0x7F

/-- What follows a value in quotes, whose first character may be a quote itself. -/
def quoted? : List Char → Option (List Char)
  | [] => none
  | first :: rest =>
    if ¬ isQuotedChar first ∨ ¬ (rest.takeWhile (· ≠ '"')).all isQuotedChar then none
    else
      match rest.dropWhile (· ≠ '"') with
      | _ :: after => afterQuoted? after
      | [] => none

def unquoted? (cs : List Char) : Option (List Char) :=
  match cs.dropWhile isTokenChar with
  | [] => some []
  | ';' :: rest => if (cs.takeWhile isTokenChar).isEmpty then none else some rest
  | _ => none

def parameter? (cs : List Char) : Option (List Char) :=
  match cs.dropWhile isTokenChar with
  | '=' :: value =>
    if (cs.takeWhile isTokenChar).isEmpty then none
    else
      match value with
      | '"' :: inner => quoted? inner
      | _ => unquoted? value
  | _ => none

/-- Whether parameters are well-formed, of which there are at most as many as `fuel` says. -/
def areParametersWithin : Nat → List Char → Bool
  | _, [] => true
  | 0, _ => false
  | fuel + 1, ' ' :: rest => areParametersWithin fuel rest
  | fuel + 1, cs =>
    match parameter? cs with
    | some rest => areParametersWithin fuel rest
    | none => false

def areParameters (cs : List Char) : Bool := areParametersWithin cs.length cs

/-- The part of a subtype before its last plus sign, and what follows it. -/
def splitEnding (subtype : List Char) : List Char × Option (List Char) :=
  match subtype with
  | [] => ([], none)
  | first :: rest =>
    if rest.contains '+' then
      let after := (rest.reverse.takeWhile (· ≠ '+')).reverse
      (first :: rest.take (rest.length - after.length - 1), some after)
    else (subtype, none)

def parse? (text : String) : Option MediaType :=
  let cs := text.toList
  if text = "*/*" then some ⟨"*", "*", none⟩
  else
    let type := cs.takeWhile isTokenChar
    match cs.dropWhile isTokenChar with
    | '/' :: rest =>
      let subtype := rest.takeWhile isTokenChar
      if type.isEmpty ∨ subtype.isEmpty then none
      else
        let lower := fun (part : List Char) => Text.lower (String.ofList part)
        let (main, ending) := splitEnding subtype
        let found : MediaType := ⟨lower type, lower main, ending.map lower⟩
        match rest.dropWhile isTokenChar with
        | [] => some found
        | ';' :: parameters => if areParameters parameters then some found else none
        | ' ' :: parameters => if areParameters parameters then some found else none
        | _ => none
    | _ => none

/-- Whether this is JSON, or a format on top of it. -/
def isJson (m : MediaType) : Bool :=
  m.type == "application" && (m.subtype == "json" || m.ending == some "json")

end MediaType

def Headers.sayJson (headers : Headers) : Bool :=
  match (headers.text? "content-type").bind MediaType.parse? with
  | some m => m.isJson
  | none => false

end EventRelay
