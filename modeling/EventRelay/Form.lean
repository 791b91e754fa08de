import EventRelay.Keyed
import EventRelay.Percent
import EventRelay.Text.Split
set_option autoImplicit false

/-!
Keys and values of a query. A plus sign is a space, percent signs introduce bytes, and what is no
UTF-8 is replaced.
-/
namespace EventRelay.Form

def decoded (cs : List Char) : String :=
  let spaced := cs.map fun c => if c = '+' then ' ' else c
  Text.decodeLossy (Percent.decode (Text.encode (String.ofList spaced)))

/-- The key and the value of a part; without an equals sign the value is empty. -/
def pair (cs : List Char) : String × String :=
  let (key, value) := (Text.cutOf? '=' cs).getD (cs, [])
  (decoded key, decoded value)

def pairs (query : String) : List (String × String) :=
  ((Text.piecesOf '&' query.toList).filter (!·.isEmpty)).map pair

def values (query : String) : List (String × List String) :=
  (pairs query).foldl (fun found entry => Keyed.alter found entry.1 [] (· ++ [entry.2])) []

end EventRelay.Form
