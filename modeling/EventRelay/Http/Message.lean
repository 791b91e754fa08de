import EventRelay.Http.Headers
import EventRelay.Http.Uri
set_option autoImplicit false

/-!
Requests and responses.
-/
namespace EventRelay

structure Request where
  method : String
  uri : Uri
  headers : Headers
  body : Bytes
deriving Repr

structure Response where
  status : Nat
  headers : Headers
  body : Bytes
deriving DecidableEq, Repr

def isMethod (text : String) : Bool := !text.isEmpty && text.toList.all isTokenChar

namespace Response

def ofStatus (status : Nat) : Response := ⟨status, [], []⟩

def plain (status : Nat) (text : String) : Response :=
  ⟨status, [⟨"content-type", Text.encode "text/plain; charset=utf-8"⟩], Text.encode text⟩

def binary (status : Nat) (body : Bytes) : Response :=
  ⟨status, [⟨"content-type", Text.encode "application/octet-stream"⟩], body⟩

def json (status : Nat) (text : String) : Response :=
  ⟨status, [⟨"content-type", Text.encode "application/json"⟩], Text.encode text⟩

end Response
end EventRelay
