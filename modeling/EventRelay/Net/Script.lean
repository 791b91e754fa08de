import EventRelay.Net.Call
set_option autoImplicit false

/-!
A network whose replies are written down: the first call to a URL gets the first reply to it, and
so on; the last reply is repeated. Its state are the calls made so far.
-/
namespace EventRelay

/-- The replies to every URL, and what all others get. -/
structure Script where
  replies : String → List Reply
  otherwise : Reply

namespace Script

/-- The text of the URL that a call goes to; a fragment is not sent. -/
def address (call : Call) : String := { call.url with fragment := none }.text

def reply (script : Script) (calls : List Call) (call : Call) : Reply :=
  let replies := script.replies (address call)
  let earlier := calls.filter fun other => address other == address call
  (replies[earlier.length]?.or replies.getLast?).getD script.otherwise

def network (script : Script) : Network (List Call) := fun call calls =>
  (script.reply calls call, calls ++ [call])

@[simp] theorem network_snd (script : Script) (call : Call) (calls : List Call) :
    (script.network call calls).2 = calls ++ [call] := rfl

end Script
end EventRelay
