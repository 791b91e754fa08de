set_option autoImplicit false

/-!
The signal to stop. Its owner raises it once for all who wait, now or later; when the owner goes
away, nobody has to wait any more.
-/
namespace EventRelay

structure Shutdown where
  raised : Bool
  /-- Whether the owner is still there. -/
  owned : Bool
  /-- How many wait or have waited. -/
  waiting : Nat
deriving DecidableEq, Repr

namespace Shutdown

def quiet : Shutdown := ⟨false, true, 0⟩

/-- Another handle waits, if the owner is still there to give it out. -/
def signal (s : Shutdown) : Shutdown := if s.owned then { s with waiting := s.waiting + 1 } else s

def clone (s : Shutdown) (index : Nat) : Shutdown :=
  if index < s.waiting then { s with waiting := s.waiting + 1 } else s

def trigger (s : Shutdown) : Shutdown := if s.owned then { s with raised := true } else s

def drop (s : Shutdown) : Shutdown := { s with owned := false }

/-- Whether the signal is raised, as its owner sees it. -/
def raised? (s : Shutdown) : Option Bool := if s.owned then some s.raised else none

def resolved? (s : Shutdown) (index : Nat) : Option Bool :=
  if index < s.waiting then some (s.raised || !s.owned) else none

end Shutdown
end EventRelay
