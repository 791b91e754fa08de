import EventRelay.Event.System
import EventRelay.Retry
set_option autoImplicit false

/-!
What handlers and deliveries do to the gateway, as a tree of visible steps: put an event into the
queue, call a function, pause. The tree says nothing about when its steps are taken or what else
happens between them, so one description serves for running it and for reasoning about every
interleaving.
-/
namespace EventRelay

/-- An event that waits for its subscribers. -/
structure Job where
  space : String
  path : String
  event : Event
deriving DecidableEq, Repr, Inhabited

namespace Job

/-- The path on which the gateway tells of its own activity. -/
def systemPath : String := "/"

/-- An event of the gateway itself. -/
def ofSystem (space : String) (event : Event) : Job := ⟨space, systemPath, event⟩

end Job

/-- Steps that lead to a result. -/
inductive Activity (α : Type) where
  | done (result : α)
  /-- Puts a job into the queue if there is room, and goes on in any case. -/
  | offer (job : Job) (next : Activity α)
  /-- Calls a function and goes on with what it makes of the event. -/
  | invoke (space : String) (id : FunctionId) (event : Event)
      (next : Except FunctionError Bytes → Activity α)
  | pause (pause : Pause) (next : Activity α)

namespace Activity

variable {α β : Type}

def andThen : Activity α → (α → Activity β) → Activity β
  | done result, f => f result
  | offer job next, f => offer job (next.andThen f)
  | invoke space id event next, f => invoke space id event fun outcome => (next outcome).andThen f
  | pause p next, f => pause p (next.andThen f)

def map (f : α → β) (activity : Activity α) : Activity β := activity.andThen fun x => done (f x)

/-- What a run of an activity shows, the outcomes of its calls being given. -/
inductive Trace where
  | offered (job : Job)
  | invoked (space : String) (id : FunctionId) (event : Event)
      (outcome : Except FunctionError Bytes)
  | paused (pause : Pause)

/-- A run in which the calls come out as listed, one after another; it ends when the list does. -/
def run : List (Except FunctionError Bytes) → Activity α → List Trace × Option α
  | _, done result => ([], some result)
  | outcomes, offer job next =>
    let (trace, result) := run outcomes next
    (.offered job :: trace, result)
  | [], invoke _ _ _ _ => ([], none)
  | outcome :: rest, invoke space id event next =>
    let (trace, result) := run rest (next outcome)
    (.invoked space id event outcome :: trace, result)
  | outcomes, pause p next =>
    let (trace, result) := run outcomes next
    (.paused p :: trace, result)

end Activity

/-- Ids and times for what is made along the way. -/
abbrev Stamps := Nat → Stamp

def Stamps.after (stamps : Stamps) (n : Nat) : Stamps := fun i => stamps (n + i)

/-- Tells that a function is called, calls it, and tells how that went. Two stamps are used. -/
def Activity.announced {α : Type} (stamps : Stamps) (space : String) (id : FunctionId) (e : Event)
    (body : (Except FunctionError Bytes → Activity α) → Activity α)
    (next : Except FunctionError Bytes → Activity α) : Activity α :=
  .offer (.ofSystem space (Event.invoking (stamps 0) space id e)) (body fun outcome =>
    .offer (.ofSystem space
      (match outcome with
        | .ok result => Event.invoked (stamps 1) space id e result
        | .error error => Event.invocationFailed (stamps 1) space id e error.message))
      (next outcome))

end EventRelay
