import EventRelay.Dispatch.Delivery
import EventRelay.RoutingTable
set_option autoImplicit false

/-!
The queue between handlers and workers, which has a fixed number of places, so that a job that finds
none is lost; and the workers that deliver what waits in it, as a state and the moves it can make. A
worker takes the first job, carries its deliveries on side by side, and waits again; when the intake
is closed it leaves as soon as it finds the queue empty. Any order of moves that are possible is a
run.
-/
namespace EventRelay

/-- Jobs that wait, the first to be taken first. -/
structure Queue where
  jobs : List Job
  capacity : Nat
deriving Repr

namespace Queue

def empty (capacity : Nat) : Queue := ⟨[], capacity⟩

def hasRoom (q : Queue) : Bool := q.jobs.length < q.capacity

/-- Puts a job at the end, if there is room. -/
def offer (q : Queue) (job : Job) : Queue :=
  if q.hasRoom then { q with jobs := q.jobs ++ [job] } else q

def take? (q : Queue) : Option (Job × Queue) :=
  match q.jobs with
  | [] => none
  | job :: rest => some (job, { q with jobs := rest })

end Queue

inductive Worker where
  | waiting
  | busy (deliveries : List (Activity Unit))
  | gone

structure Dispatcher where
  queue : Queue
  /-- Whether the intake is closed. -/
  draining : Bool
  workers : List Worker
  policy : RetryPolicy

namespace Dispatcher

/-- What can happen next. Workers and deliveries are told by their positions; a call that is made
has its outcome with it. -/
inductive Move where
  | close
  | offer (job : Job)
  | take (worker : Nat) (routes : RoutingTable) (stamps : Stamps)
  | act (worker delivery : Nat) (outcome : Except FunctionError Bytes)
  | finish (worker : Nat)
  | leave (worker : Nat)

/-- A dispatcher whose workers all wait. -/
def start (capacity workers : Nat) (policy : RetryPolicy) : Dispatcher :=
  ⟨.empty capacity, false, List.replicate workers .waiting, policy⟩

def offer (d : Dispatcher) (job : Job) : Dispatcher := { d with queue := d.queue.offer job }

def close (d : Dispatcher) : Dispatcher := { d with draining := true }

def setWorker (d : Dispatcher) (worker : Nat) (now : Worker) : Dispatcher :=
  { d with workers := d.workers.set worker now }

/-- The next step of a delivery; `none` when it is done. -/
def stepDelivery (outcome : Except FunctionError Bytes) (q : Queue) :
    Activity Unit → Queue × Option (Activity Unit)
  | .done () => (q, none)
  | .offer job next => (q.offer job, some next)
  | .invoke _ _ _ next => (q, some (next outcome))
  | .pause _ next => (q, some next)

def replaceDelivery (deliveries : List (Activity Unit)) (delivery : Nat) :
    Option (Activity Unit) → List (Activity Unit)
  | some now => deliveries.set delivery now
  | none => deliveries.eraseIdx delivery

/-- The state after a move, if it is possible. -/
def step? (d : Dispatcher) : Move → Option Dispatcher
  | .close => some d.close
  | .offer job => some (d.offer job)
  | .take worker routes stamps =>
    match d.workers[worker]?, d.queue.take? with
    | some .waiting, some (job, queue) =>
      let subscribers := routes.subscribers job.space job.path job.event.type
      some ({ d with queue }.setWorker worker (.busy (job.deliveries d.policy stamps subscribers)))
    | _, _ => none
  | .act worker delivery outcome =>
    match d.workers[worker]? with
    | some (.busy deliveries) =>
      match deliveries[delivery]? with
      | some activity =>
        let (queue, now) := stepDelivery outcome d.queue activity
        some ({ d with queue }.setWorker worker (.busy (replaceDelivery deliveries delivery now)))
      | none => none
    | _ => none
  | .finish worker =>
    match d.workers[worker]? with
    | some (.busy []) => some (d.setWorker worker .waiting)
    | _ => none
  | .leave worker =>
    match d.workers[worker]? with
    | some .waiting =>
      if d.draining ∧ d.queue.jobs = [] then some (d.setWorker worker .gone) else none
    | _ => none

end Dispatcher
end EventRelay
