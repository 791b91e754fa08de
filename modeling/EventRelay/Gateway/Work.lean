import EventRelay.Gateway.Basic
set_option autoImplicit false

/-!
What a gateway does in the background: of the moves that its workers can make, one is chosen and
made until none is left. The choice is one of many that are possible; it puts off waiting for
answers.
-/
namespace EventRelay.Gateway

/-- Where the first element is that passes a test, and the element. -/
def firstWhere {β : Type} (test : β → Bool) (items : List β) : Option (Nat × β) :=
  (items.zipIdx.find? fun entry => test entry.1).map fun entry => (entry.2, entry.1)

/-- Whether a delivery can go on without an answer from outside. -/
def isPrompt : Activity Unit → Bool
  | .done _ => true
  | .offer _ _ => true
  | _ => false

def deliveriesOf : Worker → List (Activity Unit)
  | .busy deliveries => deliveries
  | _ => []

def isWaiting : Worker → Bool
  | .waiting => true
  | _ => false

def isFinished : Worker → Bool
  | .busy [] => true
  | _ => false

inductive Choice where
  | move (move : Dispatcher.Move)
  | take (worker : Nat)
  | deliver (worker delivery : Nat) (step : Activity Unit)

/-- The delivery that goes on next, prompt ones first. -/
def chooseDelivery? (workers : List Worker) (test : Activity Unit → Bool) : Option Choice :=
  (firstWhere (fun w => (deliveriesOf w).any test) workers).bind fun (worker, w) =>
    (firstWhere test (deliveriesOf w)).map fun (delivery, step) => .deliver worker delivery step

/-- What the workers do next: they take jobs while there are any, go on with what needs no answer,
leave when they may, and only then wait for answers. -/
def choose? (d : Dispatcher) : Option Choice :=
  let taking := if d.queue.jobs.isEmpty then none
    else (firstWhere isWaiting d.workers).map fun (worker, _) => Choice.take worker
  let finishing :=
    (firstWhere isFinished d.workers).map fun (worker, _) => Choice.move (.finish worker)
  let leaving := if d.draining ∧ d.queue.jobs.isEmpty then
      (firstWhere isWaiting d.workers).map fun (worker, _) => Choice.move (.leave worker)
    else none
  ((((taking.or finishing).or (chooseDelivery? d.workers isPrompt)).or leaving).or
    (chooseDelivery? d.workers fun _ => true))

/-- Makes a move, which has to be possible. -/
def moved (g : Gateway) (move : Dispatcher.Move) : Gateway :=
  { g with dispatcher := (g.dispatcher.step? move).getD g.dispatcher }

/-- How many stamps the deliveries of the first job use. -/
def stampsOfNext (g : Gateway) : Nat :=
  match g.dispatcher.queue.jobs with
  | [] => 0
  | job :: _ => 2 * (g.catalog.routes.subscribers job.space job.path job.event.type).length

variable {σ : Type}

def follow (network : Network σ) : Choice → StateM (Gateway × σ) Unit
  | .move move => modify fun (g, world) => (g.moved move, world)
  | .take worker => modify fun (g, world) =>
    let (stamps, g) := g.takeStamps g.stampsOfNext
    (g.moved (.take worker g.catalog.routes stamps), world)
  | .deliver worker delivery step => do
    match step with
    | .invoke space id e _ =>
      let outcome ← call network space id e
      modify fun (g, world) => (g.moved (.act worker delivery outcome), world)
    | .offer _ _ =>
      modify fun (g, world) =>
        let metrics := if g.dispatcher.queue.hasRoom then g.metrics else g.metrics.countDropped
        ({ g with metrics }.moved (.act worker delivery (.ok [])), world)
    | _ => modify fun (g, world) => (g.moved (.act worker delivery (.ok [])), world)

/-- Lets the workers go on until nothing is left to do, for a number of moves at most. -/
def work (network : Network σ) : Nat → StateM (Gateway × σ) Unit
  | 0 => pure ()
  | fuel + 1 => do
    match choose? (← get).1.dispatcher with
    | none => pure ()
    | some choice => do
      follow network choice
      work network fuel

end EventRelay.Gateway
