import EventRelay.Dispatch.Dispatcher

set_option autoImplicit false

/-!
What each move of a dispatcher needs and does.
-/
namespace EventRelay

theorem foldlM_keeps {σ μ : Type} {step? : σ → μ → Option σ} {P : σ → Prop} {moves : List μ}
    (keeps : ∀ s, ∀ move ∈ moves, ∀ after, P s → step? s move = some after → P after)
    {first last : σ} (start : P first) (run : moves.foldlM step? first = some last) : P last := by
  induction moves generalizing first with
  | nil =>
      cases run
      exact start
  | cons move rest ih =>
      rw [List.foldlM_cons, Option.bind_eq_bind] at run
      obtain ⟨middle, moved, goesOn⟩ := Option.bind_eq_some_iff.mp run
      have next := keeps first move List.mem_cons_self middle start moved
      exact ih (fun s other member => keeps s other (List.mem_cons_of_mem _ member)) next goesOn

def Worker.isGone : Worker → Bool
  | .gone => true
  | _ => false

namespace Dispatcher

def deserted (d : Dispatcher) : Bool := d.workers.all Worker.isGone

def published? (d : Dispatcher) (worker delivery : Nat) : Option Job :=
  match d.workers[worker]? with
  | some (.busy deliveries) =>
    match deliveries[delivery]? with
    | some (.offer job _) => some job
    | _ => none
  | _ => none

/-- A move with what it needs and what comes of it. -/
inductive Step (d : Dispatcher) : Move → Dispatcher → Prop
  | close : Step d .close d.close
  | offer (job : Job) : Step d (.offer job) (d.offer job)
  | take (worker : Nat) (routes : RoutingTable) (stamps : Stamps) (job : Job) (rest : List Job)
      (waiting : d.workers[worker]? = some .waiting) (first : d.queue.jobs = job :: rest) :
      Step d (.take worker routes stamps)
        ({ d with queue := { d.queue with jobs := rest } }.setWorker worker
          (.busy (job.deliveries d.policy stamps
            (routes.subscribers job.space job.path job.event.type))))
  | publish (worker delivery : Nat) (outcome : Except FunctionError Bytes)
      (deliveries : List (Activity Unit)) (job : Job) (next : Activity Unit)
      (busy : d.workers[worker]? = some (.busy deliveries))
      (offering : deliveries[delivery]? = some (.offer job next)) :
      Step d (.act worker delivery outcome)
        ((d.offer job).setWorker worker (.busy (deliveries.set delivery next)))
  | proceed (worker delivery : Nat) (outcome : Except FunctionError Bytes)
      (before after : List (Activity Unit))
      (busy : d.workers[worker]? = some (.busy before))
      (quiet : d.published? worker delivery = none) :
      Step d (.act worker delivery outcome) (d.setWorker worker (.busy after))
  | finish (worker : Nat) (idle : d.workers[worker]? = some (.busy [])) :
      Step d (.finish worker) (d.setWorker worker .waiting)
  | leave (worker : Nat) (waiting : d.workers[worker]? = some .waiting)
      (closed : d.draining = true) (empty : d.queue.jobs = []) :
      Step d (.leave worker) (d.setWorker worker .gone)

section Step
variable {d after : Dispatcher}

theorem step_of_take {worker : Nat} {routes : RoutingTable} {stamps : Stamps}
    (moved : d.step? (.take worker routes stamps) = some after) :
    Step d (.take worker routes stamps) after := by
  simp only [step?] at moved
  split at moved
  · rename_i job queue waiting taken
    unfold Queue.take? at taken
    split at taken
    · cases taken
    · rename_i job rest first
      cases taken
      cases moved
      exact .take worker routes stamps job rest waiting first
  · cases moved

theorem step_of_act {worker delivery : Nat} {outcome : Except FunctionError Bytes}
    (moved : d.step? (.act worker delivery outcome) = some after) :
    Step d (.act worker delivery outcome) after := by
  simp only [step?] at moved
  split at moved
  · rename_i deliveries busy
    split at moved
    · rename_i activity found
      cases activity with
      | done =>
          cases moved
          exact .proceed worker delivery outcome deliveries _ busy
            (by simp [published?, busy, found])
      | offer job next =>
          cases moved
          exact .publish worker delivery outcome deliveries job next busy found
      | invoke space id event next =>
          cases moved
          exact .proceed worker delivery outcome deliveries _ busy
            (by simp [published?, busy, found])
      | pause pause next =>
          cases moved
          exact .proceed worker delivery outcome deliveries _ busy
            (by simp [published?, busy, found])
    · cases moved
  · cases moved

theorem step_of_step? {move : Move} (moved : d.step? move = some after) : Step d move after := by
  cases move with
  | close =>
      cases moved
      exact .close
  | offer job =>
      cases moved
      exact .offer job
  | take worker routes stamps => exact step_of_take moved
  | act worker delivery outcome => exact step_of_act moved
  | finish worker =>
      simp only [step?] at moved
      split at moved
      · rename_i idle
        cases moved
        exact .finish worker idle
      · cases moved
  | leave worker =>
      simp only [step?] at moved
      split at moved
      · rename_i waiting
        split at moved
        · rename_i free
          cases moved
          exact .leave worker waiting free.1 free.2
        · cases moved
      · cases moved

theorem Step.draining {move : Move} (step : Step d move after) (closed : d.draining = true) :
    after.draining = true := by
  cases step with
  | close => rfl
  | offer => exact closed
  | take => exact closed
  | publish => exact closed
  | proceed => exact closed
  | finish => exact closed
  | leave => exact closed

end Step

section Workers
variable {d : Dispatcher} {worker : Nat}

@[simp] theorem queue_setWorker (now : Worker) : (d.setWorker worker now).queue = d.queue := rfl

@[simp] theorem workers_offer (job : Job) : (d.offer job).workers = d.workers := rfl

theorem getElem?_setWorker_self {was : Worker} (there : d.workers[worker]? = some was)
    (now : Worker) : (d.setWorker worker now).workers[worker]? = some now := by
  obtain ⟨inside, -⟩ := List.getElem?_eq_some_iff.mp there
  exact List.getElem?_set_self inside

theorem getElem?_setWorker_ne {other : Nat} (apart : worker ≠ other) (now : Worker) :
    (d.setWorker worker now).workers[other]? = d.workers[other]? :=
  List.getElem?_set_ne apart

theorem deserted_eq_false {w : Worker} (there : d.workers[worker]? = some w)
    (alive : w.isGone = false) : d.deserted = false := by
  rw [deserted, List.all_eq_false]
  exact ⟨w, List.mem_of_getElem? there, by simp [alive]⟩

theorem isGone_of_deserted (gone : d.deserted = true) {w : Worker}
    (there : d.workers[worker]? = some w) : w.isGone = true :=
  List.all_eq_true.mp gone w (List.mem_of_getElem? there)

theorem published?_eq_some {delivery : Nat} {deliveries : List (Activity Unit)} {job : Job}
    {next : Activity Unit} (busy : d.workers[worker]? = some (.busy deliveries))
    (offering : deliveries[delivery]? = some (.offer job next)) :
    d.published? worker delivery = some job := by
  simp [published?, busy, offering]

end Workers
end Dispatcher
end EventRelay
