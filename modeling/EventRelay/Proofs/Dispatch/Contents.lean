import EventRelay.Proofs.Dispatch.Steps

set_option autoImplicit false

/-!
What a dispatcher holds: jobs that wait, and deliveries in the hands of workers. A job waits only
because somebody offered it, and a delivery is carried only because its job was taken or because it
has come that far.
-/
namespace EventRelay

namespace Activity

variable {α β : Type} {P : Job → Prop}

/-- All jobs that an activity offers, however its calls come out, have a property. -/
inductive Offers (P : Job → Prop) : Activity α → Prop
  | done (result : α) : Offers P (.done result)
  | offer {job : Job} {next : Activity α} (holds : P job) (goes : next.Offers P) :
      Offers P (.offer job next)
  | invoke {space : String} {id : FunctionId} {e : Event}
      {next : Except FunctionError Bytes → Activity α} (goes : ∀ outcome, (next outcome).Offers P) :
      Offers P (.invoke space id e next)
  | pause {p : Pause} {next : Activity α} (goes : next.Offers P) : Offers P (.pause p next)

section Composition
variable {activity : Activity α} {f : α → Activity β}

theorem Offers.andThen (offers : activity.Offers P) (next : ∀ x, (f x).Offers P) :
    (activity.andThen f).Offers P := by
  induction offers with
  | done result => exact next result
  | offer holds _ ih => exact .offer holds ih
  | invoke _ ih => exact .invoke ih
  | pause _ ih => exact .pause ih

theorem Offers.map (offers : activity.Offers P) (g : α → β) : (activity.map g).Offers P :=
  offers.andThen fun _ => .done _

theorem Offers.of_run (offers : activity.Offers P) {outcomes : List (Except FunctionError Bytes)}
    {job : Job} (shown : Trace.offered job ∈ (run outcomes activity).1) : P job := by
  induction offers generalizing outcomes with
  | done result => simp [run] at shown
  | offer holds _ ih =>
      simp only [run, List.mem_cons, Trace.offered.injEq] at shown
      rcases shown with rfl | later
      · exact holds
      · exact ih later
  | invoke _ ih =>
      cases outcomes with
      | nil => simp [run] at shown
      | cons outcome rest =>
          simp only [run, List.mem_cons, reduceCtorEq, false_or] at shown
          exact ih outcome shown
  | pause _ ih =>
      simp only [run, List.mem_cons, reduceCtorEq, false_or] at shown
      exact ih shown

end Composition
end Activity

namespace Dispatcher

variable {d after : Dispatcher}

theorem stepDelivery_queue (outcome : Except FunctionError Bytes) (q : Queue)
    (activity : Activity Unit) :
    (stepDelivery outcome q activity).1 = q ∨
      ∃ job next, activity = .offer job next ∧
        (stepDelivery outcome q activity).1 = q.offer job := by
  cases activity with
  | offer job next => exact Or.inr ⟨job, next, rfl, rfl⟩
  | done => exact Or.inl rfl
  | invoke => exact Or.inl rfl
  | pause => exact Or.inl rfl

theorem mem_of_mem_offer {q : Queue} {offered job : Job}
    (member : job ∈ (q.offer offered).jobs) : job ∈ q.jobs ∨ job = offered := by
  unfold Queue.offer at member
  split at member
  · simpa using member
  · exact Or.inl member

theorem act_eq_some {worker delivery : Nat} {outcome : Except FunctionError Bytes}
    (moved : d.step? (.act worker delivery outcome) = some after) :
    ∃ deliveries activity, d.workers[worker]? = some (.busy deliveries) ∧
      deliveries[delivery]? = some activity ∧
      after = { d with queue := (stepDelivery outcome d.queue activity).1 }.setWorker worker
        (.busy
          (replaceDelivery deliveries delivery (stepDelivery outcome d.queue activity).2)) := by
  simp only [step?] at moved
  split at moved
  · next deliveries busy =>
      split at moved
      · next activity found =>
          cases moved
          exact ⟨deliveries, activity, busy, found, rfl⟩
      · cases moved
  · cases moved

/-- Every delivery in the hands of a worker has a property. -/
def AllCarried (Q : Activity Unit → Prop) (d : Dispatcher) : Prop :=
  ∀ deliveries, .busy deliveries ∈ d.workers → ∀ activity ∈ deliveries, Q activity

def Idle (d : Dispatcher) : Prop := ∀ w ∈ d.workers, w = .waiting ∨ w = .gone

theorem Idle.allCarried (idle : d.Idle) (Q : Activity Unit → Prop) : AllCarried Q d := by
  intro deliveries member
  rcases idle _ member with impossible | impossible <;> cases impossible

section Carried
variable {Q : Activity Unit → Prop} {worker : Nat}

theorem AllCarried.setWorker (all : AllCarried Q d) {now : Worker}
    (fresh : ∀ deliveries, now = .busy deliveries → ∀ activity ∈ deliveries, Q activity) :
    AllCarried Q (d.setWorker worker now) := by
  intro deliveries member activity listed
  rcases List.mem_or_eq_of_mem_set member with old | new
  · exact all deliveries old activity listed
  · exact fresh deliveries new.symm activity listed

theorem mem_of_mem_replaceDelivery {deliveries : List (Activity Unit)} {delivery : Nat}
    {now : Option (Activity Unit)} {activity : Activity Unit}
    (member : activity ∈ replaceDelivery deliveries delivery now) :
    activity ∈ deliveries ∨ now = some activity := by
  cases now with
  | none => exact Or.inl (List.mem_of_mem_eraseIdx member)
  | some next =>
      rcases List.mem_or_eq_of_mem_set member with old | new
      · exact Or.inl old
      · exact Or.inr (by rw [new])

/-- A property of deliveries is kept if those of waiting jobs have it and their steps keep it. -/
theorem AllCarried.step? (all : AllCarried Q d)
    (fresh : ∀ job ∈ d.queue.jobs, ∀ stamps subscribers,
      ∀ activity ∈ job.deliveries d.policy stamps subscribers, Q activity)
    (goes : ∀ activity outcome now, Q activity →
      (stepDelivery outcome d.queue activity).2 = some now → Q now)
    {move : Move} (moved : d.step? move = some after) : AllCarried Q after := by
  cases move with
  | close =>
      cases moved
      exact all
  | offer job =>
      cases moved
      exact all
  | take worker routes stamps =>
      cases step_of_take moved with
      | take _ _ _ job rest waiting first =>
          refine AllCarried.setWorker all ?_
          rintro deliveries ⟨⟩
          refine fresh job ?_ stamps _
          rw [first]
          exact List.mem_cons_self
  | act worker delivery outcome =>
      obtain ⟨deliveries, activity, busy, found, rfl⟩ := act_eq_some moved
      have carried := all deliveries (List.mem_of_getElem? busy)
      refine AllCarried.setWorker all ?_
      rintro _ ⟨⟩ other member
      rcases mem_of_mem_replaceDelivery member with old | new
      · exact carried other old
      · exact goes activity outcome other (carried activity (List.mem_of_getElem? found)) new
  | finish worker =>
      cases step_of_step? moved with
      | finish _ idle =>
          refine AllCarried.setWorker all ?_
          rintro _ ⟨⟩
  | leave worker =>
      cases step_of_step? moved with
      | leave _ waiting closed empty =>
          refine AllCarried.setWorker all ?_
          rintro _ ⟨⟩

/-- What is offered on the way of a delivery is offered by what is left of it. -/
theorem offers_stepDelivery {P : Job → Prop} {activity now : Activity Unit}
    {outcome : Except FunctionError Bytes} {q : Queue} (offers : activity.Offers P)
    (goes : (stepDelivery outcome q activity).2 = some now) : now.Offers P := by
  cases offers with
  | done => cases goes
  | offer _ rest =>
      cases goes
      exact rest
  | invoke rest =>
      cases goes
      exact rest outcome
  | pause rest =>
      cases goes
      exact rest

/-- A job that waits after a move waited before, was offered from outside, or was published by a
delivery that was about to do so. -/
theorem mem_queue_step? {move : Move} (moved : d.step? move = some after) {job : Job}
    (member : job ∈ after.queue.jobs) :
    job ∈ d.queue.jobs ∨ move = .offer job ∨
      ∃ deliveries next, .busy deliveries ∈ d.workers ∧ .offer job next ∈ deliveries := by
  cases move with
  | close =>
      cases moved
      exact Or.inl member
  | offer offered =>
      cases moved
      rcases mem_of_mem_offer member with old | rfl
      · exact Or.inl old
      · exact Or.inr (Or.inl rfl)
  | take worker routes stamps =>
      cases step_of_take moved with
      | take _ _ _ first rest waiting shape =>
          refine Or.inl ?_
          rw [shape]
          exact List.mem_cons_of_mem _ member
  | act worker delivery outcome =>
      obtain ⟨deliveries, activity, busy, found, rfl⟩ := act_eq_some moved
      rcases stepDelivery_queue outcome d.queue activity with same | ⟨offered, next, rfl, grown⟩
      · rw [queue_setWorker, same] at member
        exact Or.inl member
      · rw [queue_setWorker, grown] at member
        rcases mem_of_mem_offer member with old | rfl
        · exact Or.inl old
        · exact Or.inr (Or.inr ⟨deliveries, next, List.mem_of_getElem? busy,
            List.mem_of_getElem? found⟩)
  | finish worker =>
      cases step_of_step? moved with
      | finish => exact Or.inl member
  | leave worker =>
      cases step_of_step? moved with
      | leave => exact Or.inl member

end Carried
end Dispatcher
end EventRelay
