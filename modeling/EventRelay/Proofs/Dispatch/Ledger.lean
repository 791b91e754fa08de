import EventRelay.Proofs.Dispatch.Steps

set_option autoImplicit false

/-!
Books on what becomes of jobs while a dispatcher moves. They follow every job from its place in the
queue to the worker that has delivered it, and balance after any run, whoever puts jobs into the
queue and in whatever order the moves are made.
-/
namespace EventRelay.Dispatcher

/-- A job in the hands of a worker, numbered in the order in which jobs are taken. -/
structure Delivery where
  worker : Nat
  job : Job
  number : Nat

def Delivery.entry (delivery : Delivery) : Job × Nat := (delivery.job, delivery.number)

structure Ledger where
  /-- Jobs that got a place in the queue. -/
  admitted : List Job
  /-- Jobs that got their place when no worker was left. -/
  late : List Job
  /-- Jobs that a worker took out of the queue. -/
  served : List Job
  carried : List Delivery
  delivered : List Delivery

namespace Ledger

/-- A job is offered; it gets a place if there is room. -/
def enter (l : Ledger) (d : Dispatcher) (job : Job) : Ledger :=
  if d.queue.hasRoom then
    { l with
      admitted := l.admitted ++ [job]
      late := if d.deserted then l.late ++ [job] else l.late }
  else l

def take (l : Ledger) (worker : Nat) (job : Job) : Ledger :=
  { l with
    served := l.served ++ [job]
    carried := l.carried ++ [⟨worker, job, l.served.length⟩] }

def finish (l : Ledger) (worker : Nat) : Ledger :=
  { l with
    carried := l.carried.filter fun delivery => !(delivery.worker == worker)
    delivered := l.delivered ++ l.carried.filter fun delivery => delivery.worker == worker }

def record (l : Ledger) (d : Dispatcher) : Move → Ledger
  | .offer job => l.enter d job
  | .take worker _ _ =>
    match d.queue.jobs with
    | job :: _ => l.take worker job
    | [] => l
  | .act worker delivery _ =>
    match d.published? worker delivery with
    | some job => l.enter d job
    | none => l
  | .finish worker => l.finish worker
  | .close => l
  | .leave _ => l

end Ledger

structure Recorded where
  dispatcher : Dispatcher
  ledger : Ledger

namespace Recorded

/-- Books that are opened on a dispatcher: what waits in its queue counts as admitted. -/
def start (d : Dispatcher) : Recorded :=
  ⟨d, ⟨d.queue.jobs, if d.deserted then d.queue.jobs else [], [], [], []⟩⟩

def step? (r : Recorded) (move : Move) : Option Recorded :=
  (r.dispatcher.step? move).map fun after => ⟨after, r.ledger.record r.dispatcher move⟩

def run? (r : Recorded) (moves : List Move) : Option Recorded := moves.foldlM step? r

end Recorded

/-- The books balance: jobs that got a place either wait or were taken, each taken one is in the
hands of a busy worker or delivered, and late ones are all that waits when nobody is left. -/
structure Balanced (d : Dispatcher) (l : Ledger) : Prop where
  admitted : l.admitted = l.served ++ d.queue.jobs
  accounted : ((l.carried ++ l.delivered).map Delivery.entry).Perm l.served.zipIdx
  busy : ∀ delivery ∈ l.carried, ∃ activities,
    d.workers[delivery.worker]? = some (.busy activities)
  late : l.late = if d.deserted then d.queue.jobs else []

theorem balanced_start (d : Dispatcher) : Balanced d (Recorded.start d).ledger where
  admitted := rfl
  accounted := List.Perm.refl _
  busy delivery member := by cases member
  late := rfl

section Balanced
variable {d : Dispatcher} {l : Ledger} {worker : Nat} {was : Worker}

theorem Balanced.late_eq_nil (balanced : Balanced d l) (there : d.workers[worker]? = some was)
    (alive : was.isGone = false) : l.late = [] := by
  rw [balanced.late, deserted_eq_false there alive]
  rfl

theorem Balanced.busy_setWorker (balanced : Balanced d l)
    (there : d.workers[worker]? = some was) (now : List (Activity Unit)) :
    ∀ delivery ∈ l.carried, ∃ activities,
      (d.setWorker worker (.busy now)).workers[delivery.worker]? = some (.busy activities) := by
  intro delivery member
  by_cases same : worker = delivery.worker
  · rw [← same]
    exact ⟨now, getElem?_setWorker_self there (.busy now)⟩
  · rw [getElem?_setWorker_ne same]
    exact balanced.busy delivery member

theorem Balanced.busy_setWorker_of_ne (balanced : Balanced d l)
    (free : ∀ delivery ∈ l.carried, worker ≠ delivery.worker) (now : Worker) :
    ∀ delivery ∈ l.carried, ∃ activities,
      (d.setWorker worker now).workers[delivery.worker]? = some (.busy activities) := by
  intro delivery member
  rw [getElem?_setWorker_ne (free delivery member)]
  exact balanced.busy delivery member

theorem Balanced.not_carried (balanced : Balanced d l) (there : d.workers[worker]? = some was)
    (free : ∀ activities, was ≠ .busy activities) :
    ∀ delivery ∈ l.carried, worker ≠ delivery.worker := by
  rintro delivery member rfl
  obtain ⟨activities, busy⟩ := balanced.busy delivery member
  rw [there] at busy
  exact free activities (Option.some.inj busy)

theorem Balanced.setWorker (balanced : Balanced d l) {now : Worker}
    (there : d.workers[worker]? = some was) (alive : was.isGone = false)
    (stays : now.isGone = false ∨ d.queue.jobs = [])
    (busy : ∀ delivery ∈ l.carried, ∃ activities,
      (d.setWorker worker now).workers[delivery.worker]? = some (.busy activities)) :
    Balanced (d.setWorker worker now) l where
  admitted := balanced.admitted
  accounted := balanced.accounted
  busy := busy
  late := by
    rw [balanced.late_eq_nil there alive, queue_setWorker]
    rcases stays with here | empty
    · rw [deserted_eq_false (getElem?_setWorker_self there now) here]
      rfl
    · rw [empty]
      split <;> rfl

theorem Balanced.enter (balanced : Balanced d l) (job : Job) :
    Balanced (d.offer job) (l.enter d job) := by
  by_cases room : d.queue.hasRoom
  · have jobs : (d.offer job).queue.jobs = d.queue.jobs ++ [job] := by
      simp [offer, Queue.offer, room]
    have same : (d.offer job).deserted = d.deserted := rfl
    refine ⟨?_, ?_, ?_, ?_⟩
    · simp only [Ledger.enter, room, ↓reduceIte, jobs, balanced.admitted, List.append_assoc]
    · simpa only [Ledger.enter, room, ↓reduceIte] using balanced.accounted
    · simpa only [Ledger.enter, room, ↓reduceIte, workers_offer] using balanced.busy
    · simp only [Ledger.enter, room, ↓reduceIte, jobs, same, balanced.late]
      split <;> rfl
  · have kept : d.offer job = d := by simp [offer, Queue.offer, room]
    have unchanged : l.enter d job = l := by simp [Ledger.enter, room]
    rwa [kept, unchanged]

theorem Balanced.take (balanced : Balanced d l) {job : Job} {rest : List Job}
    (waiting : d.workers[worker]? = some .waiting) (first : d.queue.jobs = job :: rest)
    (activities : List (Activity Unit)) :
    Balanced ({ d with queue := { d.queue with jobs := rest } }.setWorker worker (.busy activities))
      (l.take worker job) where
  admitted := by
    rw [Ledger.take, balanced.admitted, first]
    simp
  accounted := by
    have before := balanced.accounted
    simp only [List.map_append] at before
    have moved : (l.carried.map Delivery.entry ++ [(job, l.served.length)] ++
          l.delivered.map Delivery.entry).Perm
        (l.carried.map Delivery.entry ++ l.delivered.map Delivery.entry ++
          [(job, l.served.length)]) := by
      simp only [List.append_assoc]
      exact List.perm_append_comm.append_left _
    have next := moved.trans (before.append_right [(job, l.served.length)])
    simpa [Ledger.take, Delivery.entry, List.zipIdx_append] using next
  busy := by
    intro delivery member
    rcases List.mem_append.mp member with old | new
    · exact balanced.busy_setWorker waiting activities delivery old
    · rw [List.mem_singleton.mp new]
      exact ⟨activities, getElem?_setWorker_self waiting (.busy activities)⟩
  late := by
    have none : (l.take worker job).late = [] := balanced.late_eq_nil waiting rfl
    have here : (d.setWorker worker (.busy activities)).deserted = false :=
      deserted_eq_false (getElem?_setWorker_self waiting (.busy activities)) rfl
    have staffed : ({ d with queue := { d.queue with jobs := rest } }.setWorker worker
        (.busy activities)).deserted = false := here
    rw [none, staffed]
    rfl

theorem Balanced.finish (balanced : Balanced d l) (worker : Nat) :
    Balanced d (l.finish worker) where
  admitted := balanced.admitted
  accounted := by
    refine (List.Perm.map _ ?_).trans balanced.accounted
    have parts := List.filter_append_perm (fun delivery => delivery.worker == worker) l.carried
    simp only [Ledger.finish, ← List.append_assoc]
    refine List.perm_append_comm.trans ?_
    rw [← List.append_assoc]
    exact parts.append_right l.delivered
  busy := by
    intro delivery member
    exact balanced.busy delivery (List.mem_filter.mp member).1
  late := balanced.late

theorem not_carried_finish (l : Ledger) (worker : Nat) :
    ∀ delivery ∈ (l.finish worker).carried, worker ≠ delivery.worker := by
  rintro delivery member rfl
  have kept := (List.mem_filter.mp member).2
  simp at kept

/-- The books balance after a move. -/
theorem Balanced.record (balanced : Balanced d l) {move : Move} {after : Dispatcher}
    (step : Step d move after) : Balanced after (l.record d move) := by
  cases step with
  | close => exact ⟨balanced.admitted, balanced.accounted, balanced.busy, balanced.late⟩
  | offer job => exact balanced.enter job
  | take worker routes stamps job rest waiting first =>
      simp only [Ledger.record, first]
      exact balanced.take waiting first _
  | publish worker delivery outcome deliveries job next busy offering =>
      simp only [Ledger.record, published?_eq_some busy offering]
      have offered := balanced.enter job
      exact offered.setWorker busy rfl (Or.inl rfl) (offered.busy_setWorker busy _)
  | proceed worker delivery outcome before after busy quiet =>
      simp only [Ledger.record, quiet]
      exact balanced.setWorker busy rfl (Or.inl rfl) (balanced.busy_setWorker busy after)
  | finish worker idle =>
      have booked := balanced.finish worker
      exact booked.setWorker idle rfl (Or.inl rfl)
        (booked.busy_setWorker_of_ne (not_carried_finish l worker) .waiting)
  | leave worker waiting closed empty =>
      have free := balanced.not_carried waiting (by simp)
      exact balanced.setWorker waiting rfl (Or.inr empty) (balanced.busy_setWorker_of_ne free .gone)

end Balanced

theorem Recorded.step?_eq_some {r after : Recorded} {move : Move}
    (moved : r.step? move = some after) :
    Step r.dispatcher move after.dispatcher ∧ after.ledger = r.ledger.record r.dispatcher move := by
  obtain ⟨dispatcher, done, rfl⟩ := Option.map_eq_some_iff.mp moved
  exact ⟨step_of_step? done, rfl⟩

/-- The books balance after any run. -/
theorem Balanced.run {r last : Recorded} (balanced : Balanced r.dispatcher r.ledger)
    {moves : List Move} (run : r.run? moves = some last) :
    Balanced last.dispatcher last.ledger := by
  have keeps : ∀ before : Recorded, ∀ move ∈ moves, ∀ after : Recorded,
      Balanced before.dispatcher before.ledger → before.step? move = some after →
        Balanced after.dispatcher after.ledger := by
    intro before move _ after balanced moved
    obtain ⟨step, booked⟩ := Recorded.step?_eq_some moved
    rw [booked]
    exact balanced.record step
  exact foldlM_keeps keeps balanced run

section Settled
variable {d : Dispatcher} {l : Ledger}

theorem Balanced.carried_eq_nil (balanced : Balanced d l) (gone : d.deserted = true) :
    l.carried = [] := by
  apply List.eq_nil_iff_forall_not_mem.mpr
  intro delivery member
  obtain ⟨activities, busy⟩ := balanced.busy delivery member
  exact absurd (isGone_of_deserted gone busy) (by simp [Worker.isGone])

theorem Balanced.queue_eq_late (balanced : Balanced d l) (gone : d.deserted = true) :
    d.queue.jobs = l.late := by
  rw [balanced.late, gone]
  rfl

theorem Balanced.delivered_perm (balanced : Balanced d l) (gone : d.deserted = true) :
    (l.delivered.map Delivery.entry).Perm l.served.zipIdx := by
  have accounted := balanced.accounted
  rwa [balanced.carried_eq_nil gone] at accounted

theorem filter_zipIdx {α : Type} {entries : List α} {number : Nat} {entry : α}
    (there : entries[number]? = some entry) (start : Nat) :
    (entries.zipIdx start).filter (fun found => found.2 == start + number) =
      [(entry, start + number)] := by
  induction entries generalizing number start with
  | nil => cases there
  | cons first rest ih =>
      cases number with
      | zero =>
          have later : (rest.zipIdx (start + 1)).filter (fun found => found.2 == start) = [] := by
            apply List.filter_eq_nil_iff.mpr
            intro found member
            have after := List.le_snd_of_mem_zipIdx member
            simp only [beq_iff_eq]
            omega
          cases there
          simp [List.zipIdx_cons, later]
      | succ number =>
          have inner : rest[number]? = some entry := by simpa using there
          have tail := ih inner (start + 1)
          have shift : start + (number + 1) = start + 1 + number := by omega
          have apart : start ≠ start + 1 + number := by omega
          rw [shift, List.zipIdx_cons, List.filter_cons_of_neg (by simpa using apart), tail]

/-- When nobody is left, each job that was taken has been delivered by one worker, once. -/
theorem Balanced.delivered_once (balanced : Balanced d l) (gone : d.deserted = true) {number : Nat}
    {job : Job} (taken : l.served[number]? = some job) :
    ∃ worker, l.delivered.filter (fun delivery => delivery.number == number) =
      [⟨worker, job, number⟩] := by
  have same := (balanced.delivered_perm gone).filter (fun found => found.2 == number)
  have one := filter_zipIdx taken 0
  simp only [Nat.zero_add] at one
  rw [one, List.filter_map, List.perm_singleton] at same
  obtain ⟨delivery, alone, entry⟩ := List.map_eq_singleton_iff.mp same
  obtain ⟨worker, found, position⟩ := delivery
  cases entry
  exact ⟨worker, alone⟩

end Settled
end EventRelay.Dispatcher
