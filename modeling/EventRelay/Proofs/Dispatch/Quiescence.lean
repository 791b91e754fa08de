import EventRelay.Proofs.Dispatch.Costs

set_option autoImplicit false

/-!
Dispatch comes to rest. Deliveries put jobs into the queue that they are taken from, and those may
have subscribers of their own; but what is published on the way of a delivery are events of the
gateway, and their deliveries publish nothing. So a queue that nothing is added to from outside is
emptied after finitely many deliveries, in whatever order its jobs are taken.
-/
namespace EventRelay

/-- What it costs to deliver a job, what its deliveries publish included. -/
def Job.cost (prices : Prices) (routes : RoutingTable) (job : Job) : Nat :=
  prices.offer * (1 + 2 * job.reach routes)

def Queue.cost (prices : Prices) (routes : RoutingTable) (q : Queue) : Nat :=
  (q.jobs.map (Job.cost prices routes)).sum

/-- Deliveries in hand cost what is left of them, and one more step to be done with them. -/
def Worker.cost (prices : Prices) : Worker → Nat
  | .busy deliveries => prices.step + (deliveries.map (Activity.cost prices)).sum
  | _ => 0

section Costs
variable (prices : Prices) (routes : RoutingTable)

theorem Job.cost_of_isSystem {job : Job} (system : job.event.type.isSystem = true) :
    job.cost prices routes = prices.offer := by
  rw [cost, reach, if_pos system, Nat.mul_zero, Nat.add_zero, Nat.mul_one]

theorem Queue.cost_offer_le (q : Queue) (job : Job) :
    (q.offer job).cost prices routes ≤ q.cost prices routes + job.cost prices routes := by
  unfold offer
  split
  · simp [cost]
  · exact Nat.le_add_right _ _

theorem Job.cost_deliveries_le (policy : RetryPolicy) (stamps : Stamps) (job : Job)
    (subscribers : List FunctionId) :
    ((job.deliveries policy stamps subscribers).map (Activity.cost prices)).sum ≤
      subscribers.length * (policy.mostSteps * prices.step +
        if job.event.type.isSystem then 0 else 2 * prices.offer) := by
  have count : (job.deliveries policy stamps subscribers).length = subscribers.length := by
    simp [deliveries]
  rw [← count]
  refine sum_map_le _ fun delivery member => ?_
  obtain ⟨id, later, rfl⟩ := mem_deliveries _ _ _ member
  exact cost_deliverTo_le prices policy job id later

/-- The cost of a job pays for its deliveries, for taking it up and for a fee, if there are no more
than `crowd` subscribers. -/
theorem Job.cost_deliveries_add_le {policy : RetryPolicy} {crowd fee : Nat} (stamps : Stamps)
    (job : Job)
    (few : (routes.subscribers job.space job.path job.event.type).length ≤ crowd)
    (covers : fee + prices.step + crowd * (policy.mostSteps * prices.step) ≤ prices.offer) :
    fee + prices.step + ((job.deliveries policy stamps
        (routes.subscribers job.space job.path job.event.type)).map (Activity.cost prices)).sum ≤
      job.cost prices routes := by
  have paid := cost_deliveries_le prices policy stamps job
    (routes.subscribers job.space job.path job.event.type)
  have steps := Nat.mul_le_mul_right (policy.mostSteps * prices.step) few
  by_cases system : job.event.type.isSystem = true
  · rw [if_pos system, Nat.add_zero] at paid
    rw [cost_of_isSystem prices routes system]
    omega
  · rw [if_neg system, Nat.mul_add] at paid
    have price : job.cost prices routes = prices.offer +
        (routes.subscribers job.space job.path job.event.type).length * (2 * prices.offer) := by
      rw [cost, reach, if_neg system, Nat.mul_add, Nat.mul_one]
      congr 1
      rw [Nat.mul_comm prices.offer, Nat.mul_comm 2, Nat.mul_assoc]
    rw [price]
    omega

end Costs

/-- Whatever goes on in a delivery, it offers events of the gateway only, and its cost is the most
that it can come to. -/
def Activity.Cascade (prices : Prices) (activity : Activity Unit) : Prop :=
  activity.Bounded prices ∧ activity.Offers fun job => job.event.type.isSystem = true

theorem Job.cascade_deliveries {prices : Prices} {policy : RetryPolicy} {stamps : Stamps}
    {job : Job} {subscribers : List FunctionId} {delivery : Activity Unit}
    (member : delivery ∈ job.deliveries policy stamps subscribers) : delivery.Cascade prices := by
  obtain ⟨id, later, rfl⟩ := mem_deliveries _ _ _ member
  refine ⟨bounded_deliverTo prices policy job id later, ?_⟩
  exact offers_deliverTo policy later job id fun _ _ own => own.isSystem

namespace Dispatcher

/-- Moves of a dispatcher by itself, with one table of routes. -/
inductive Move.Inside (routes : RoutingTable) : Move → Prop
  | close : Inside routes .close
  | take (worker : Nat) (stamps : Stamps) : Inside routes (.take worker routes stamps)
  | act (worker delivery : Nat) (outcome : Except FunctionError Bytes) :
      Inside routes (.act worker delivery outcome)
  | finish (worker : Nat) : Inside routes (.finish worker)
  | leave (worker : Nat) : Inside routes (.leave worker)

def Move.isTake : Move → Bool
  | .take .. => true
  | _ => false

/-- Whether a move brings a job on its way to its subscribers. -/
def Move.isWork : Move → Bool
  | .take .. | .act .. | .finish _ => true
  | _ => false

/-- A run in which nothing is offered from outside. Which of the jobs that wait is taken next is
left open: before each move they may be put into any order. -/
inductive Undisturbed (routes : RoutingTable) : Dispatcher → List Move → Dispatcher → Prop
  | stop (d : Dispatcher) : Undisturbed routes d [] d
  | reorder {d last : Dispatcher} {jobs : List Job} {moves : List Move}
      (same : jobs.Perm d.queue.jobs)
      (goes : Undisturbed routes { d with queue := { d.queue with jobs } } moves last) :
      Undisturbed routes d moves last
  | move {d after last : Dispatcher} {move : Move} {moves : List Move}
      (inside : move.Inside routes) (moved : d.step? move = some after)
      (goes : Undisturbed routes after moves last) : Undisturbed routes d (move :: moves) last

def cost (prices : Prices) (routes : RoutingTable) (d : Dispatcher) : Nat :=
  d.queue.cost prices routes + (d.workers.map (Worker.cost prices)).sum

section Step
variable (prices : Prices) (routes : RoutingTable) {d after : Dispatcher}

theorem cost_stepDelivery {activity : Activity Unit} (cascade : activity.Cascade prices)
    (outcome : Except FunctionError Bytes) (q : Queue) :
    (stepDelivery outcome q activity).1.cost prices routes +
        (stepDelivery outcome q activity).2.elim 0 (Activity.cost prices) + prices.step ≤
      q.cost prices routes + activity.cost prices := by
  obtain ⟨bounded, system⟩ := cascade
  cases bounded with
  | done => exact Nat.le_refl _
  | @offer job next goes =>
      cases system with
      | offer holds _ =>
          have placed := q.cost_offer_le prices routes job
          rw [Job.cost_of_isSystem prices routes holds] at placed
          simp only [stepDelivery, Option.elim, Activity.cost]
          omega
  | invoke goes most =>
      have least := most outcome
      simp only [stepDelivery, Option.elim, Activity.cost]
      omega
  | pause goes =>
      simp only [stepDelivery, Option.elim, Activity.cost]
      omega

theorem cascade_stepDelivery {prices : Prices} {activity now : Activity Unit}
    (cascade : activity.Cascade prices) {outcome : Except FunctionError Bytes} {q : Queue}
    (goes : (stepDelivery outcome q activity).2 = some now) : now.Cascade prices := by
  refine ⟨?_, offers_stepDelivery cascade.2 goes⟩
  cases cascade.1 with
  | done => cases goes
  | offer rest =>
      cases goes
      exact rest
  | invoke rest =>
      cases goes
      exact rest outcome
  | pause rest =>
      cases goes
      exact rest

theorem sum_replaceDelivery {deliveries : List (Activity Unit)} {delivery : Nat}
    {activity : Activity Unit} (found : deliveries[delivery]? = some activity)
    (now : Option (Activity Unit)) :
    ((replaceDelivery deliveries delivery now).map (Activity.cost prices)).sum +
        activity.cost prices =
      (deliveries.map (Activity.cost prices)).sum + now.elim 0 (Activity.cost prices) := by
  cases now with
  | none => exact sum_map_eraseIdx found
  | some next => exact sum_map_set found next

/-- What a move is charged: a job that is taken, or a step of work. -/
def Move.charge (take step : Nat) : Move → Nat
  | .take .. => take
  | .act .. | .finish _ => step
  | _ => 0

theorem cost_take {prices : Prices} {routes : RoutingTable} {worker crowd fee : Nat}
    {stamps : Stamps}
    (few : ∀ space path type, (routes.subscribers space path type).length ≤ crowd)
    (covers : fee + prices.step + crowd * (d.policy.mostSteps * prices.step) ≤ prices.offer)
    (moved : d.step? (.take worker routes stamps) = some after) :
    after.cost prices routes + fee ≤ d.cost prices routes := by
  cases step_of_take moved with
  | take _ _ _ job rest waiting first =>
      have workers := sum_map_set (f := Worker.cost prices) waiting (.busy (job.deliveries d.policy
        stamps (routes.subscribers job.space job.path job.event.type)))
      have paid := job.cost_deliveries_add_le prices routes stamps (few _ _ _) covers
      simp only [Worker.cost] at workers
      simp only [cost, setWorker, Queue.cost, first, List.map_cons, List.sum_cons]
      omega

theorem cost_act {prices : Prices} {routes : RoutingTable} {worker delivery : Nat}
    {outcome : Except FunctionError Bytes}
    (cascade : AllCarried (Activity.Cascade prices) d)
    (moved : d.step? (.act worker delivery outcome) = some after) :
    after.cost prices routes + prices.step ≤ d.cost prices routes := by
  obtain ⟨deliveries, activity, busy, found, rfl⟩ := act_eq_some moved
  have carried := cascade deliveries (List.mem_of_getElem? busy) activity
    (List.mem_of_getElem? found)
  have paid := cost_stepDelivery prices routes carried outcome d.queue
  have inHand := sum_replaceDelivery prices found
    (stepDelivery outcome d.queue activity).2
  have workers := sum_map_set (f := Worker.cost prices) busy (.busy (replaceDelivery deliveries
    delivery (stepDelivery outcome d.queue activity).2))
  simp only [Worker.cost] at workers
  simp only [cost, setWorker]
  omega

/-- Every move of its own makes a dispatcher cheaper by what the move is charged. -/
theorem cost_step? {prices : Prices} {routes : RoutingTable} {crowd fee : Nat} {move : Move}
    (inside : move.Inside routes)
    (few : ∀ space path type, (routes.subscribers space path type).length ≤ crowd)
    (covers : fee + prices.step + crowd * (d.policy.mostSteps * prices.step) ≤ prices.offer)
    (cascade : AllCarried (Activity.Cascade prices) d) (moved : d.step? move = some after) :
    after.cost prices routes + move.charge fee prices.step ≤ d.cost prices routes := by
  cases inside with
  | close =>
      cases moved
      exact Nat.le_refl _
  | take worker stamps => exact cost_take few covers moved
  | act worker delivery outcome => exact cost_act cascade moved
  | finish worker =>
      cases step_of_step? moved with
      | finish _ idle =>
          have workers := sum_map_set (f := Worker.cost prices) idle .waiting
          simp only [Worker.cost, List.map_nil, List.sum_nil] at workers
          simp only [cost, setWorker, Move.charge]
          omega
  | leave worker =>
      cases step_of_step? moved with
      | leave _ waiting closed empty =>
          have workers := sum_map_set (f := Worker.cost prices) waiting .gone
          simp only [Worker.cost] at workers
          simp only [cost, setWorker, Move.charge]
          omega

theorem policy_step? {move : Move} (moved : d.step? move = some after) :
    after.policy = d.policy := by
  cases step_of_step? moved with
  | close => rfl
  | offer => rfl
  | take => rfl
  | publish => rfl
  | proceed => rfl
  | finish => rfl
  | leave => rfl

theorem staffed_step? {move : Move} {routes : RoutingTable} (inside : move.Inside routes)
    (moved : d.step? move = some after) (staffed : d.deserted = false ∨ d.queue.jobs = []) :
    after.deserted = false ∨ after.queue.jobs = [] := by
  cases inside with
  | close =>
      cases moved
      exact staffed
  | take worker stamps =>
      cases step_of_take moved with
      | take _ _ _ job rest waiting first =>
          exact Or.inl (deserted_eq_false (getElem?_setWorker_self waiting _) rfl)
  | act worker delivery outcome =>
      obtain ⟨deliveries, activity, busy, found, rfl⟩ := act_eq_some moved
      exact Or.inl (deserted_eq_false (getElem?_setWorker_self busy _) rfl)
  | finish worker =>
      cases step_of_step? moved with
      | finish _ idle => exact Or.inl (deserted_eq_false (getElem?_setWorker_self idle _) rfl)
  | leave worker =>
      cases step_of_step? moved with
      | leave _ waiting closed empty => exact Or.inr empty

end Step

section Run
variable {prices : Prices} {routes : RoutingTable} {d last : Dispatcher} {moves : List Move}

theorem undisturbed_of_run (inside : ∀ move ∈ moves, move.Inside routes)
    (run : moves.foldlM step? d = some last) :
    Undisturbed routes d moves last := by
  induction moves generalizing d with
  | nil =>
      cases run
      exact .stop _
  | cons move rest ih =>
      obtain ⟨after, moved, goesOn⟩ := Option.bind_eq_some_iff.mp run
      refine .move (inside move List.mem_cons_self) moved (ih ?_ goesOn)
      intro other member
      exact inside other (List.mem_cons_of_mem _ member)

theorem AllCarried.cascade_step? {after : Dispatcher} {move : Move}
    (cascade : AllCarried (Activity.Cascade prices) d) (moved : d.step? move = some after) :
    AllCarried (Activity.Cascade prices) after :=
  cascade.step? (fun _ _ _ _ _ member => Job.cascade_deliveries member)
    (fun _ _ _ carried goes => cascade_stepDelivery carried goes) moved

/-- The potential pays for a run: what its moves are charged, and what is left at the end, is no
more than what there was. -/
theorem Undisturbed.cost_le (run : Undisturbed routes d moves last) (prices : Prices)
    {crowd fee : Nat}
    (few : ∀ space path type, (routes.subscribers space path type).length ≤ crowd)
    (covers : fee + prices.step + crowd * (d.policy.mostSteps * prices.step) ≤ prices.offer)
    (cascade : AllCarried (Activity.Cascade prices) d) :
    last.cost prices routes + (moves.map (Move.charge fee prices.step)).sum ≤
      d.cost prices routes := by
  induction run with
  | stop d => exact Nat.le_refl _
  | @reorder d last jobs moves same goes ih =>
      have alike : (jobs.map (Job.cost prices routes)).sum = d.queue.cost prices routes :=
        (same.map _).sum_nat
      have rest := ih covers cascade
      simp only [cost, Queue.cost] at rest alike ⊢
      omega
  | @move d after last move moves inside moved goes ih =>
      have paid := cost_step? inside few covers cascade moved
      rw [← policy_step? moved] at covers
      have rest := ih covers (cascade.cascade_step? moved)
      rw [List.map_cons, List.sum_cons]
      omega

theorem Undisturbed.staffed (run : Undisturbed routes d moves last)
    (staffed : d.deserted = false ∨ d.queue.jobs = []) :
    last.deserted = false ∨ last.queue.jobs = [] := by
  induction run with
  | stop d => exact staffed
  | reorder same goes ih =>
      apply ih
      rcases staffed with left | empty
      · exact Or.inl left
      · rw [empty] at same
        exact Or.inr same.eq_nil
  | move inside moved goes ih => exact ih (staffed_step? inside moved staffed)

/-- Where no work can be done, no worker has anything in hand. -/
theorem idle_of_stuck (stuck : ∀ move : Move, move.Inside routes → move.isWork = true →
    d.step? move = none) : d.Idle := by
  intro w member
  obtain ⟨worker, there⟩ := List.getElem?_of_mem member
  cases w with
  | waiting => exact Or.inl rfl
  | gone => exact Or.inr rfl
  | busy deliveries =>
      cases deliveries with
      | nil =>
          have refused := stuck _ (.finish worker) rfl
          simp [step?, there] at refused
      | cons delivery rest =>
          have refused := stuck _ (.act worker 0 (.ok [])) rfl
          simp [step?, there] at refused

theorem queue_eq_nil_of_stuck (stuck : ∀ move : Move, move.Inside routes → move.isWork = true →
    d.step? move = none) (staffed : d.deserted = false) : d.queue.jobs = [] := by
  obtain ⟨w, member, alive⟩ := List.all_eq_false.mp staffed
  obtain ⟨worker, there⟩ := List.getElem?_of_mem member
  rcases idle_of_stuck stuck w member with rfl | rfl
  · cases first : d.queue.jobs with
    | nil => rfl
    | cons job rest =>
        have refused := stuck _ (.take worker fun _ => default) rfl
        simp [step?, there, Queue.take?, first] at refused
  · exact absurd rfl alive

end Run

section Start
variable {d : Dispatcher}

theorem Idle.cost_eq (idle : d.Idle) (prices : Prices) (routes : RoutingTable) :
    d.cost prices routes = d.queue.cost prices routes := by
  have nothing := sum_map_le (f := Worker.cost prices) (l := d.workers) 0 fun w member => by
    rcases idle w member with rfl | rfl <;> exact Nat.le_refl _
  rw [cost]
  omega

end Start
end Dispatcher

/-- At one coin for each job, jobs cost their number and two for each subscriber that is told of. -/
theorem sum_cost_jobs (routes : RoutingTable) (jobs : List Job) :
    (jobs.map (Job.cost ⟨1, 0⟩ routes)).sum =
      jobs.length + ((jobs.filter fun job => !job.event.type.isSystem).map fun job =>
        2 * (routes.subscribers job.space job.path job.event.type).length).sum := by
  induction jobs with
  | nil => rfl
  | cons job rest ih =>
      rw [List.map_cons, List.sum_cons, ih, Job.cost, Job.reach, List.length_cons]
      cases system : job.event.type.isSystem with
      | true =>
          simp only [List.filter_cons, system]
          simp
          omega
      | false =>
          simp only [List.filter_cons, system]
          simp
          omega

theorem RoutingTable.exists_crowd (routes : RoutingTable) :
    ∃ crowd, ∀ space path type, (routes.subscribers space path type).length ≤ crowd := by
  refine ⟨(routes.async.map fun entry => entry.2.length).sum, fun space path type => ?_⟩
  unfold subscribers
  cases found : Keyed.get? routes.async ⟨space, path, type⟩ with
  | none => exact Nat.zero_le _
  | some ids => exact le_sum_map (f := fun entry => entry.2.length) (Keyed.mem_of_get? found)

namespace Dispatcher

/-- Dispatch comes to rest. Let a dispatcher that has nothing in hand run undisturbed: nothing comes
from outside, and the jobs that wait are taken in any order. It delivers at most as many jobs as
waited at first and two for each subscriber of those that are not the gateway's own; where it can do
no more while somebody is left, nothing waits and nothing is in hand; and no run does more work than
a bound that the start sets. Deliveries of the gateway's own events publish nothing, whatever comes
out of their attempts. -/
theorem dispatch_quiesces (routes : RoutingTable) {d : Dispatcher} (idle : d.Idle)
    (staffed : d.deserted = false) :
    (∀ moves last, Undisturbed routes d moves last →
      moves.countP Move.isTake ≤
        d.queue.jobs.length + ((d.queue.jobs.filter fun job => !job.event.type.isSystem).map
          fun job => 2 * (routes.subscribers job.space job.path job.event.type).length).sum ∧
      ((∀ move : Move, move.Inside routes → move.isWork = true → last.step? move = none) →
        last.queue.jobs = [] ∧ last.Idle)) ∧
    (∃ bound, ∀ moves last, Undisturbed routes d moves last → moves.countP Move.isWork ≤ bound) ∧
    ∀ (job : Job) (policy : RetryPolicy) (stamps : Stamps) (subscribers : List FunctionId),
      job.event.type.isSystem = true →
        ∀ delivery ∈ job.deliveries policy stamps subscribers, ∀ outcomes other,
          Activity.Trace.offered other ∉ (delivery.run outcomes).1 := by
  obtain ⟨crowd, few⟩ := routes.exists_crowd
  refine ⟨?_, ?_, ?_⟩
  · intro moves last run
    refine ⟨?_, fun stuck => ?_⟩
    · -- a coin for each job, and steps for nothing
      have covers : 1 + 0 + crowd * (d.policy.mostSteps * 0) ≤ 1 := by simp
      have paid := run.cost_le ⟨1, 0⟩ few covers (idle.allCarried _)
      have takes := sum_map_eq_countP (l := moves) (f := Move.charge 1 0) (p := Move.isTake)
        fun move => by cases move <;> rfl
      rw [idle.cost_eq, Queue.cost, sum_cost_jobs, takes] at paid
      omega
    · refine ⟨?_, idle_of_stuck stuck⟩
      rcases run.staffed (Or.inl staffed) with left | empty
      · exact queue_eq_nil_of_stuck stuck left
      · exact empty
  · -- a coin for each step, and as many for a job as its deliveries can take steps
    have covers : 1 + 1 + crowd * (d.policy.mostSteps * 1) ≤ 2 + crowd * d.policy.mostSteps := by
      simp
    refine ⟨d.cost ⟨2 + crowd * d.policy.mostSteps, 1⟩ routes, fun moves last run => ?_⟩
    have paid := run.cost_le ⟨2 + crowd * d.policy.mostSteps, 1⟩ few covers
      (idle.allCarried _)
    have work := sum_map_eq_countP (l := moves) (f := Move.charge 1 1) (p := Move.isWork)
      fun move => by cases move <;> rfl
    rw [work] at paid
    omega
  · intro job policy stamps subscribers system delivery member outcomes other
    obtain ⟨id, later, rfl⟩ := Job.mem_deliveries _ _ _ member
    exact Job.run_deliverTo_of_isSystem system policy later id outcomes other

/-- A function that is told of new users, and of all calls of functions, its own included. -/
def cascadingRoutes : RoutingTable :=
  .build [.ofAsync "default" "user.created" "crm",
    .ofAsync "default" "gateway.function.invoked" "crm"]

/-- One worker; an event of the gateway waits, and behind it one that is not. -/
def exampleBacklog : Dispatcher where
  queue := ⟨[.ofSystem "default" (.received default "/" default []),
    ⟨"default", "/", .make default ⟨"user.created"⟩ Event.jsonType .null⟩], 8⟩
  draining := false
  workers := [.waiting]
  policy := .of 2 0 0

/-- The later job is delivered first, at the second attempt, and what that publishes after it; the
last delivery is given up. -/
def cascadingMoves : List Move :=
  [.take 0 cascadingRoutes fun _ => default, .act 0 0 (.ok []),
    .act 0 0 (.error Activity.transient), .act 0 0 (.ok []), .act 0 0 (.ok []), .act 0 0 (.ok []),
    .act 0 0 (.ok []), .finish 0,
    .take 0 cascadingRoutes fun _ => default, .finish 0,
    .take 0 cascadingRoutes fun _ => default, .finish 0,
    .take 0 cascadingRoutes fun _ => default, .act 0 0 (.error Activity.transient),
    .act 0 0 (.ok []), .act 0 0 (.error Activity.transient), .act 0 0 (.ok []), .finish 0]

theorem cascadingMoves_quiesce : ∃ last,
    Undisturbed cascadingRoutes exampleBacklog cascadingMoves last ∧ last.queue.jobs = [] ∧
      cascadingMoves.countP Move.isTake = 4 ∧ cascadingMoves.countP Move.isTake ≤ 2 + 2 := by
  have inside : ∀ move ∈ cascadingMoves, move.Inside cascadingRoutes := by
    simp only [cascadingMoves, List.forall_mem_cons]
    exact ⟨.take .., .act .., .act .., .act .., .act .., .act .., .act .., .finish _, .take ..,
      .finish _, .take .., .finish _, .take .., .act .., .act .., .act .., .act .., .finish _,
      List.forall_mem_nil _⟩
  have outcome : (cascadingMoves.foldlM step?
      { exampleBacklog with queue :=
          { exampleBacklog.queue with jobs := exampleBacklog.queue.jobs.reverse } }).map
        (fun last => last.queue.jobs) = some [] := by
    decide +kernel
  obtain ⟨last, run, empty⟩ := Option.map_eq_some_iff.mp outcome
  have undisturbed : Undisturbed cascadingRoutes exampleBacklog cascadingMoves last :=
    .reorder (List.reverse_perm _) (undisturbed_of_run inside run)
  have idle : exampleBacklog.Idle := by
    intro w member
    exact Or.inl (List.mem_singleton.mp member)
  obtain ⟨runs, -⟩ := dispatch_quiesces cascadingRoutes idle rfl
  obtain ⟨few, -⟩ := runs cascadingMoves last undisturbed
  have bound : ((exampleBacklog.queue.jobs.filter fun job => !job.event.type.isSystem).map
      fun job => 2 * (cascadingRoutes.subscribers job.space job.path job.event.type).length).sum =
        2 := by
    decide +kernel
  rw [bound] at few
  exact ⟨last, undisturbed, empty, rfl, few⟩

end Dispatcher
end EventRelay
