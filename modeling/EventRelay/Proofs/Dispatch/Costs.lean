import EventRelay.Proofs.Dispatch.Own
import EventRelay.Proofs.Keyed
import Mathlib.Algebra.GroupWithZero.Nat

set_option autoImplicit false

/-!
What is left to do, in numbers. Every offer has a price and every step has one; a delivery costs
most when all of its calls fail in a way that is worth another attempt. The price of an offer pays
for the delivery of the job that is offered, so a dispatcher that nobody disturbs gets cheaper with
each of its moves.
-/
namespace EventRelay

section Sums
variable {α : Type} {f : α → Nat} {l : List α} {i : Nat} {a : α}

theorem sum_map_set (there : l[i]? = some a) (b : α) :
    ((l.set i b).map f).sum + f a = (l.map f).sum + f b := by
  induction l generalizing i with
  | nil => cases there
  | cons x xs ih =>
      cases i with
      | zero =>
          cases there
          simp only [List.set_cons_zero, List.map_cons, List.sum_cons]
          omega
      | succ i =>
          have rest := ih there
          simp only [List.set_cons_succ, List.map_cons, List.sum_cons]
          omega

theorem sum_map_eraseIdx (there : l[i]? = some a) :
    ((l.eraseIdx i).map f).sum + f a = (l.map f).sum := by
  induction l generalizing i with
  | nil => cases there
  | cons x xs ih =>
      cases i with
      | zero =>
          cases there
          simp only [List.eraseIdx_cons_zero, List.map_cons, List.sum_cons]
          omega
      | succ i =>
          have rest := ih there
          simp only [List.eraseIdx_cons_succ, List.map_cons, List.sum_cons]
          omega

theorem le_sum_map (member : a ∈ l) : f a ≤ (l.map f).sum := by
  obtain ⟨i, there⟩ := List.getElem?_of_mem member
  have split := sum_map_eraseIdx (f := f) there
  omega

theorem sum_map_le (most : Nat) (each : ∀ x ∈ l, f x ≤ most) :
    (l.map f).sum ≤ l.length * most := by
  induction l with
  | nil => simp
  | cons x xs ih =>
      have first := each x List.mem_cons_self
      have rest := ih fun y member => each y (List.mem_cons_of_mem _ member)
      simp only [List.map_cons, List.sum_cons, List.length_cons, Nat.succ_mul]
      omega

theorem sum_map_eq_countP {p : α → Bool} (each : ∀ x, f x = if p x then 1 else 0) :
    (l.map f).sum = l.countP p := by
  induction l with
  | nil => rfl
  | cons x xs ih =>
      rw [List.map_cons, List.sum_cons, ih, each, List.countP_cons, Nat.add_comm]

end Sums

/-- What each offer costs, and what each step costs. -/
structure Prices where
  offer : Nat
  step : Nat

namespace Activity

variable {α : Type} (prices : Prices)

def transient : FunctionError := .callFailed ""

/-- What is left of an activity costs this much if all of its calls fail. -/
def cost : Activity α → Nat
  | done _ => prices.step
  | offer _ next => prices.offer + prices.step + next.cost
  | invoke _ _ _ next => prices.step + (next (.error transient)).cost
  | pause _ next => prices.step + next.cost

/-- However calls come out, it costs no more than if they all fail. -/
inductive Bounded : Activity α → Prop
  | done (result : α) : Bounded (.done result)
  | offer {job : Job} {next : Activity α} (goes : next.Bounded) : Bounded (.offer job next)
  | invoke {space : String} {id : FunctionId} {e : Event}
      {next : Except FunctionError Bytes → Activity α} (goes : ∀ outcome, (next outcome).Bounded)
      (most : ∀ outcome, (next outcome).cost prices ≤ (next (.error transient)).cost prices) :
      Bounded (.invoke space id e next)
  | pause {p : Pause} {next : Activity α} (goes : next.Bounded) : Bounded (.pause p next)

end Activity

/-- What is tried again after some failure is tried again after one that is worth it. -/
theorem RetryPolicy.next?_transient {policy : RetryPolicy} {attempt : Nat} {error : FunctionError}
    {pause : Pause} (again : policy.next? attempt error = some pause) :
    policy.next? attempt Activity.transient = some pause := by
  unfold next? at again ⊢
  split at again
  · cases again
  · rename_i goesOn
    have left : ¬ policy.maxAttempts ≤ attempt := fun spent => goesOn (Or.inr spent)
    rw [if_neg]
    · exact again
    · rintro (hopeless | spent)
      · exact hopeless rfl
      · exact left spent

def RetryPolicy.mostSteps (policy : RetryPolicy) : Nat := 2 * policy.maxAttempts + 2

namespace Job

open Activity (transient)

variable (prices : Prices) (policy : RetryPolicy) (job : Job) (id : FunctionId)

section Attempts
variable {next : Except FunctionError Bytes → Activity Unit} (rest : Nat)

/-- What follows a call when more attempts are left. -/
def afterCall (next : Except FunctionError Bytes → Activity Unit) (left attempt : Nat) :
    Except FunctionError Bytes → Activity Unit
  | .ok result => next (.ok result)
  | .error error =>
    match policy.next? attempt error with
    | none => next (.error error)
    | some pause => .pause pause (attempts policy job id next left (attempt + 1))

theorem attempts_succ (left attempt : Nat) : attempts policy job id next (left + 1) attempt =
    .invoke job.space id job.event (afterCall policy job id next left attempt) := rfl

variable {policy}

theorem afterCall_of_none {attempt : Nat} {error : FunctionError}
    (spent : policy.next? attempt error = none) (left : Nat) :
    afterCall policy job id next left attempt (.error error) = next (.error error) := by
  rw [afterCall, spent]

theorem afterCall_of_some {attempt : Nat} {error : FunctionError} {pause : Pause}
    (again : policy.next? attempt error = some pause) (left : Nat) :
    afterCall policy job id next left attempt (.error error) =
      .pause pause (attempts policy job id next left (attempt + 1)) := by
  rw [afterCall, again]

variable (policy)

theorem le_cost_attempts (same : ∀ outcome, (next outcome).cost prices = rest)
    (left attempt : Nat) : rest ≤ (attempts policy job id next left attempt).cost prices := by
  induction left generalizing attempt with
  | zero =>
      rw [attempts, Activity.cost, same]
      exact Nat.le_add_left _ _
  | succ left ih =>
      rw [attempts_succ, Activity.cost]
      cases again : policy.next? attempt transient with
      | none =>
          rw [afterCall_of_none job id again, same]
          exact Nat.le_add_left _ _
      | some pause =>
          have later := ih (attempt + 1)
          rw [afterCall_of_some job id again, Activity.cost]
          omega

theorem cost_attempts_le (same : ∀ outcome, (next outcome).cost prices = rest)
    (left attempt : Nat) :
    (attempts policy job id next left attempt).cost prices ≤
      rest + (2 * left + 1) * prices.step := by
  induction left generalizing attempt with
  | zero =>
      rw [attempts, Activity.cost, same]
      omega
  | succ left ih =>
      have more : (2 * (left + 1) + 1) * prices.step =
          (2 * left + 1) * prices.step + prices.step + prices.step := by
        rw [← Nat.succ_mul, ← Nat.succ_mul]
        rfl
      rw [attempts_succ, Activity.cost, more]
      cases again : policy.next? attempt transient with
      | none =>
          rw [afterCall_of_none job id again, same]
          omega
      | some pause =>
          have later := ih (attempt + 1)
          rw [afterCall_of_some job id again, Activity.cost]
          omega

/-- No outcome of a call is followed by more than a failure that is worth another attempt. -/
theorem cost_afterCall_le (same : ∀ outcome, (next outcome).cost prices = rest)
    (left attempt : Nat) (outcome : Except FunctionError Bytes) :
    (afterCall policy job id next left attempt outcome).cost prices ≤
      (afterCall policy job id next left attempt (.error transient)).cost prices := by
  -- to go on at once costs `rest`, which is the least that can be left after a failure
  have least :
      rest ≤ (afterCall policy job id next left attempt (.error transient)).cost prices := by
    cases again : policy.next? attempt transient with
    | none => rw [afterCall_of_none job id again, same]
    | some pause =>
        have later := le_cost_attempts prices policy job id rest same left (attempt + 1)
        rw [afterCall_of_some job id again, Activity.cost]
        omega
  cases outcome with
  | ok result => rwa [afterCall, same]
  | error error =>
      cases again : policy.next? attempt error with
      | none => rwa [afterCall_of_none job id again, same]
      | some pause =>
          rw [afterCall_of_some job id again,
            afterCall_of_some job id (RetryPolicy.next?_transient again)]

theorem bounded_attempts (same : ∀ outcome, (next outcome).cost prices = rest)
    (goes : ∀ outcome, (next outcome).Bounded prices) (left attempt : Nat) :
    (attempts policy job id next left attempt).Bounded prices := by
  induction left generalizing attempt with
  | zero =>
      refine .invoke goes fun outcome => ?_
      rw [same, same]
  | succ left ih =>
      rw [attempts_succ]
      refine .invoke (fun outcome => ?_) (cost_afterCall_le prices policy job id rest same _ _)
      cases outcome with
      | ok result => exact goes (.ok result)
      | error error =>
          cases again : policy.next? attempt error with
          | none =>
              rw [afterCall_of_none job id again]
              exact goes (.error error)
          | some pause =>
              rw [afterCall_of_some job id again]
              exact .pause (ih (attempt + 1))

end Attempts

def reach (routes : RoutingTable) (job : Job) : Nat :=
  if job.event.type.isSystem then 0
  else (routes.subscribers job.space job.path job.event.type).length

theorem cost_allAttempts_le {next : Except FunctionError Bytes → Activity Unit} (rest : Nat)
    (same : ∀ outcome, (next outcome).cost prices = rest) :
    (allAttempts policy job id next).cost prices ≤
      rest + (2 * policy.maxAttempts - 1) * prices.step := by
  have most := cost_attempts_le prices policy job id rest same (policy.maxAttempts - 1) 1
  have count : 2 * (policy.maxAttempts - 1) + 1 = 2 * policy.maxAttempts - 1 := by
    have positive := policy.positive
    omega
  rwa [count] at most

/-- A delivery costs two offers, unless the event is the gateway's own, and its steps. -/
theorem cost_deliverTo_le (stamps : Stamps) :
    (deliverTo policy stamps job id).cost prices ≤
      policy.mostSteps * prices.step +
        if job.event.type.isSystem then 0 else 2 * prices.offer := by
  have split : policy.mostSteps * prices.step =
      (2 * policy.maxAttempts - 1) * prices.step + 3 * prices.step := by
    rw [← Nat.add_mul, RetryPolicy.mostSteps]
    congr 1
    have positive := policy.positive
    omega
  rw [split]
  by_cases system : job.event.type.isSystem = true
  · rw [deliverTo, if_pos system, if_pos system]
    refine Nat.le_trans (cost_allAttempts_le prices policy job id prices.step fun _ => rfl) ?_
    omega
  · rw [deliverTo, if_neg system, if_neg system, Activity.announced, Activity.cost]
    refine Nat.le_trans (Nat.add_le_add_left (cost_allAttempts_le prices policy job id
      (prices.offer + prices.step + prices.step) fun _ => rfl) _) ?_
    omega

theorem bounded_deliverTo (stamps : Stamps) : (deliverTo policy stamps job id).Bounded prices := by
  unfold deliverTo
  split
  · exact bounded_attempts prices policy job id prices.step (fun _ => rfl) (fun _ => .done ()) _ _
  · refine .offer (bounded_attempts prices policy job id (prices.offer + prices.step + prices.step)
      (fun _ => rfl) (fun _ => ?_) _ _)
    exact .offer (.done ())

end Job
end EventRelay
