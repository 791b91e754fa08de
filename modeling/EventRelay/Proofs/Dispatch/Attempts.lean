import EventRelay.Dispatch.Delivery
import Mathlib.Algebra.Group.Nat.Defs
import Mathlib.Data.Nat.Find
import Mathlib.Order.Bounds.Basic

set_option autoImplicit false

/-!
How often a delivery calls its function, and what it tells of that. The calls are numbered from one;
the delivery ends with the first one that settles it, by a result, by an error that another attempt
could not mend, or because it is the last that the policy allows. So the number of a call is never
greater than the number of attempts allowed, and a word that can hold this one can count them.
-/
namespace EventRelay

/-- Whether a delivery is over when its call of this number comes out so. -/
def RetryPolicy.settles (policy : RetryPolicy) (attempt : Nat) : Except FunctionError Bytes → Bool
  | .ok _ => true
  | .error error => !error.isRetryable || attempt == policy.maxAttempts

namespace RetryPolicy
variable {policy : RetryPolicy} {attempt : Nat} {error : FunctionError}

theorem next?_of_settles (settles : policy.settles attempt (.error error) = true) :
    policy.next? attempt error = none := by
  simp only [RetryPolicy.settles, Bool.or_eq_true, Bool.not_eq_true', beq_iff_eq] at settles
  unfold next?
  rw [if_pos]
  rcases settles with hopeless | last
  · exact Or.inl (by simp [hopeless])
  · exact Or.inr (Nat.le_of_eq last.symm)

theorem next?_of_not_settles (unsettled : policy.settles attempt (.error error) = false)
    (allowed : attempt ≤ policy.maxAttempts) :
    policy.next? attempt error = some (policy.pause attempt) := by
  simp only [RetryPolicy.settles, Bool.or_eq_false_iff, Bool.not_eq_false', beq_eq_false_iff_ne]
    at unsettled
  unfold next?
  rw [if_neg]
  rintro (hopeless | spent)
  · exact hopeless unsettled.1
  · exact unsettled.2 (Nat.le_antisymm allowed spent)

theorem settles_maxAttempts (policy : RetryPolicy) (outcome : Except FunctionError Bytes) :
    policy.settles policy.maxAttempts outcome = true := by
  cases outcome with
  | ok result => rfl
  | error error => simp [RetryPolicy.settles]

/-- Some call settles a delivery, and one does so first. -/
theorem exists_isLeast_settles (policy : RetryPolicy)
    (outcomes : Nat → Except FunctionError Bytes) :
    ∃ n, IsLeast {k | 1 ≤ k ∧ policy.settles k (outcomes k) = true} n := by
  have some : ∃ k, 1 ≤ k ∧ policy.settles k (outcomes k) = true :=
    ⟨policy.maxAttempts, policy.positive, policy.settles_maxAttempts _⟩
  exact ⟨Nat.find some, Nat.find_spec some, fun k member => Nat.find_min' some member⟩

section Least
variable {outcomes : Nat → Except FunctionError Bytes} {last : Nat}
  (ends : IsLeast {k | 1 ≤ k ∧ policy.settles k (outcomes k) = true} last)
include ends

theorem le_maxAttempts_of_isLeast : last ≤ policy.maxAttempts :=
  ends.2 ⟨policy.positive, policy.settles_maxAttempts _⟩

theorem settles_eq_false_of_lt {k : Nat} (least : 1 ≤ k) (below : k < last) :
    policy.settles k (outcomes k) = false := by
  apply Bool.eq_false_iff.mpr
  intro settled
  have early := ends.2 ⟨least, settled⟩
  omega

end Least
end RetryPolicy

namespace Job

open Activity (Trace)

variable (policy : RetryPolicy) (job : Job) (id : FunctionId)

def call (outcome : Except FunctionError Bytes) : Trace :=
  .invoked job.space id job.event outcome

section Attempts
variable (outcomes : Nat → Except FunctionError Bytes)

/-- Calls from a number on, a pause after each of them. -/
def failures (first count : Nat) : List Trace :=
  (List.range' first count).flatMap fun k =>
    [call job id (outcomes k), .paused (policy.pause k)]

/-- What is seen of a delivery that its call of this number settles. -/
def calls (last : Nat) : List Trace :=
  failures policy job id outcomes 1 (last - 1) ++ [call job id (outcomes last)]

variable {policy} (next : Except FunctionError Bytes → Activity Unit) (left : Nat) {attempt : Nat}

theorem run_attempts_of_settles {outcome : Except FunctionError Bytes}
    (settles : policy.settles attempt outcome = true) (rest : List (Except FunctionError Bytes)) :
    (attempts policy job id next left attempt).run (outcome :: rest) =
      (call job id outcome :: ((next outcome).run rest).1, ((next outcome).run rest).2) := by
  cases left with
  | zero => rfl
  | succ left =>
      cases outcome with
      | ok result => rfl
      | error error =>
          have spent := RetryPolicy.next?_of_settles settles
          simp only [attempts, Activity.run, spent]
          rfl

/-- After a call that does not settle a delivery there is a pause, and then comes the next call. -/
theorem run_attempts_of_not_settles {outcome : Except FunctionError Bytes}
    (unsettled : policy.settles attempt outcome = false)
    (count : attempt + (left + 1) = policy.maxAttempts)
    (rest : List (Except FunctionError Bytes)) :
    (attempts policy job id next (left + 1) attempt).run (outcome :: rest) =
      (call job id outcome :: .paused (policy.pause attempt) ::
          ((attempts policy job id next left (attempt + 1)).run rest).1,
        ((attempts policy job id next left (attempt + 1)).run rest).2) := by
  cases outcome with
  | ok result => cases unsettled
  | error error =>
      have again := RetryPolicy.next?_of_not_settles unsettled (by omega)
      simp only [attempts, Activity.run, again]
      rfl

theorem run_attempts_failures (count : Nat) (total : attempt + (left + count) = policy.maxAttempts)
    (goesOn : ∀ k, attempt ≤ k → k < attempt + count → policy.settles k (outcomes k) = false)
    (rest : List (Except FunctionError Bytes)) :
    (attempts policy job id next (left + count) attempt).run
        ((List.range' attempt count).map outcomes ++ rest) =
      (failures policy job id outcomes attempt count ++
          ((attempts policy job id next left (attempt + count)).run rest).1,
        ((attempts policy job id next left (attempt + count)).run rest).2) := by
  induction count generalizing attempt with
  | zero => rfl
  | succ count ih =>
      have here := goesOn attempt (Nat.le_refl attempt) (by omega)
      have later := @ih (attempt + 1) (by omega) fun k least below =>
        goesOn k (by omega) (by omega)
      have shifted : attempt + 1 + count = attempt + (count + 1) := by omega
      have step := run_attempts_of_not_settles job id next (left + count) here (by omega)
        ((List.range' (attempt + 1) count).map outcomes ++ rest)
      rw [later, shifted] at step
      rw [List.range'_succ, List.map_cons, List.cons_append]
      exact step

section Whole
variable {outcomes} {last : Nat}

theorem run_allAttempts
    (ends : IsLeast {k | 1 ≤ k ∧ policy.settles k (outcomes k) = true} last)
    (rest : List (Except FunctionError Bytes)) :
    (allAttempts policy job id next).run ((List.range' 1 last).map outcomes ++ rest) =
      (calls policy job id outcomes last ++ ((next (outcomes last)).run rest).1,
        ((next (outcomes last)).run rest).2) := by
  have most := RetryPolicy.le_maxAttempts_of_isLeast ends
  have before : ∀ k, 1 ≤ k → k < 1 + (last - 1) → policy.settles k (outcomes k) = false :=
    fun k least below => RetryPolicy.settles_eq_false_of_lt ends least (by omega)
  obtain ⟨⟨positive, settles⟩, -⟩ := ends
  have total : policy.maxAttempts - 1 = policy.maxAttempts - last + (last - 1) := by omega
  have numbers : List.range' 1 last = List.range' 1 (last - 1) ++ [last] := by
    obtain ⟨before, rfl⟩ : ∃ before, last = before + 1 := ⟨last - 1, by omega⟩
    rw [Nat.add_sub_cancel, List.range'_concat, Nat.one_mul, Nat.add_comm 1]
  have failing := run_attempts_failures job id outcomes next (policy.maxAttempts - last) (last - 1)
    (by omega) before (outcomes last :: rest)
  have number : 1 + (last - 1) = last := by omega
  rw [number, run_attempts_of_settles job id next _ settles] at failing
  rw [allAttempts, total, numbers, List.map_append, List.append_assoc, calls, List.append_assoc]
  exact failing

theorem run_allAttempts_of_lt
    (ends : IsLeast {k | 1 ≤ k ∧ policy.settles k (outcomes k) = true} last) {count : Nat}
    (fewer : count < last) :
    ((allAttempts policy job id next).run ((List.range' 1 count).map outcomes)).2 = none := by
  have most := RetryPolicy.le_maxAttempts_of_isLeast ends
  have before : ∀ k, 1 ≤ k → k < 1 + count → policy.settles k (outcomes k) = false :=
    fun k least below => RetryPolicy.settles_eq_false_of_lt ends least (by omega)
  have total : policy.maxAttempts - 1 = policy.maxAttempts - 1 - count + count := by omega
  have failing := run_attempts_failures job id outcomes next (policy.maxAttempts - 1 - count) count
    (by omega) before []
  rw [List.append_nil] at failing
  rw [allAttempts, total, failing]
  cases policy.maxAttempts - 1 - count <;> rfl

end Whole
end Attempts

def conclusion (stamp : Stamp) : Except FunctionError Bytes → Event
  | .ok result => Event.invoked stamp job.space id job.event result
  | .error error => Event.invocationFailed stamp job.space id job.event error.message

/-- What is seen of a delivery that its call of this number settles: its calls and, unless the event
is one of the gateway's own, one event before the first of them and one after the last. -/
def deliveryTrace (stamps : Stamps) (outcomes : Nat → Except FunctionError Bytes) (last : Nat) :
    List Trace :=
  if job.event.type.isSystem then calls policy job id outcomes last
  else
    .offered (.ofSystem job.space (Event.invoking (stamps 0) job.space id job.event)) ::
      (calls policy job id outcomes last ++
        [.offered (.ofSystem job.space (conclusion job id (stamps 1) (outcomes last)))])

section Counter

theorem toNat_add_one {attempt : UInt32} (room : attempt.toNat + 1 < 2 ^ 32) :
    (attempt + 1).toNat = attempt.toNat + 1 := by
  rw [UInt32.toNat_add]
  exact Nat.mod_eq_of_lt room

/-- Calls that are counted in a word of 32 bits; where the word runs over comes something else. -/
def countedAttempts (runsOver : Activity Unit) (next : Except FunctionError Bytes → Activity Unit)
    (attempt : UInt32) : Activity Unit :=
  .invoke job.space id job.event fun outcome =>
    match outcome with
    | .ok result => next (.ok result)
    | .error error =>
      match policy.next? attempt.toNat error with
      | none => next (.error error)
      | some pause =>
        .pause pause
          (if attempt.toNat + 1 < 2 ^ 32 then countedAttempts runsOver next (attempt + 1)
          else runsOver)
termination_by 2 ^ 32 - attempt.toNat
decreasing_by
  have more := toNat_add_one ‹attempt.toNat + 1 < 2 ^ 32›
  omega

variable {policy}

theorem countedAttempts_eq (runsOver : Activity Unit)
    (next : Except FunctionError Bytes → Activity Unit) (word : policy.maxAttempts < 2 ^ 32)
    (left : Nat) {attempt : UInt32} (count : attempt.toNat + left = policy.maxAttempts) :
    countedAttempts policy job id runsOver next attempt =
      attempts policy job id next left attempt.toNat := by
  induction left generalizing attempt with
  | zero =>
      rw [countedAttempts, attempts]
      congr 1
      funext outcome
      cases outcome with
      | ok result => rfl
      | error error =>
          have spent : policy.next? attempt.toNat error = none := by
            rw [RetryPolicy.next?, if_pos (Or.inr (by omega))]
          simp only [spent]
  | succ left ih =>
      have room : attempt.toNat + 1 < 2 ^ 32 := by omega
      have more := toNat_add_one room
      have rest := @ih (attempt + 1) (by omega)
      rw [more] at rest
      rw [countedAttempts, attempts]
      congr 1
      funext outcome
      cases outcome with
      | ok result => rfl
      | error error =>
          cases known : policy.next? attempt.toNat error with
          | none => simp only [known]
          | some pause => simp only [known, if_pos room, rest]

end Counter

section Delivery
variable {policy} {outcomes : Nat → Except FunctionError Bytes} {last : Nat}

theorem run_deliverTo (stamps : Stamps)
    (ends : IsLeast {k | 1 ≤ k ∧ policy.settles k (outcomes k) = true} last)
    (rest : List (Except FunctionError Bytes)) :
    (deliverTo policy stamps job id).run ((List.range' 1 last).map outcomes ++ rest) =
      (deliveryTrace policy job id stamps outcomes last, some ()) := by
  by_cases system : job.event.type.isSystem = true
  · rw [deliverTo, deliveryTrace, if_pos system, if_pos system, run_allAttempts job id _ ends]
    simp only [Activity.run, List.append_nil]
  · rw [deliverTo, deliveryTrace, if_neg system, if_neg system, Activity.announced, Activity.run,
      run_allAttempts job id _ ends]
    cases outcomes last <;> rfl

theorem run_deliverTo_of_lt (stamps : Stamps)
    (ends : IsLeast {k | 1 ≤ k ∧ policy.settles k (outcomes k) = true} last) {count : Nat}
    (fewer : count < last) :
    ((deliverTo policy stamps job id).run ((List.range' 1 count).map outcomes)).2 = none := by
  by_cases system : job.event.type.isSystem = true
  · rw [deliverTo, if_pos system]
    exact run_allAttempts_of_lt job id _ ends fewer
  · rw [deliverTo, if_neg system, Activity.announced, Activity.run]
    exact run_allAttempts_of_lt job id _ ends fewer

/-- **Deliveries account for their calls.** However the calls of a delivery come out, it is over
after the first one that settles it, which needs no more outcomes and no fewer: the function has
been called that often, each time with the event as it is, and of an event that is not the gateway's
own it has been told once before the first call and once, with its result or its error, after the
last. The calls may be counted in a word of 32 bits if this can hold the number of attempts
allowed. -/
theorem deliveries_account (stamps : Stamps) (outcomes : Nat → Except FunctionError Bytes)
    (word : policy.maxAttempts < 2 ^ 32) :
    (∃ last, IsLeast {k | 1 ≤ k ∧ policy.settles k (outcomes k) = true} last ∧
      (∀ rest, (deliverTo policy stamps job id).run ((List.range' 1 last).map outcomes ++ rest) =
        (deliveryTrace policy job id stamps outcomes last, some ())) ∧
      ∀ count < last,
        ((deliverTo policy stamps job id).run ((List.range' 1 count).map outcomes)).2 = none) ∧
    ∀ runsOver next, countedAttempts policy job id runsOver next 1 =
      allAttempts policy job id next := by
  constructor
  · obtain ⟨last, ends⟩ := policy.exists_isLeast_settles outcomes
    exact ⟨last, ends, run_deliverTo job id stamps ends,
      fun count fewer => run_deliverTo_of_lt job id stamps ends fewer⟩
  · intro runsOver next
    have positive := policy.positive
    have one : (1 : UInt32).toNat = 1 := rfl
    exact countedAttempts_eq job id runsOver next word (policy.maxAttempts - 1) (by omega)

end Delivery

/-- A policy that allows as many attempts as a word of 32 bits can count. -/
def patient : RetryPolicy := .of (2 ^ 32 - 1) 100000000 2000000000

/-- Outcomes of which the third is the first result. -/
def thirdSucceeds (k : Nat) : Except FunctionError Bytes :=
  if k < 3 then .error (.runtime 502) else .ok (Text.encode "done")

def exampleSignup : Job := ⟨"default", "/", .make default ⟨"user.created"⟩ "text/plain" .null⟩

/-- Two failures, a pause after each, then the result. -/
theorem patient_delivery_accounts :
    let told := (deliverTo patient (fun _ => default) exampleSignup ⟨"mailer"⟩).run
      [.error (.runtime 502), .error (.runtime 502), .ok (Text.encode "done")]
    patient.maxAttempts = 2 ^ 32 - 1 ∧ patient.maxAttempts < 2 ^ 32 ∧
      told = ([
        .offered (.ofSystem "default"
          (Event.invoking default "default" ⟨"mailer"⟩ exampleSignup.event)),
        .invoked "default" ⟨"mailer"⟩ exampleSignup.event (.error (.runtime 502)),
        .paused ⟨100000000, 10⟩,
        .invoked "default" ⟨"mailer"⟩ exampleSignup.event (.error (.runtime 502)),
        .paused ⟨200000000, 20⟩,
        .invoked "default" ⟨"mailer"⟩ exampleSignup.event (.ok (Text.encode "done")),
        .offered (.ofSystem "default"
          (Event.invoked default "default" ⟨"mailer"⟩ exampleSignup.event (Text.encode "done")))],
        some ()) ∧
      countedAttempts patient exampleSignup ⟨"mailer"⟩ (.done ()) (fun _ => .done ()) 1 =
        allAttempts patient exampleSignup ⟨"mailer"⟩ fun _ => .done () := by
  have word : patient.maxAttempts < 2 ^ 32 := by decide
  obtain ⟨⟨last, ends, whole, -⟩, counted⟩ :=
    deliveries_account exampleSignup ⟨"mailer"⟩ (fun _ => default) thirdSucceeds word
  have third : IsLeast {k | 1 ≤ k ∧ patient.settles k (thirdSucceeds k) = true} 3 := by
    constructor
    · exact ⟨by decide, by decide⟩
    · rintro k ⟨positive, settled⟩
      apply Nat.le_of_not_lt
      intro below
      have early : k = 1 ∨ k = 2 := by omega
      rcases early with rfl | rfl
      · exact absurd settled (by decide)
      · exact absurd settled (by decide)
  have same : last = 3 := ends.unique third
  subst same
  exact ⟨rfl, word, whole [], counted _ _⟩

end Job
end EventRelay
