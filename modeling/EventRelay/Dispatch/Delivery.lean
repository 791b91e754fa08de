import EventRelay.Dispatch.Activity
set_option autoImplicit false

/-!
Delivering a job to a subscriber: the function is called until it succeeds or is given up. Of
every delivery the gateway tells, except of those of its own events, so that telling never goes on
for ever.
-/
namespace EventRelay.Job

/-- Calls a function until it succeeds or the policy gives up; `left` more attempts can follow. -/
def attempts (policy : RetryPolicy) (job : Job) (id : FunctionId)
    (next : Except FunctionError Bytes → Activity Unit) : Nat → Nat → Activity Unit
  | 0, _ => .invoke job.space id job.event next
  | left + 1, attempt =>
    .invoke job.space id job.event fun outcome =>
      match outcome with
      | .ok result => next (.ok result)
      | .error error =>
        match policy.next? attempt error with
        | none => next (.error error)
        | some pause => .pause pause (attempts policy job id next left (attempt + 1))

def allAttempts (policy : RetryPolicy) (job : Job) (id : FunctionId)
    (next : Except FunctionError Bytes → Activity Unit) : Activity Unit :=
  attempts policy job id next (policy.maxAttempts - 1) 1

def deliverTo (policy : RetryPolicy) (stamps : Stamps) (job : Job) (id : FunctionId) :
    Activity Unit :=
  if job.event.type.isSystem then allAttempts policy job id fun _ => .done ()
  else
    .announced stamps job.space id job.event (allAttempts policy job id) fun _ => .done ()

/-- The deliveries of a job, one for each of its subscribers, two stamps for each. -/
def deliveries (policy : RetryPolicy) (stamps : Stamps) (job : Job)
    (subscribers : List FunctionId) :
    List (Activity Unit) :=
  subscribers.zipIdx.map fun (id, i) => deliverTo policy (stamps.after (2 * i)) job id

end EventRelay.Job
