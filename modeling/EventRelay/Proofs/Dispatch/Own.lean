import EventRelay.Proofs.Dispatch.Contents
import EventRelay.Proofs.Text.Split

set_option autoImplicit false

/-!
Events of the gateway's own making. It tells of what it receives and of the functions that it calls;
deliveries offer nothing else, and those of the gateway's own events offer nothing at all.
-/
namespace EventRelay

/-- Events by which the gateway tells of its own activity. -/
inductive Event.Own : Event → Prop
  | received (stamp : Stamp) (path : String) (e : Event) (headers : List (String × String)) :
      Own (.received stamp path e headers)
  | invoking (stamp : Stamp) (space : String) (id : FunctionId) (e : Event) :
      Own (.invoking stamp space id e)
  | invoked (stamp : Stamp) (space : String) (id : FunctionId) (e : Event) (result : Bytes) :
      Own (.invoked stamp space id e result)
  | invocationFailed (stamp : Stamp) (space : String) (id : FunctionId) (e : Event)
      (message : String) : Own (.invocationFailed stamp space id e message)

theorem Event.Own.isSystem {e : Event} (own : e.Own) : e.type.isSystem = true := by
  cases own <;> exact Text.beginsWith_append _ _

variable {P : Job → Prop}

/-- A call of which the gateway tells offers events of its own, and what the call itself offers. -/
theorem Activity.Offers.announced {α : Type} (own : ∀ space e, Event.Own e → P (.ofSystem space e))
    {body : (Except FunctionError Bytes → Activity α) → Activity α}
    (calls : ∀ goesOn, (∀ outcome, (goesOn outcome).Offers P) → (body goesOn).Offers P)
    {next : Except FunctionError Bytes → Activity α} (goes : ∀ outcome, (next outcome).Offers P)
    (stamps : Stamps) (space : String) (id : FunctionId) (e : Event) :
    (Activity.announced stamps space id e body next).Offers P := by
  refine .offer (own space _ (.invoking _ _ _ _)) (calls _ fun outcome => ?_)
  refine .offer (own space _ ?_) (goes outcome)
  cases outcome with
  | ok result => exact .invoked _ _ _ _ result
  | error error => exact .invocationFailed _ _ _ _ error.message

namespace Job

variable (policy : RetryPolicy) (stamps : Stamps) (job : Job) (id : FunctionId)

theorem offers_attempts {next : Except FunctionError Bytes → Activity Unit}
    (goes : ∀ outcome, (next outcome).Offers P) (left attempt : Nat) :
    (attempts policy job id next left attempt).Offers P := by
  induction left generalizing attempt with
  | zero => exact .invoke goes
  | succ left ih =>
      refine .invoke fun outcome => ?_
      cases outcome with
      | ok result => exact goes (.ok result)
      | error error =>
          dsimp only
          cases policy.next? attempt error with
          | none => exact goes (.error error)
          | some pause => exact .pause (ih (attempt + 1))

/-- To deliver an event of the gateway itself offers nothing, however its attempts come out. -/
theorem offers_deliverTo_of_isSystem (system : job.event.type.isSystem = true) :
    (deliverTo policy stamps job id).Offers P := by
  rw [deliverTo, if_pos system]
  exact offers_attempts policy job id (fun _ => .done ()) _ _

theorem offers_deliverTo (own : ∀ space e, Event.Own e → P (.ofSystem space e)) :
    (deliverTo policy stamps job id).Offers P := by
  by_cases system : job.event.type.isSystem = true
  · exact offers_deliverTo_of_isSystem policy stamps job id system
  · rw [deliverTo, if_neg system]
    refine .announced own ?_ (fun _ => .done ()) stamps job.space id job.event
    intro goesOn goes
    exact offers_attempts policy job id goes _ _

theorem mem_deliveries {subscribers : List FunctionId} {delivery : Activity Unit}
    (member : delivery ∈ job.deliveries policy stamps subscribers) :
    ∃ id later, delivery = deliverTo policy later job id := by
  obtain ⟨⟨id, i⟩, -, rfl⟩ := List.mem_map.mp member
  exact ⟨id, _, rfl⟩

end Job

/-- A run of the delivery of one of the gateway's own events shows no event offered, whatever comes
out of its attempts. -/
theorem Job.run_deliverTo_of_isSystem {job : Job} (system : job.event.type.isSystem = true)
    (policy : RetryPolicy) (stamps : Stamps) (id : FunctionId)
    (outcomes : List (Except FunctionError Bytes)) (other : Job) :
    Activity.Trace.offered other ∉ (Activity.run outcomes (deliverTo policy stamps job id)).1 := by
  intro shown
  have none : (deliverTo policy stamps job id).Offers fun _ => False :=
    offers_deliverTo_of_isSystem policy stamps job id system
  exact none.of_run shown

end EventRelay
