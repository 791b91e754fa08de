import EventRelay.EventsApi

set_option autoImplicit false

/-!
The space in which a request to the events side is handled: jobs and calls that come of it are all
in the space that the request addresses.
-/
namespace EventRelay

namespace Activity

variable {α β : Type}

/-- All that an activity puts into the queue and all that it calls is in a space. -/
inductive Within (space : String) : Activity α → Prop
  | done (result : α) : Within space (.done result)
  | offer {job : Job} {next : Activity α} (here : job.space = space) (goes : next.Within space) :
      Within space (.offer job next)
  | invoke {id : FunctionId} {e : Event} {next : Except FunctionError Bytes → Activity α}
      (goes : ∀ outcome, (next outcome).Within space) : Within space (.invoke space id e next)
  | pause {p : Pause} {next : Activity α} (goes : next.Within space) : Within space (.pause p next)

section Composition
variable {space : String} {activity : Activity α} {f : α → Activity β}

theorem Within.andThen (within : activity.Within space) (next : ∀ x, (f x).Within space) :
    (activity.andThen f).Within space := by
  induction within with
  | done result => exact next result
  | offer here _ ih => exact .offer here ih
  | invoke _ ih => exact .invoke ih
  | pause _ ih => exact .pause ih

theorem Within.map (within : activity.Within space) (g : α → β) : (activity.map g).Within space :=
  within.andThen fun _ => .done _

theorem within_announced {stamps : Stamps} {id : FunctionId} {e : Event}
    {body : (Except FunctionError Bytes → Activity α) → Activity α}
    {next : Except FunctionError Bytes → Activity α}
    (calls : ∀ rest, (∀ outcome, (rest outcome).Within space) → (body rest).Within space)
    (goes : ∀ outcome, (next outcome).Within space) :
    (announced stamps space id e body next).Within space :=
  .offer rfl (calls _ fun outcome => .offer rfl (goes outcome))

end Composition
end Activity

namespace EventsApi

section Handlers
variable (ctx : Context) (space : String) (request : Request) (e : Event)

theorem within_call (id : FunctionId) (respond : Except FunctionError Bytes → Response) :
    (call ctx space id e respond).Within space :=
  Activity.within_announced (fun _ goes => .invoke goes) fun _ => .done _

theorem within_invoke (headers : Headers) : (invoke ctx space headers e).Within space := by
  unfold invoke
  split
  · exact .done _
  · exact within_call ..

theorem within_emit (path method : String) : (emit ctx space path method e).Within space := by
  unfold emit
  split
  · exact within_call ..
  · exact .offer rfl (.done _)

theorem within_custom : (custom ctx space request e).Within space := by
  unfold custom
  split
  · exact .done _
  · split
    · exact .done _
    · split
      · exact (within_invoke ..).map _
      · split
        · exact .done _
        · exact (within_emit ..).map _

theorem within_sync : (sync ctx space request e).Within space := by
  unfold sync
  dsimp only
  split
  · exact .done _
  · split
    · exact within_call ..
    · split
      · exact .done _
      · exact within_call ..

theorem within_answer :
    (answer ctx request e).Within (spaceOf ctx.defaultSpace request.headers) := by
  refine .offer rfl ?_
  split
  · exact (within_sync ..).map _
  · exact (within_custom ..).map _

end Handlers
end EventsApi
end EventRelay
