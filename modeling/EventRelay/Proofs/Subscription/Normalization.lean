import EventRelay.Proofs.Text.Split
import EventRelay.Subscription.Basic

set_option autoImplicit false

/-!
What a normalized subscription looks like. Normalizing fills in the path, the method and the id and
touches no other field but the CORS settings of an async subscription; what comes out is in normal
form, and normalizing leaves normal forms as they are.
-/
namespace EventRelay.Subscription

structure Normal (s : Subscription) : Prop where
  eventType : s.eventType.name.isEmpty = false
  functionId : s.functionId.isValid = true
  rooted : Subscription.rooted s.path = s.path
  unblank : s.path.toList.any Text.isBlank = false
  method : ∃ method ∈ methods, s.method = some method
  async : s.kind = .async → s.eventType.isHttpRequest = false ∧ s.cors = none
  sync : s.kind = .sync → s.lacksCors = false
  id : s.id = s.computeId

/-- What normalizing makes of the fields, the checks apart. -/
def filled (s : Subscription) : Subscription :=
  identified
    { s with
      path := Subscription.rooted s.path
      method := some (Text.upper (s.method.getD "POST"))
      cors := match s.kind with
        | .async => none
        | .sync => s.cors }

section Filled
variable (s : Subscription)

@[simp] theorem filled_space : s.filled.space = s.space := rfl

@[simp] theorem filled_kind : s.filled.kind = s.kind := rfl

@[simp] theorem filled_eventType : s.filled.eventType = s.eventType := rfl

@[simp] theorem filled_functionId : s.filled.functionId = s.functionId := rfl

@[simp] theorem filled_path : s.filled.path = Subscription.rooted s.path := rfl

@[simp] theorem filled_method :
    s.filled.method = some (Text.upper (s.method.getD "POST")) := rfl

theorem filled_cors : s.filled.cors = if s.kind = .async then none else s.cors := by
  cases kind : s.kind <;> simp [filled, identified, kind]

end Filled

@[simp] theorem computeId_identified (s : Subscription) : s.identified.computeId = s.computeId :=
  rfl

theorem rooted_rooted (path : String) : Subscription.rooted (Subscription.rooted path) =
    Subscription.rooted path := by
  by_cases begins : Text.beginsWith "/" path
  · simp [Subscription.rooted, begins]
  · have now : Text.beginsWith "/" ("/" ++ path) = true := by
      simp [Text.beginsWith, Text.after?, Text.dropStart?]
    simp [Subscription.rooted, begins, now]

theorem beginsWith_of_rooted {path : String} (rooted : Subscription.rooted path = path) :
    Text.beginsWith "/" path = true := by
  apply Decidable.byContradiction
  intro bare
  rw [Subscription.rooted, if_neg bare] at rooted
  exact bare (Text.beginsWith_iff.mpr ⟨path, rooted.symm⟩)

theorem upper_of_mem_methods {method : String} (known : method ∈ methods) :
    Text.upper method = method := by
  have all : ∀ method ∈ methods, Text.upper method = method := by decide +kernel
  exact all method known

theorem normal_of_normalize {s t : Subscription} (outcome : s.normalize = (t, none)) :
    t = s.filled ∧ t.Normal := by
  unfold normalize at outcome
  by_cases unnamed : s.eventType.name.isEmpty = true
  · simp [unnamed] at outcome
  by_cases invalid : s.functionId.isValid = false
  · simp [unnamed, invalid] at outcome
  by_cases blank : (Subscription.rooted s.path).toList.any Text.isBlank = true
  · simp [unnamed, invalid, blank] at outcome
  by_cases foreign : Text.upper (s.method.getD "POST") ∉ methods
  · simp [unnamed, invalid, blank, foreign] at outcome
  have path := rooted_rooted s.path
  simp only [unnamed, invalid, blank, List.contains_eq_mem, decide_eq_true_eq,
    foreign, ↓reduceIte, Bool.false_eq_true] at outcome
  simp only [Decidable.not_not, Bool.not_eq_true, Bool.not_eq_false]
    at unnamed invalid blank foreign
  cases kind : s.kind with
  | async =>
      by_cases plain : s.eventType.isHttpRequest = true
      · simp [kind, plain] at outcome
      · have same : s.filled = t := by simpa [kind, plain, filled] using outcome
        subst same
        exact ⟨rfl, unnamed, invalid, path, blank, ⟨_, foreign, rfl⟩,
          fun _ => ⟨by simpa using plain, by simp [filled_cors, kind]⟩,
          fun sync => by simp [kind] at sync, rfl⟩
  | sync =>
      by_cases lacking : s.lacksCors = true
      · simp only [kind, lacksCors] at outcome lacking
        simp [lacking] at outcome
      · have same : s.filled = t := by
          simp only [kind, lacksCors] at outcome lacking
          simpa [kind, lacking, filled] using outcome
        subst same
        exact ⟨rfl, unnamed, invalid, path, blank, ⟨_, foreign, rfl⟩,
          fun async => by simp [kind] at async,
          fun _ => by simpa [lacksCors, filled_cors, kind] using lacking, rfl⟩

theorem normalized_eq_ok {s t : Subscription} (ok : s.normalized = .ok t) :
    t = s.filled ∧ t.Normal := by
  unfold normalized at ok
  cases outcome : s.normalize with
  | mk after error =>
      cases error with
      | some e => simp [outcome] at ok
      | none =>
          simp only [outcome, Except.ok.injEq] at ok
          subst ok
          exact normal_of_normalize outcome

theorem identified_eq_self {s : Subscription} (id : s.id = s.computeId) : s.identified = s := by
  rw [identified, ← id]

theorem Normal.normalized {s : Subscription} (normal : s.Normal) : s.normalized = .ok s := by
  obtain ⟨method, known, same⟩ := normal.method
  have upper := upper_of_mem_methods known
  have itself := identified_eq_self normal.id
  have named := normal.eventType
  have valid := normal.functionId
  have rooted := normal.rooted
  have unblank := normal.unblank
  have async := normal.async
  have sync := normal.sync
  clear normal
  obtain ⟨space, id, kind, type, function, path, given, cors⟩ := s
  simp only at same named valid rooted unblank async sync
  subst same
  cases kind with
  | async =>
      obtain ⟨plain, rfl⟩ := async rfl
      simp [Subscription.normalized, normalize, named, valid, rooted, unblank, upper, known, plain,
        itself]
  | sync =>
      have complete := sync rfl
      simp [Subscription.normalized, normalize, named, valid, rooted, unblank, upper, known,
        complete, itself]

end EventRelay.Subscription
