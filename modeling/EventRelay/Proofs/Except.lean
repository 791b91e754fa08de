set_option autoImplicit false

/-!
When a chain of steps that may fail succeeds.
-/
namespace EventRelay

variable {ε α β : Type} (result : β)

theorem bind_eq_ok_iff (first : Except ε α) (next : α → Except ε β) :
    first.bind next = .ok result ↔ ∃ value, first = .ok value ∧ next value = .ok result := by
  cases first <;> simp [Except.bind]

theorem check_eq_ok_iff (refused : Prop) [Decidable refused] (error : ε) (skipped : α → Except ε β)
    (next : Except ε β) :
    (if refused then (throw error : Except ε α).bind skipped else next) = .ok result ↔
      ¬ refused ∧ next = .ok result := by
  by_cases check : refused <;>
    simp [check, Except.bind, throw, throwThe, MonadExceptOf.throw]

theorem pure_eq_ok_iff (value : β) : (pure value : Except ε β) = .ok result ↔ value = result := by
  simp [pure, Except.pure]

theorem toOption_eq_some_iff (outcome : Except ε β) :
    outcome.toOption = some result ↔ outcome = .ok result := by
  cases outcome <;> simp [Except.toOption]

end EventRelay
