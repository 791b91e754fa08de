import EventRelay.Proofs.Dispatch.Ledger

set_option autoImplicit false

/-!
Workers drain what they produce. A worker publishes only while it is busy, so what it publishes
finds at least one worker left, and none leaves while something waits.
-/
namespace EventRelay.Dispatcher

/-- Whether a move is made by the dispatcher itself; jobs offered from outside are not. -/
def Move.isOwn : Move → Bool
  | .offer _ => false
  | _ => true

section Late
variable {d after : Dispatcher} {move : Move} (l : Ledger)

theorem Step.late_record (step : Step d move after) (own : move.isOwn = true) :
    (l.record d move).late = l.late := by
  cases step with
  | offer => cases own
  | take worker routes stamps job rest waiting first => simp [Ledger.record, first, Ledger.take]
  | publish worker delivery outcome deliveries job next busy offering =>
      have staffed : d.deserted = false := deserted_eq_false busy rfl
      simp only [Ledger.record, published?_eq_some busy offering, Ledger.enter, staffed]
      split <;> rfl
  | proceed worker delivery outcome before now busy quiet => simp [Ledger.record, quiet]
  | close => rfl
  | finish => rfl
  | leave => rfl

end Late

section Run
variable {r last : Recorded} {moves : List Move}

end Run

end EventRelay.Dispatcher
