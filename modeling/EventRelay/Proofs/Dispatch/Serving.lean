import EventRelay.EventsApi
import EventRelay.Proofs.Dispatch.Draining

set_option autoImplicit false

/-!
Handlers of requests beside a dispatcher that is shutting down. A handler looks once whether the
intake is closed, when its request comes in, and offers jobs later; workers leave as soon as nothing
waits. A job that is offered after the last worker has left still gets a place, and nobody takes it
from there.
-/
namespace EventRelay

open Dispatcher (Recorded Balanced Delivery)

/-- A dispatcher with its books, the handlers that have not answered, and the answers given. -/
structure Serving where
  recorded : Recorded
  handlers : List (Activity EventsApi.Answer)
  answers : List EventsApi.Answer

namespace Serving

/-- What can happen next. Handlers are told by their positions; a call that a handler makes has its
outcome with it. -/
inductive Move where
  | arrive (ctx : EventsApi.Context) (request : Request)
  | handle (handler : Nat) (outcome : Except FunctionError Bytes)
  /-- A handler is given up: it took too long, or its client went away. -/
  | abandon (handler : Nat)
  | dispatch (move : Dispatcher.Move)

def start (d : Dispatcher) : Serving := ⟨.start d, [], []⟩

/-- The state after a move, if it is possible. Of jobs from outside, only handlers offer any. -/
def step? (s : Serving) : Move → Option Serving
  | .arrive ctx request =>
    let handler := EventsApi.handle ctx s.recorded.dispatcher.draining request
    some { s with handlers := s.handlers ++ [handler] }
  | .handle handler outcome =>
    match s.handlers[handler]? with
    | some (.done answer) =>
      some { s with handlers := s.handlers.eraseIdx handler, answers := s.answers ++ [answer] }
    | some (.offer job next) =>
      (s.recorded.step? (.offer job)).map fun recorded =>
        { s with recorded, handlers := s.handlers.set handler next }
    | some (.invoke _ _ _ next) =>
      some { s with handlers := s.handlers.set handler (next outcome) }
    | some (.pause _ next) => some { s with handlers := s.handlers.set handler next }
    | none => none
  | .abandon handler => some { s with handlers := s.handlers.eraseIdx handler }
  | .dispatch move =>
    if move.isOwn then (s.recorded.step? move).map fun recorded => { s with recorded } else none

def run? (s : Serving) (moves : List Move) : Option Serving := moves.foldlM step? s

section Run
variable {s last : Serving}

theorem recorded_step? {move : Move} (moved : s.step? move = some last) :
    last.recorded = s.recorded ∨ ∃ made, s.recorded.step? made = some last.recorded := by
  cases move with
  | arrive ctx request =>
      cases moved
      exact Or.inl rfl
  | abandon handler =>
      cases moved
      exact Or.inl rfl
  | handle handler outcome =>
      simp only [step?] at moved
      split at moved
      · cases moved
        exact Or.inl rfl
      · rename_i job next found
        obtain ⟨recorded, offered, rfl⟩ := Option.map_eq_some_iff.mp moved
        exact Or.inr ⟨.offer job, offered⟩
      · cases moved
        exact Or.inl rfl
      · cases moved
        exact Or.inl rfl
      · cases moved
  | dispatch made =>
      simp only [step?] at moved
      split at moved
      · obtain ⟨recorded, done, rfl⟩ := Option.map_eq_some_iff.mp moved
        exact Or.inr ⟨made, done⟩
      · cases moved

/-- Whatever handlers do, the books of the dispatcher balance. -/
theorem balanced_run (balanced : Balanced s.recorded.dispatcher s.recorded.ledger)
    {moves : List Move} (run : s.run? moves = some last) :
    Balanced last.recorded.dispatcher last.recorded.ledger := by
  have keeps : ∀ before : Serving, ∀ move ∈ moves, ∀ after : Serving,
      Balanced before.recorded.dispatcher before.recorded.ledger → before.step? move = some after →
        Balanced after.recorded.dispatcher after.recorded.ledger := by
    intro before move _ after balanced moved
    rcases recorded_step? moved with same | ⟨made, stepped⟩
    · rwa [same]
    · obtain ⟨step, booked⟩ := Recorded.step?_eq_some stepped
      rw [booked]
      exact balanced.record step
  exact foldlM_keeps keeps balanced run

end Run

/-- When all workers have left, in whatever order workers, handlers and the closing of the intake
took their turns, what still waits are the jobs that got a place after the last worker had left;
nothing is stranded exactly when there are none. Every other job that got a place was delivered by
one worker, once. -/
theorem stranded_jobs_are_late {d : Dispatcher} {moves : List Move} {last : Serving}
    (run : (start d).run? moves = some last)
    (gone : last.recorded.dispatcher.deserted = true) :
    last.recorded.dispatcher.queue.jobs = last.recorded.ledger.late ∧
    last.recorded.ledger.admitted = last.recorded.ledger.served ++ last.recorded.ledger.late ∧
    (last.recorded.ledger.delivered.map Delivery.entry).Perm last.recorded.ledger.served.zipIdx ∧
    ∀ number job, last.recorded.ledger.served[number]? = some job → ∃ worker,
      last.recorded.ledger.delivered.filter (fun delivery => delivery.number == number) =
        [⟨worker, job, number⟩] := by
  have balanced := balanced_run (Dispatcher.balanced_start d) run
  have waits := balanced.queue_eq_late gone
  refine ⟨waits, ?_, balanced.delivered_perm gone, ?_⟩
  · rw [← waits]
    exact balanced.admitted
  · intro number job taken
    exact balanced.delivered_once gone taken

/-- What a handler works with when nothing is registered. -/
def exampleContext : EventsApi.Context := ⟨.empty, "default", 100, fun _ => default⟩

def exampleRequest : Request where
  method := "POST"
  uri := ⟨none, none, "/", none⟩
  headers := [⟨"event", Text.encode "user.created"⟩, ⟨"content-type", Text.encode "text/plain"⟩]
  body := []

/-- The request comes in, the intake is closed, the one worker leaves, and the handler goes on. -/
def strandingMoves : List Move :=
  [.arrive exampleContext exampleRequest, .dispatch .close, .dispatch (.leave 0),
    .handle 0 (.ok []), .handle 0 (.ok []), .handle 0 (.ok [])]

theorem outcome_of_strandingMoves :
    ((start (.start 4 1 .never)).run? strandingMoves).map (fun last =>
      (last.recorded.dispatcher.draining, last.handlers.isEmpty,
        last.recorded.dispatcher.deserted, last.answers.map (·.response.status),
        last.recorded.dispatcher.queue.jobs.map (·.event.type.name))) =
      some (true, true, true, [202], ["gateway.event.received", "user.created"]) := by
  decide +kernel

/-- The intake is closed and everybody has left, and an event that was accepted waits for ever. -/
theorem accepted_event_is_stranded :
    ∃ last, (start (.start 4 1 .never)).run? strandingMoves = some last ∧
      last.recorded.dispatcher.draining = true ∧ last.handlers = [] ∧
      last.recorded.dispatcher.deserted = true ∧ last.answers.map (·.response.status) = [202] ∧
      last.recorded.dispatcher.queue.jobs.map (·.event.type.name) =
        ["gateway.event.received", "user.created"] := by
  obtain ⟨last, run, outcome⟩ := Option.map_eq_some_iff.mp outcome_of_strandingMoves
  simp only [Prod.mk.injEq, List.isEmpty_iff] at outcome
  exact ⟨last, run, outcome⟩

/-- The run ends with all workers gone, and what waits is what came late. -/
theorem strandingMoves_leave_late_jobs :
    ∃ last, (start (.start 4 1 .never)).run? strandingMoves = some last ∧
      last.recorded.ledger.late.map (·.event.type.name) =
        ["gateway.event.received", "user.created"] := by
  obtain ⟨last, run, outcome⟩ := Option.map_eq_some_iff.mp outcome_of_strandingMoves
  simp only [Prod.mk.injEq] at outcome
  obtain ⟨-, -, gone, -, waiting⟩ := outcome
  obtain ⟨late, -⟩ := stranded_jobs_are_late run gone
  exact ⟨last, run, late ▸ waiting⟩

/-- The intake is closed, and no handler will offer anything. -/
structure Quiet (s : Serving) : Prop where
  closed : s.recorded.dispatcher.draining = true
  answered : ∀ handler ∈ s.handlers, ∃ answer, handler = .done answer

theorem handle_closed (ctx : EventsApi.Context) (request : Request) :
    EventsApi.handle ctx true request = .done ⟨.plain 503 "Service Unavailable", none⟩ := rfl

section Quiet
variable {s last : Serving}

theorem Quiet.step? (quiet : s.Quiet) {move : Move} (moved : s.step? move = some last) :
    last.Quiet ∧ last.recorded.ledger.late = s.recorded.ledger.late := by
  cases move with
  | arrive ctx request =>
      -- the intake is closed, so the new handler has its answer already
      simp only [Serving.step?, quiet.closed, handle_closed] at moved
      cases moved
      refine ⟨⟨quiet.closed, ?_⟩, rfl⟩
      intro handler member
      rcases List.mem_append.mp member with old | new
      · exact quiet.answered handler old
      · exact ⟨_, List.mem_singleton.mp new⟩
  | abandon handler =>
      cases moved
      refine ⟨⟨quiet.closed, ?_⟩, rfl⟩
      intro other member
      exact quiet.answered other (List.mem_of_mem_eraseIdx member)
  | handle handler outcome =>
      simp only [Serving.step?] at moved
      cases found : s.handlers[handler]? with
      | none => simp [found] at moved
      | some activity =>
          obtain ⟨answer, rfl⟩ := quiet.answered activity (List.mem_of_getElem? found)
          rw [found] at moved
          cases moved
          refine ⟨⟨quiet.closed, ?_⟩, rfl⟩
          intro other member
          exact quiet.answered other (List.mem_of_mem_eraseIdx member)
  | dispatch made =>
      simp only [Serving.step?] at moved
      split at moved
      · rename_i own
        obtain ⟨recorded, done, rfl⟩ := Option.map_eq_some_iff.mp moved
        obtain ⟨step, booked⟩ := Recorded.step?_eq_some done
        refine ⟨⟨step.draining quiet.closed, quiet.answered⟩, ?_⟩
        rw [booked]
        exact step.late_record _ own
      · cases moved

theorem Quiet.run? (quiet : s.Quiet) {moves : List Move} (run : s.run? moves = some last) :
    last.recorded.ledger.late = s.recorded.ledger.late := by
  have keeps : ∀ before : Serving, ∀ move ∈ moves, ∀ after : Serving,
      before.Quiet ∧ before.recorded.ledger.late = s.recorded.ledger.late →
        before.step? move = some after →
          after.Quiet ∧ after.recorded.ledger.late = s.recorded.ledger.late := by
    rintro before move - after ⟨still, same⟩ moved
    obtain ⟨next, unchanged⟩ := still.step? moved
    exact ⟨next, unchanged.trans same⟩
  exact (foldlM_keeps keeps ⟨quiet, rfl⟩ run).2

/-- When the last handler answers while a worker is still there, nothing is stranded. -/
theorem Quiet.nothing_stranded {d : Dispatcher} {before after : List Move}
    (opened : (start d).run? before = some s) (quiet : s.Quiet)
    (staffed : s.recorded.dispatcher.deserted = false) (run : s.run? after = some last)
    (gone : last.recorded.dispatcher.deserted = true) :
    last.recorded.dispatcher.queue.jobs = [] := by
  have first := balanced_run (Dispatcher.balanced_start d) opened
  rw [(balanced_run first run).queue_eq_late gone, quiet.run? run, first.late, staffed]
  rfl

end Quiet
end Serving
end EventRelay
