import EventRelay.Gateway.Basic
import EventRelay.Proofs.Json.Parts
import EventRelay.Proofs.Toml.Integers
import EventRelay.Settings.Validation

set_option autoImplicit false

/-!
Which configurations a gateway can start with. The number of workers in a text is that of a signed
word, so twice of it is a word; but a queue may be asked for that is longer than any can be, and no
check of a configuration looks at that.
-/
namespace EventRelay

open Json (Document Reader Record)

namespace Toml

section Documents
variable {entries : Entries} {value : Value} {part : Document}

theorem itemDocuments_eq_map (items : List Value) :
    itemDocuments items = items.map Value.toDocument := by
  induction items with
  | nil => rfl
  | cons item rest ih => rw [itemDocuments, ih, List.map_cons]

theorem entryDocuments_eq_map (entries : Entries) :
    entryDocuments entries = entries.map fun entry => (some entry.1, entry.2.toDocument) := by
  induction entries with
  | nil => rfl
  | cons entry rest ih => rw [entryDocuments, ih, List.map_cons]

theorem tableDocuments_eq_map (found : List Entries) :
    tableDocuments found = found.map fun entries => .object (entryDocuments entries) true := by
  induction found with
  | nil => rfl
  | cons entries rest ih => rw [tableDocuments, ih, List.map_cons]

theorem EntriesFit.of_mem_parts (fit : EntriesFit entries)
    (member : part ∈ (Document.object (entryDocuments entries) true).parts) :
    ∃ inner : Value, inner.Fits ∧ inner.toDocument = part := by
  rw [Document.parts, entryDocuments_eq_map, List.map_map] at member
  obtain ⟨entry, listed, rfl⟩ := List.mem_map.mp member
  exact ⟨entry.2, fit entry listed, rfl⟩

theorem Value.Fits.of_mem_parts (fits : value.Fits) (member : part ∈ value.toDocument.parts) :
    ∃ inner : Value, inner.Fits ∧ inner.toDocument = part := by
  cases fits with
  | array all =>
      rw [Value.toDocument, Document.parts, itemDocuments_eq_map] at member
      obtain ⟨item, listed, rfl⟩ := List.mem_map.mp member
      exact ⟨item, all item listed, rfl⟩
  | tables all =>
      rw [Value.toDocument, Document.parts, List.mem_reverse, tableDocuments_eq_map] at member
      obtain ⟨entries, listed, rfl⟩ := List.mem_map.mp member
      exact ⟨.inlineTable entries, .inlineTable (all entries listed), by rw [Value.toDocument]⟩
  | inlineTable all =>
      rw [Value.toDocument] at member
      exact EntriesFit.of_mem_parts all member
  | table all =>
      rw [Value.toDocument] at member
      exact EntriesFit.of_mem_parts all member
  | datetime text =>
      rw [Value.toDocument] at member
      obtain rfl := List.mem_singleton.mp member
      exact ⟨.string text, .string text, by rw [Value.toDocument]⟩
  | string =>
      rw [Value.toDocument] at member
      cases member
  | integer =>
      rw [Value.toDocument] at member
      cases member
  | float =>
      rw [Value.toDocument] at member
      cases member
  | bool =>
      rw [Value.toDocument] at member
      cases member

theorem Value.Fits.wordReader_lt (fits : value.Fits) {word : UInt64}
    (read : wordReader value.toDocument = .ok word) : word.toNat < Nat.pow 2 63 := by
  cases fits with
  | @integer n least most =>
      rw [Value.toDocument, wordReader, Reader.nat] at read
      split at read
      · rename_i within
        cases read
        have small : n.toNat < Nat.pow 2 63 := by
          change n < 9223372036854775808 at most
          change n.toNat < 9223372036854775808
          omega
        change n.toNat % Nat.pow 2 64 < Nat.pow 2 63
        exact Nat.lt_of_le_of_lt (Nat.mod_le _ _) small
      · cases read
  | _ =>
      rw [Value.toDocument] at read
      cases read

end Documents
end Toml

section Workers
variable {dispatch : DispatchSettings} {s : Settings}

theorem Settings.readSection_keeps {σ : Type} {form : Notation} {record : Record σ} {P : σ → Prop}
    {document : Document} {found : σ} (blank : P record.blank)
    (keeps : ∀ name, ∀ part ∈ document.parts, ∀ state after, P state →
      record.take name part state = .ok after → P after)
    (read : readSection form record document = .ok found) : P found := by
  cases document with
  | array items closed =>
      unfold readSection at read
      refine Record.read_keeps blank (fun name part member => keeps name part ?_) read
      rw [Document.parts] at member
      split at member
      · exact List.mem_of_mem_take member
      · exact member
  | _ => exact Record.read_keeps blank keeps read

theorem DispatchSettings.workers_lt {value : Toml.Value} (fits : value.Fits)
    (read : Settings.readSection .toml DispatchSettings.record value.toDocument = .ok dispatch) :
    dispatch.workers.toNat < Nat.pow 2 63 := by
  refine Settings.readSection_keeps (P := fun d => d.workers.toNat < Nat.pow 2 63)
    (by decide) ?_ read
  intro name part member state after before taken
  obtain ⟨inner, inside, rfl⟩ := fits.of_mem_parts member
  simp only [DispatchSettings.record] at taken
  split at taken
  · obtain ⟨word, found, same⟩ := (bind_eq_ok_iff ..).mp taken
    cases same
    exact inside.wordReader_lt found
  · obtain ⟨_, -, same⟩ := (bind_eq_ok_iff ..).mp taken
    cases same
    exact before
  · obtain ⟨_, -, same⟩ := (bind_eq_ok_iff ..).mp taken
    cases same
    exact before

theorem Settings.workers_lt_of_ofToml? {text : String} (read : ofToml? text = some s) :
    s.dispatch.workers.toNat < Nat.pow 2 63 := by
  obtain ⟨entries, parsed, found⟩ := Option.bind_eq_some_iff.mp read
  have fit : Toml.EntriesFit entries := Toml.parse?_fits text entries parsed
  have whole : (Settings.record .toml).read (.object (Toml.entryDocuments entries) true) = .ok s :=
    (toOption_eq_some_iff ..).mp found
  refine Record.read_keeps (P := fun s : Settings => s.dispatch.workers.toNat < Nat.pow 2 63)
    (by decide) ?_ whole
  intro name part member state after before taken
  obtain ⟨inner, inside, rfl⟩ := fit.of_mem_parts member
  simp only [Settings.record] at taken
  split at taken
  case h_4 =>
    obtain ⟨dispatch, found, same⟩ := (bind_eq_ok_iff ..).mp taken
    cases same
    exact DispatchSettings.workers_lt inside found
  all_goals
    obtain ⟨_, -, same⟩ := (bind_eq_ok_iff ..).mp taken
    cases same
    exact before

theorem Settings.workers_lt_of_load {text : String} (accepted : load text = .ok s) :
    s.dispatch.workers.toNat < Nat.pow 2 63 := by
  unfold load at accepted
  split at accepted
  · cases accepted
  · rename_i found read
    unfold validated at accepted
    split at accepted
    · cases accepted
      exact workers_lt_of_ofToml? read
    · cases accepted

end Workers

/-- Whether a queue of so many places can be made: it needs one, and no queue has more than an
eighth of the words. -/
def Queue.Possible (places : Nat) : Prop := places ≠ 0 ∧ places ≤ (Nat.pow 2 64 - 1) / 8

instance (places : Nat) : Decidable (Queue.Possible places) := inferInstanceAs (Decidable (_ ∧ _))

def DispatchSettings.asked (dispatch : DispatchSettings) : Nat :=
  match dispatch.queueCapacity with
  | some places => places.toNat
  | none => 2 * dispatch.workers.toNat

section Places
variable {dispatch : DispatchSettings}

theorem DispatchSettings.toNat_twice (few : dispatch.workers.toNat < Nat.pow 2 63) :
    (dispatch.workers * 2).toNat = 2 * dispatch.workers.toNat := by
  have fits : dispatch.workers.toNat * 2 < 2 ^ 64 := by
    change dispatch.workers.toNat < 9223372036854775808 at few
    omega
  rw [UInt64.toNat_mul, Nat.mul_comm 2]
  exact Nat.mod_eq_of_lt fits

theorem toNat_max_one (word : UInt64) : (max word 1).toNat = max word.toNat 1 := by
  change (if word ≤ 1 then 1 else word).toNat = max word.toNat 1
  have below : word ≤ 1 ↔ word.toNat ≤ 1 := UInt64.le_iff_toNat_le
  split
  · rename_i small
    exact (Nat.max_eq_right (below.mp small)).symm
  · rename_i great
    have above := mt below.mpr great
    omega

/-- There are as many places as are asked for, and at least one. -/
theorem DispatchSettings.toNat_capacity (few : dispatch.workers.toNat < Nat.pow 2 63) :
    dispatch.capacity.toNat = max dispatch.asked 1 := by
  rw [capacity, toNat_max_one, asked]
  cases dispatch.queueCapacity with
  | some places => rfl
  | none => rw [Option.getD_none, toNat_twice few]

theorem Gateway.isSome_start?_iff (s : Settings) (stamps : Stamps) (words : Words) :
    (start? s stamps words).isSome = true ↔ s.dispatch.capacity.toNat ≤ mostPlaces := by
  unfold start?
  dsimp only
  split
  · simp only [Option.isSome_none, Bool.false_eq_true, false_iff]
    omega
  · simp only [Option.isSome_some, true_iff]
    omega

end Places

/-- A configuration that is accepted tells its capacity without running over, and a gateway starts
with it exactly if a queue of this capacity can be made, that is if no more places are asked for
than a queue can have. Nothing refuses one that asks for more. -/
theorem Settings.accepted_starts_iff {text : String} {s : Settings} (accepted : load text = .ok s)
    (stamps : Stamps) (words : Words) :
    (s.dispatch.workers * 2).toNat = 2 * s.dispatch.workers.toNat ∧
    s.dispatch.capacity.toNat = max s.dispatch.asked 1 ∧
    ((Gateway.start? s stamps words).isSome = true ↔ Queue.Possible s.dispatch.capacity.toNat) ∧
    (Queue.Possible s.dispatch.capacity.toNat ↔ s.dispatch.asked ≤ Nat.pow 2 61 - 1) := by
  have few := workers_lt_of_load accepted
  have places := DispatchSettings.toNat_capacity few
  have most : Gateway.mostPlaces = 2305843009213693951 := rfl
  refine ⟨DispatchSettings.toNat_twice few, places, ?_, ?_⟩
  · rw [Gateway.isSome_start?_iff, Queue.Possible, places, most]
    change _ ↔ _ ∧ _ ≤ 2305843009213693951
    omega
  · rw [Queue.Possible, places]
    change _ ∧ _ ≤ 2305843009213693951 ↔ _ ≤ 2305843009213693951
    omega

/-- Four workers, and twice as many places. -/
def exampleWorkers : Settings := { Settings.standard with dispatch := ⟨4, none, 30⟩ }

/-- A gateway starts with four workers. -/
theorem exampleWorkers_start : Settings.load "[dispatch]\nworkers = 4" = .ok exampleWorkers ∧
    exampleWorkers.dispatch.capacity.toNat = 8 ∧
    (Gateway.start? exampleWorkers (fun _ => default) []).isSome = true := by
  have accepted : Settings.load "[dispatch]\nworkers = 4" = .ok exampleWorkers :=
    (toOption_eq_some_iff ..).mp (by decide +kernel)
  obtain ⟨-, places, starts, possible⟩ :=
    Settings.accepted_starts_iff accepted (fun _ => default) []
  exact ⟨accepted, places, starts.mpr (possible.mpr (by decide))⟩

/-- A queue with one place more than any can have. -/
def exampleVastQueue : Settings :=
  { Settings.standard with dispatch := ⟨20, some 2305843009213693952, 30⟩ }

/-- A text that asks for such a queue is accepted, and no gateway starts with it. -/
theorem exampleVastQueue_is_accepted :
    Settings.load "[dispatch]\nqueue_capacity = 2305843009213693952" = .ok exampleVastQueue ∧
    ¬ Queue.Possible exampleVastQueue.dispatch.capacity.toNat ∧
    Gateway.start? exampleVastQueue (fun _ => default) [] = none :=
  ⟨(toOption_eq_some_iff ..).mp (by decide +kernel), by decide, rfl⟩

end EventRelay
