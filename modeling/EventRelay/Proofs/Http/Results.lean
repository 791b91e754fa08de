import EventRelay.Proofs.Http.Described
import EventRelay.Proofs.Json.Exact
import EventRelay.Proofs.Json.Numbers

set_option autoImplicit false

/-!
What results of functions describe. An object whose three members are what they may be describes a
response, and nothing else does; members that are absent are blank. So a response that is written as
JSON, whatever the order of its members and of its header entries, is described by what was written.
-/
namespace EventRelay

open Json (Reader Record Canonical Legible Document)

namespace Json

theorem nat?_ofNat (n : Nat) : (ofNat n).nat? = some n := by
  simp [ofNat, nat?]

theorem ofTexts_injective : Function.Injective ofTexts := by
  intro entries others same
  have apart :
      Function.Injective fun entry : String × String => (entry.1, Json.string entry.2) := by
    rintro ⟨name, text⟩ ⟨other, value⟩ same
    simpa using same
  exact List.map_injective_iff.mpr apart (Json.object.inj same)

theorem ReadsBack.parse_eq {value : Json} (back : value.ReadsBack) :
    parse (Text.encode value.compact) = (Document.ofJson value).toJson :=
  back.readBytes_eq Reader.value

end Json

namespace ResponseObject

def member (r : ResponseObject) : String → Json
  | "statusCode" => Json.ofNat r.statusCode
  | "headers" => Json.ofTexts r.headers
  | _ => r.body

/-- What a member may be: a number of 16 bits, a map of texts, or for the body anything. -/
def isMember : String → Json → Bool
  | "statusCode" => Json.isNatUpTo 65535
  | "headers" => Json.isMapOf Json.isText
  | _ => fun _ => true

/-- Each of the three members that an object has is what it may be. -/
def Fits (members : List (String × Json)) : Prop :=
  ∀ member ∈ members, member.1 ∈ record.names → isMember member.1 member.2 = true

instance (members : List (String × Json)) : Decidable (Fits members) :=
  inferInstanceAs (Decidable (∀ member ∈ members, _ → _))

/-- The result of a function is an object that fits. -/
def IsDescription (result : Bytes) : Prop :=
  ∃ members, Json.parse result = .ok (.object members) ∧ Fits members

/-- The status that an object tells, if it is one: its member of this name, or success if it has
none. -/
def toldStatus? (result : Bytes) : Option Nat :=
  match Json.parse result with
  | .ok (.object members) => ((Keyed.get? members "statusCode").getD (Json.ofNat 200)).nat?
  | _ => none

section
variable {r other : ResponseObject} {members : List (String × Json)} {result : Bytes}

theorem shows : Record.Shows record isMember member := by
  refine .of_fields fun name listed => ?_
  simp only [record, List.mem_cons, List.not_mem_nil, or_false] at listed
  rcases listed with rfl | rfl | rfl
  · refine ⟨_, _, _, fun r found => { r with statusCode := found }, Reader.exact_nat 65535,
      fun _ _ => rfl, ?_⟩
    simp [record, member]
  · refine ⟨_, _, _, fun r found => { r with headers := found }, Reader.exact_text.map,
      fun _ _ => rfl, ?_⟩
    simp [record, member, Json.ofTexts]
  · refine ⟨_, _, _, fun r found => { r with body := found },
      Reader.exact_value, fun _ _ => rfl, ?_⟩
    simp [record, member]

theorem eq_of_member_eq (same : ∀ name ∈ record.names, r.member name = other.member name) :
    r = other := by
  have status : Json.ofNat r.statusCode = Json.ofNat other.statusCode :=
    same "statusCode" (by decide)
  have headers : Json.ofTexts r.headers = Json.ofTexts other.headers := same "headers" (by decide)
  have body : r.body = other.body := same "body" (by decide)
  rw [Json.ofNat, Json.ofNat, Json.number.injEq, Json.Number.integer.injEq,
    Int.natCast_inj] at status
  have headers := Json.ofTexts_injective headers
  cases r
  cases other
  simp_all

/-- The members of a response that an object describes are those of the object, and blank where it
has none. -/
theorem decode?_eq_some_iff : decode? result = some r ↔
    ∃ members, Json.parse result = .ok (.object members) ∧ Fits members ∧
      ∀ name ∈ record.names,
        r.member name = (Keyed.get? members name).getD ((ofStatus 200).member name) := by
  constructor
  · intro described
    unfold decode? at described
    split at described
    · rename_i members parsed
      exact ⟨members, parsed, shows.of_readValue rfl (Json.canonical_of_parse parsed)
        ((toOption_eq_some_iff ..).mp described)⟩
    · cases described
  · rintro ⟨members, parsed, fits, seen⟩
    have canonical := Json.canonical_of_parse parsed
    obtain ⟨found, read⟩ := shows.exists_readValue rfl canonical fits
    have same : r = found := eq_of_member_eq fun name listed => by
      rw [seen name listed, (shows.of_readValue rfl canonical read).2 name listed]
      rfl
    rw [decode?, parsed, same]
    exact (toOption_eq_some_iff ..).mpr read

theorem exists_decode?_iff : (∃ r, decode? result = some r) ↔ IsDescription result := by
  constructor
  · rintro ⟨r, described⟩
    obtain ⟨members, parsed, fits, -⟩ := decode?_eq_some_iff.mp described
    exact ⟨members, parsed, fits⟩
  · rintro ⟨members, parsed, fits⟩
    obtain ⟨found, read⟩ := shows.exists_readValue rfl (Json.canonical_of_parse parsed) fits
    exact ⟨found, by rw [decode?, parsed]; exact (toOption_eq_some_iff ..).mpr read⟩

theorem toldStatus?_of_decode? (described : decode? result = some r) :
    toldStatus? result = some r.statusCode := by
  obtain ⟨members, parsed, -, seen⟩ := decode?_eq_some_iff.mp described
  have here : Json.ofNat r.statusCode = (Keyed.get? members "statusCode").getD (Json.ofNat 200) :=
    seen "statusCode" (by decide)
  rw [toldStatus?, parsed]
  change ((Keyed.get? members "statusCode").getD (Json.ofNat 200)).nat? = some r.statusCode
  rw [← here, Json.nat?_ofNat]

end

/-- How a response may be written: with its members in some order, and with its header entries in
some order. -/
def WrittenAs (r : ResponseObject) (written : Json) : Prop :=
  ∃ entries members, entries.Perm r.headers ∧
    members.Perm [("statusCode", Json.ofNat r.statusCode),
      ("headers", .object (Keyed.mapValues .string entries)), ("body", r.body)] ∧
    written = .object members

/-- A response that can be written and is read again: its status has 16 bits, its header entries and
its body are in their one form, and the body is not nested too deeply. -/
structure Writable (r : ResponseObject) : Prop where
  status : r.statusCode ≤ 65535
  ascending : Keyed.Ascending r.headers
  canonical : r.body.Canonical
  legible : Legible 1 r.body

/-- A response that can be written, with a status of HTTP and entries that are header fields of
different names. -/
structure Relayable (r : ResponseObject) : Prop extends r.Writable where
  proper : isStatus r.statusCode = true
  fields : Proper r.headers

section Written
variable {r : ResponseObject} {written : Json}

theorem writtenAs_toJson (r : ResponseObject) : r.WrittenAs r.toJson := by
  have swapped : [("statusCode", Json.ofNat r.statusCode), ("headers", Json.ofTexts r.headers),
      ("body", r.body)].Perm [("body", r.body), ("headers", Json.ofTexts r.headers),
        ("statusCode", Json.ofNat r.statusCode)] := (List.reverse_perm _).symm
  exact ⟨r.headers, _, .refl _, swapped.symm,
    Json.Record.ofMembers_eq_of_perm swapped (.refl ["body", "headers", "statusCode"]) (by decide)⟩

theorem isMember_member (small : r.statusCode ≤ 65535) (name : String) :
    isMember name (r.member name) = true := by
  unfold member
  split
  · simp only [isMember, Json.isNatUpTo, Json.ofNat, Bool.and_eq_true, decide_eq_true_eq]
    omega
  · simp [isMember, Json.ofTexts, Json.isMapOf, Json.isText, Keyed.mapValues]
  · simp [isMember]

theorem Writable.decode?_eq (writable : r.Writable) (wrote : r.WrittenAs written) :
    decode? (Text.encode written.compact) = some r := by
  obtain ⟨entries, members, perm, order, rfl⟩ := wrote
  have names : (members.map (·.1)).Perm record.names := order.map _
  have reads : ∀ member ∈ members, (Document.ofJson member.2).toJson = .ok (r.member member.1) ∧
      Legible 1 member.2 := by
    intro member listed
    have known := order.mem_iff.mp listed
    simp only [List.mem_cons, List.not_mem_nil, or_false] at known
    rcases known with rfl | rfl | rfl
    · exact ⟨rfl, Json.legible_ofNat (writable.status.trans (by decide +kernel)) 1⟩
    · refine ⟨Json.toJson_of_texts perm writable.ascending,
        .object (by decide) fun member listed => ?_⟩
      obtain ⟨entry, -, rfl⟩ := List.mem_map.mp listed
      exact .string _ _
    · exact ⟨writable.canonical.toJson_ofJson, writable.legible⟩
  have back : (Json.object members).ReadsBack :=
    Legible.readsBack (.object (by decide) fun member listed => (reads member listed).2)
  have parsed := back.parse_eq.trans
    (Document.toJson_object fun member listed => (reads member listed).1)
  refine decode?_eq_some_iff.mpr ⟨_, parsed, fun member listed _ => ?_, fun name known => ?_⟩
  · obtain ⟨written, -, rfl⟩ := List.mem_map.mp (Keyed.mem_of_mem_ofList listed)
    exact isMember_member writable.status _
  · have found := Keyed.get?_ofList_map (members.map (·.1)) r.member name
    rw [if_pos (names.mem_iff.mpr known), List.map_map, Function.comp_def] at found
    rw [found, Option.getD_some]

end Written

/-- Tells where a user was made, and of the user. -/
def exampleRelayed : ResponseObject where
  statusCode := 201
  headers := [("Location", "/users/7"), ("X-Made-By", "crm")]
  body := .object [("id", Json.ofNat 7)]

theorem exampleRelayed_relayable : exampleRelayed.Relayable where
  status := by decide
  ascending := by decide
  canonical := .object (by decide) fun member listed => by
    rw [List.mem_singleton.mp listed]
    exact .number _
  legible := .object (by decide) fun member listed => by
    rw [List.mem_singleton.mp listed]
    exact Json.legible_ofNat (by decide) _
  proper := by decide
  fields := ⟨by decide, by decide, by decide +kernel⟩

end ResponseObject
end EventRelay
