import EventRelay.Proofs.Base64
import EventRelay.Proofs.Percent
import EventRelay.Proofs.Subscription.Normalization

set_option autoImplicit false

/-!
What the id of a subscription tells. The routing fields are joined with commas, and the event type
may hold commas itself; but neither the fields after it nor the name of the kind before it do. So
the fields can be told apart from the end of the joined text, and two normalized subscriptions have
one id only if they agree in all of them.
-/
namespace EventRelay.Subscription

section Fields

theorem comma_not_mem_functionId {id : FunctionId} (valid : id.isValid = true) :
    ',' ∉ id.text.toList := by
  intro member
  rw [FunctionId.isValid, isIdentifier, Bool.and_eq_true] at valid
  have allowed := List.all_eq_true.mp valid.2 ',' member
  exact absurd allowed (by decide)

theorem comma_not_mem_escapedPath (path : String) : ',' ∉ (escapedPath path).toList := by
  intro member
  rcases Percent.of_mem_encode member with kept | sign | ⟨n, small, digit⟩
  · exact absurd kept (by decide)
  · exact absurd sign (by decide)
  · have none : ∀ n < 16, ',' ≠ Percent.hexDigit n := by decide
    exact none n small digit

theorem comma_not_mem_method {method : String} (known : method ∈ methods) :
    ',' ∉ method.toList := by
  have all : ∀ method ∈ methods, ',' ∉ method.toList := by decide +kernel
  exact all method known

theorem escapedPath_injective : Function.Injective escapedPath :=
  Percent.encode_injective (by decide)

/-- Where two lists agree, and no mark follows the one that ends the first part of the shorter,
nothing stands between the marks. -/
theorem eq_of_append_mark {x y field other : List Char} {mark : Char} (whole : mark ∉ field)
    {more : List Char} (longer : y = x ++ more) (same : mark :: field = more ++ mark :: other) :
    x = y ∧ field = other := by
  cases more with
  | nil =>
      rw [List.nil_append] at same
      exact ⟨by rw [longer, List.append_nil], List.tail_eq_of_cons_eq same⟩
  | cons first rest =>
      have later := List.tail_eq_of_cons_eq same
      exact absurd (later ▸ List.mem_append_right rest List.mem_cons_self) whole

theorem append_field_inj {x y field other : String} (whole : ',' ∉ field.toList)
    (sound : ',' ∉ other.toList) :
    x ++ "," ++ field = y ++ "," ++ other ↔ x = y ∧ field = other := by
  constructor
  · intro same
    have chars : x.toList ++ ',' :: field.toList = y.toList ++ ',' :: other.toList := by
      have lists := congrArg String.toList same
      simpa using lists
    have equal : x.toList = y.toList ∧ field.toList = other.toList := by
      rcases List.append_eq_append_iff.mp chars with ⟨more, longer, rest⟩ | ⟨more, longer, rest⟩
      · exact eq_of_append_mark whole longer rest
      · have swapped := eq_of_append_mark sound longer rest
        exact ⟨swapped.1.symm, swapped.2.symm⟩
    exact ⟨String.toList_inj.mp equal.1, String.toList_inj.mp equal.2⟩
  · rintro ⟨rfl, rfl⟩
    rfl

end Fields

/-- What stands before the path: the name of the kind, the event type and, for async subscriptions,
the function. -/
def start (s : Subscription) : String :=
  match s.kind with
  | .async => "async" ++ "," ++ s.eventType.name ++ "," ++ s.functionId.text
  | .sync => "sync" ++ "," ++ s.eventType.name

section Identity
variable {s t : Subscription}

theorem intercalate_routingFields (s : Subscription) : ",".intercalate s.routingFields =
    s.start ++ "," ++ escapedPath s.path ++ "," ++ s.method.getD "" := by
  cases kind : s.kind <;>
    simp [routingFields, start, kind, SubscriptionKind.name, String.intercalate_cons_cons,
      String.append_assoc]

theorem start_ne (async : s.kind = .async) (sync : t.kind = .sync) : s.start ≠ t.start := by
  intro same
  have first := congrArg (fun text => text.toList.head?) same
  simp [start, async, sync] at first

theorem start_eq_iff (valid : s.functionId.isValid = true) (sound : t.functionId.isValid = true) :
    s.start = t.start ↔ s.kind = t.kind ∧ s.eventType = t.eventType ∧
      (s.kind = .async → s.functionId = t.functionId) := by
  have types : s.eventType.name = t.eventType.name ↔ s.eventType = t.eventType :=
    EventType.mk.injEq .. ▸ Iff.rfl
  have functions : s.functionId.text = t.functionId.text ↔ s.functionId = t.functionId :=
    FunctionId.mk.injEq .. ▸ Iff.rfl
  cases kind : s.kind with
  | async =>
      cases other : t.kind with
      | async =>
          have fields := append_field_inj (x := "async" ++ "," ++ s.eventType.name)
            (y := "async" ++ "," ++ t.eventType.name)
            (comma_not_mem_functionId valid) (comma_not_mem_functionId sound)
          simp only [start, kind, other, fields, String.append_right_inj, types, functions,
            true_and, forall_const]
      | sync => simp [start_ne kind other]
  | sync =>
      cases other : t.kind with
      | async => simp [(start_ne other kind).symm]
      | sync => simp [start, kind, other, String.append_right_inj, types]

/-- The joined text tells the routing fields. -/
theorem Normal.intercalate_eq_iff (left : s.Normal) (right : t.Normal) :
    ",".intercalate s.routingFields = ",".intercalate t.routingFields ↔
      s.start = t.start ∧ s.path = t.path ∧ s.method = t.method := by
  obtain ⟨method, known, same⟩ := left.method
  obtain ⟨other, familiar, equal⟩ := right.method
  rw [intercalate_routingFields, intercalate_routingFields, same, equal, Option.getD_some,
    Option.getD_some, append_field_inj (comma_not_mem_method known) (comma_not_mem_method familiar),
    append_field_inj (comma_not_mem_escapedPath _) (comma_not_mem_escapedPath _),
    escapedPath_injective.eq_iff, Option.some.injEq, and_assoc]

theorem computeId_eq_iff : s.computeId = t.computeId ↔
    ",".intercalate s.routingFields = ",".intercalate t.routingFields := by
  constructor
  · intro same
    have encoded := Base64.encode_injective Base64.isDistinct_urlSafe (SubscriptionId.mk.inj same)
    rw [← Text.decodeLossy_encode (",".intercalate s.routingFields), encoded,
      Text.decodeLossy_encode]
  · intro same
    rw [computeId, computeId, same]

theorem Normal.id_eq_iff (left : s.Normal) (right : t.Normal) :
    s.id = t.id ↔ s.kind = t.kind ∧ s.eventType = t.eventType ∧ s.path = t.path ∧
      s.method = t.method ∧ (s.kind = .async → s.functionId = t.functionId) := by
  rw [left.id, right.id, computeId_eq_iff, left.intercalate_eq_iff right,
    start_eq_iff left.functionId right.functionId]
  tauto

theorem alphanum_of_mem_computeId {c : Char} (member : c ∈ s.computeId.text.toList) :
    c.isAlphanum = true ∨ c = '-' ∨ c = '_' :=
  Base64.alphanum_of_mem_urlSafe (Base64.mem_digits_of_mem_encode rfl member)

theorem isIdentifier_computeId (s : Subscription) : isIdentifier s.computeId.text = true := by
  rw [isIdentifier, Bool.and_eq_true, Bool.not_eq_true', List.all_eq_true]
  constructor
  · apply Bool.eq_false_iff.mpr
    intro empty
    have nothing : s.computeId.text = Base64.encode Base64.urlSafe [] :=
      String.isEmpty_iff.mp empty
    have bytes := Base64.encode_injective Base64.isDistinct_urlSafe nothing
    have joined : ",".intercalate s.routingFields = "" := by
      rw [← Text.decodeLossy_encode (",".intercalate s.routingFields), bytes]
      rfl
    rw [intercalate_routingFields] at joined
    simp at joined
  · intro c member
    rcases alphanum_of_mem_computeId member with letter | rfl | rfl
    · simp [isIdentifierChar, letter]
    · decide
    · decide

/-- **Ids tell subscriptions apart.** Two subscriptions that normalizing accepts have one id exactly
if they agree in kind, event type, path and method and, where they are async, in the function,
whatever characters these hold. An id is made of letters, digits, hyphens and underscores. -/
theorem ids_tell_apart {given other : Subscription} (ok : given.normalize = (s, none))
    (fine : other.normalize = (t, none)) :
    (s.id = t.id ↔ s.kind = t.kind ∧ s.eventType = t.eventType ∧ s.path = t.path ∧
      s.method = t.method ∧ (s.kind = .async → s.functionId = t.functionId)) ∧
    ∀ c ∈ s.id.text.toList, c.isAlphanum = true ∨ c = '-' ∨ c = '_' := by
  have left := (normal_of_normalize ok).2
  have right := (normal_of_normalize fine).2
  refine ⟨left.id_eq_iff right, fun c member => ?_⟩
  rw [left.id] at member
  exact alphanum_of_mem_computeId member

/-- A comma in a path is not taken for its own escape, and commas in the event type do no harm. -/
theorem escapes_tell_apart :
    let given := ofSync "default" "größe,%2F,GET" "crm" "get" "a,b"
    let other := ofSync "default" "größe,%2F,GET" "mail" "GET" "/a%2Cb"
    (given.normalize = (given.filled, none) ∧ other.normalize = (other.filled, none)) ∧
      given.filled.id ≠ other.filled.id ∧
      ∀ c ∈ given.filled.id.text.toList, c.isAlphanum = true ∨ c = '-' ∨ c = '_' := by
  intro given other
  have ok : given.normalize = (given.filled, none) := by decide +kernel
  have fine : other.normalize = (other.filled, none) := by decide +kernel
  have apart : given.filled.path ≠ other.filled.path := by decide +kernel
  have told := ids_tell_apart ok fine
  exact ⟨⟨ok, fine⟩, fun same => apart (told.1.mp same).2.2.1, told.2⟩

end Identity
end EventRelay.Subscription
