import EventRelay.Json.Reader
import EventRelay.Proofs.Json.Strings
import EventRelay.Proofs.Keyed

set_option autoImplicit false

/-!
Values as JSON text. A value is read from the text that is written for it, wherever the text stands,
if its containers are not nested too deeply and its numbers are read back.
-/
namespace EventRelay.Json

theorem encode_commaSeparated_cons_cons (first second : String) (rest : List String) :
    Text.encode (commaSeparated (first :: second :: rest)) =
      Text.encode first ++ 0x2C :: Text.encode (commaSeparated (second :: rest)) := by
  have comma : Text.encode "," = [0x2C] := by decide +kernel
  rw [commaSeparated, String.intercalate_cons_cons, Text.encode_append, Text.encode_append, comma,
    List.append_assoc]
  rfl

theorem encode_commaSeparated_singleton (text : String) :
    Text.encode (commaSeparated [text]) = Text.encode text := by
  rw [commaSeparated, String.intercalate_singleton]

/-- What may follow a value: nothing, or a byte with which no value goes on. -/
def Ends : Bytes → Prop
  | [] => True
  | byte :: _ => byte = 0x2C ∨ byte = 0x5D ∨ byte = 0x7D

/-- Whether bytes may stand for an item or a member: they do not begin with a blank, nor with what
would end the container. -/
def Starts : Bytes → Prop
  | [] => False
  | byte :: _ => Document.isBlank byte = false ∧ byte ≠ 0x5D ∧ byte ≠ 0x7D

theorem Starts.append {bytes : Bytes} (starts : Starts bytes) (rest : Bytes) :
    Starts (bytes ++ rest) := by
  cases bytes with
  | nil => cases starts
  | cons byte bytes => exact starts

theorem skipBlanks_of_starts {bytes : Bytes} (starts : Starts bytes) :
    Document.skipBlanks bytes = bytes := by
  cases bytes with
  | nil => cases starts
  | cons byte bytes =>
      rw [Document.skipBlanks, List.dropWhile_cons_of_neg]
      simp [starts.1]

theorem starts_commaSeparated {text : String} (starts : Starts (Text.encode text))
    (rest : List String) : Starts (Text.encode (commaSeparated (text :: rest))) := by
  cases rest with
  | nil => rwa [encode_commaSeparated_singleton]
  | cons second rest =>
      rw [encode_commaSeparated_cons_cons]
      exact starts.append _

/-- A value is read from its text at a depth, whatever may follow. -/
structure ReadAt (depth : Nat) (value : Json) : Prop where
  starts : Starts (Text.encode value.compact)
  reads : ∀ fuel rest, Ends rest → (Text.encode value.compact).length ≤ fuel →
    Document.valueAt fuel depth (Text.encode value.compact ++ rest) =
      Document.read (Document.ofJson value) rest

section Scalars
variable (depth : Nat)

theorem valueAt_quote (fuel : Nat) (content : Bytes) :
    Document.valueAt (fuel + 1) depth (0x22 :: content) =
      match Document.stringContent? content with
      | some (pieces, rest) =>
        match Document.contentText? pieces with
        | some text => Document.read (.string text) rest
        | none => Document.read .unreadable rest
      | none => Document.failed := rfl

theorem readAt_null : ReadAt depth .null where
  starts := ⟨by decide, by decide, by decide⟩
  reads fuel rest _ enough := by
    have bytes : Text.encode (compact .null) = [0x6E, 0x75, 0x6C, 0x6C] := by decide +kernel
    rw [bytes] at enough ⊢
    cases fuel with
    | zero => cases enough
    | succ fuel => rfl

theorem readAt_bool (b : Bool) : ReadAt depth (.bool b) where
  starts := by cases b <;> exact ⟨by decide, by decide, by decide⟩
  reads fuel rest _ enough := by
    cases fuel with
    | zero => cases b <;> cases enough
    | succ fuel => cases b <;> rfl

theorem readAt_string (s : String) : ReadAt depth (.string s) where
  starts := by
    rw [compact, Document.encode_stringText]
    exact ⟨by decide, by decide, by decide⟩
  reads fuel rest _ enough := by
    obtain ⟨content, pieces, written, reads, text⟩ := Document.exists_stringContent? s rest
    rw [compact, written]
    cases fuel with
    | zero =>
        rw [compact, Document.encode_stringText] at enough
        cases enough
    | succ fuel =>
        rw [valueAt_quote, reads]
        dsimp only
        rw [text]
        rfl

end Scalars

section Containers
variable {depth : Nat}

section Steps
variable {fuel : Nat} {bytes rest : Bytes} {document : Document}

theorem itemsAt_last
    (reads : Document.valueAt fuel depth bytes = Document.read document (0x5D :: rest)) :
    Document.itemsAt (fuel + 1) depth bytes = ([document], some rest) := by
  simp only [Document.itemsAt, reads]
  rfl

theorem itemsAt_more (starts : Starts rest)
    (reads : Document.valueAt fuel depth bytes = Document.read document (0x2C :: rest)) :
    Document.itemsAt (fuel + 1) depth bytes =
      (document :: (Document.itemsAt fuel depth rest).1, (Document.itemsAt fuel depth rest).2) := by
  have comma : Document.skipBlanks (0x2C :: rest) = 0x2C :: rest := rfl
  simp only [Document.itemsAt, reads, Document.read, comma, skipBlanks_of_starts starts]
  split
  · exact absurd rfl starts.2.1
  · rfl

end Steps

theorem itemsAt_written {first : Json} {items : List Json} (rest : Bytes)
    (all : ∀ item ∈ first :: items, ReadAt depth item) {fuel : Nat}
    (enough : (Text.encode (commaSeparated (compactItems (first :: items)))).length < fuel) :
    Document.itemsAt fuel depth
      (Text.encode (commaSeparated (compactItems (first :: items))) ++ 0x5D :: rest) =
      (Document.ofItems (first :: items), some rest) := by
  induction items generalizing first fuel with
  | nil =>
      obtain ⟨here, -⟩ := List.forall_mem_cons.mp all
      cases fuel with
      | zero => cases enough
      | succ fuel =>
          rw [compactItems, compactItems, encode_commaSeparated_singleton] at enough ⊢
          have ends : Ends (0x5D :: rest) := Or.inr (Or.inl rfl)
          exact itemsAt_last (here.reads fuel _ ends (Nat.le_of_lt_succ enough))
  | cons second items ih =>
      obtain ⟨here, others⟩ := List.forall_mem_cons.mp all
      obtain ⟨next, -⟩ := List.forall_mem_cons.mp others
      cases fuel with
      | zero => cases enough
      | succ fuel =>
          rw [compactItems, compactItems, encode_commaSeparated_cons_cons, ← compactItems,
            List.length_append, List.length_cons] at enough
          rw [compactItems, compactItems, encode_commaSeparated_cons_cons, ← compactItems,
            List.append_assoc, List.cons_append]
          have starts : Starts (Text.encode (commaSeparated (compactItems (second :: items)))) :=
            starts_commaSeparated next.starts _
          rw [itemsAt_more (starts.append _) (here.reads fuel _ (Or.inl rfl) (by omega)),
            ih others (by omega)]
          rfl

/-! Members begin with a quotation mark, so no blank is passed over before one. -/

section Members
variable {fuel : Nat} {rest : Bytes} {document : Document}

theorem membersAt_last {bytes after : Bytes} {pieces : List Document.Piece}
    (named : Document.stringContent? bytes = some (pieces, 0x3A :: after))
    (reads : Document.valueAt fuel depth after = Document.read document (0x7D :: rest)) :
    Document.membersAt (fuel + 1) depth (0x22 :: bytes) =
      ([(Document.contentText? pieces, document)], some rest) := by
  have colon : Document.skipBlanks (0x3A :: after) = 0x3A :: after := rfl
  simp only [Document.membersAt, named, colon, reads]
  rfl

theorem membersAt_more {bytes after : Bytes} {pieces : List Document.Piece} (starts : Starts rest)
    (named : Document.stringContent? bytes = some (pieces, 0x3A :: after))
    (reads : Document.valueAt fuel depth after = Document.read document (0x2C :: rest)) :
    Document.membersAt (fuel + 1) depth (0x22 :: bytes) =
      ((Document.contentText? pieces, document) :: (Document.membersAt fuel depth rest).1,
        (Document.membersAt fuel depth rest).2) := by
  have colon : Document.skipBlanks (0x3A :: after) = 0x3A :: after := rfl
  have comma : Document.skipBlanks (0x2C :: rest) = 0x2C :: rest := rfl
  simp only [Document.membersAt, named, colon, reads, Document.read, comma,
    skipBlanks_of_starts starts]

end Members

theorem encode_member (name : String) (value : Json) :
    Text.encode (stringText name ++ ":" ++ compact value) =
      Text.encode (stringText name) ++ 0x3A :: Text.encode value.compact := by
  have colon : Text.encode ":" = [0x3A] := by decide +kernel
  rw [Text.encode_append, Text.encode_append, colon, List.append_assoc]
  rfl

theorem starts_member (name : String) (value : Json) :
    Starts (Text.encode (stringText name ++ ":" ++ compact value)) := by
  rw [encode_member, Document.encode_stringText]
  exact ⟨by decide, by decide, by decide⟩

theorem membersAt_written {first : String × Json} {members : List (String × Json)} (rest : Bytes)
    (all : ∀ member ∈ first :: members, ReadAt depth member.2) {fuel : Nat}
    (enough : (Text.encode (commaSeparated (compactMembers (first :: members)))).length < fuel) :
    Document.membersAt fuel depth
      (Text.encode (commaSeparated (compactMembers (first :: members))) ++ 0x7D :: rest) =
      (Document.ofMembers (first :: members), some rest) := by
  induction members generalizing first fuel with
  | nil =>
      obtain ⟨name, value⟩ := first
      have here : ReadAt depth value := all _ List.mem_cons_self
      have ends : Ends (0x7D :: rest) := Or.inr (Or.inr rfl)
      cases fuel with
      | zero => cases enough
      | succ fuel =>
          rw [compactMembers, compactMembers, encode_commaSeparated_singleton, encode_member,
            List.length_append, List.length_cons] at enough
          rw [compactMembers, compactMembers, encode_commaSeparated_singleton, encode_member]
          obtain ⟨content, pieces, written, named, text⟩ := Document.exists_stringContent? name
            (0x3A :: (Text.encode value.compact ++ 0x7D :: rest))
          rw [List.append_assoc, List.cons_append, written,
            membersAt_last named (here.reads fuel _ ends (by omega)), text]
          rfl
  | cons second members ih =>
      obtain ⟨name, value⟩ := first
      obtain ⟨other, found⟩ := second
      have here : ReadAt depth value := all _ List.mem_cons_self
      have starts :
          Starts (Text.encode (commaSeparated (compactMembers ((other, found) :: members)))) :=
        starts_commaSeparated (starts_member ..) _
      cases fuel with
      | zero => cases enough
      | succ fuel =>
          rw [compactMembers, compactMembers, encode_commaSeparated_cons_cons, ← compactMembers,
            encode_member, List.length_append, List.length_append, List.length_cons,
            List.length_cons] at enough
          rw [compactMembers, compactMembers, encode_commaSeparated_cons_cons, ← compactMembers,
            encode_member, List.append_assoc, List.append_assoc, List.cons_append, List.cons_append]
          obtain ⟨content, pieces, written, named, text⟩ := Document.exists_stringContent? name
            (0x3A :: (Text.encode value.compact ++ 0x2C ::
              (Text.encode (commaSeparated (compactMembers ((other, found) :: members))) ++
                0x7D :: rest)))
          rw [written, membersAt_more (starts.append _) named
              (here.reads fuel _ (Or.inl rfl) (by omega)), text,
            ih (fun member listed => all member (List.mem_cons_of_mem _ listed)) (by omega)]
          rfl

section Whole
variable (shallow : depth < Document.maxDepth) {fuel : Nat} {bytes rest : Bytes}
include shallow

theorem container_of_shallow (document : Document) :
    Document.container depth true document = document := if_pos shallow

theorem valueAt_no_items : Document.valueAt (fuel + 1) depth (0x5B :: 0x5D :: rest) =
    Document.read (.array [] true) rest := by
  rw [← container_of_shallow shallow (.array [] true)]
  rfl

theorem valueAt_items (starts : Starts bytes) {documents : List Document}
    (reads : Document.itemsAt fuel (depth + 1) bytes = (documents, some rest)) :
    Document.valueAt (fuel + 1) depth (0x5B :: bytes) =
      Document.read (.array documents true) rest := by
  have opening : Document.skipBlanks (0x5B :: bytes) = 0x5B :: bytes := rfl
  rw [← container_of_shallow shallow (.array documents true)]
  simp only [Document.valueAt, opening, skipBlanks_of_starts starts]
  split
  · exact absurd rfl starts.2.1
  · simp only [reads]
    rfl

theorem valueAt_no_members : Document.valueAt (fuel + 1) depth (0x7B :: 0x7D :: rest) =
    Document.read (.object [] true) rest := by
  rw [← container_of_shallow shallow (.object [] true)]
  rfl

theorem valueAt_members (starts : Starts bytes) {documents : List (Option String × Document)}
    (reads : Document.membersAt fuel (depth + 1) bytes = (documents, some rest)) :
    Document.valueAt (fuel + 1) depth (0x7B :: bytes) =
      Document.read (.object documents true) rest := by
  have opening : Document.skipBlanks (0x7B :: bytes) = 0x7B :: bytes := rfl
  rw [← container_of_shallow shallow (.object documents true)]
  simp only [Document.valueAt, opening, skipBlanks_of_starts starts]
  split
  · exact absurd rfl starts.2.2
  · simp only [reads]
    rfl

theorem readAt_array {items : List Json} (all : ∀ item ∈ items, ReadAt (depth + 1) item) :
    ReadAt depth (.array items) := by
  have bytes : Text.encode (compact (.array items)) =
      0x5B :: (Text.encode (commaSeparated (compactItems items)) ++ [0x5D]) := by
    have opening : Text.encode "[" = [0x5B] := by decide +kernel
    have closing : Text.encode "]" = [0x5D] := by decide +kernel
    rw [compact, Text.encode_append, Text.encode_append, opening, closing]
    rfl
  refine ⟨by rw [bytes]; exact ⟨by decide, by decide, by decide⟩, fun fuel rest _ enough => ?_⟩
  rw [bytes] at enough ⊢
  rw [List.length_cons, List.length_append, List.length_singleton] at enough
  cases fuel with
  | zero => cases enough
  | succ fuel =>
      rw [List.cons_append, List.append_assoc, List.singleton_append]
      cases items with
      | nil => exact valueAt_no_items shallow
      | cons first items =>
          have starts : Starts (Text.encode (commaSeparated (compactItems (first :: items)))) :=
            starts_commaSeparated (all first List.mem_cons_self).starts _
          exact valueAt_items shallow (starts.append _) (itemsAt_written rest all (by omega))

theorem readAt_object {members : List (String × Json)}
    (all : ∀ member ∈ members, ReadAt (depth + 1) member.2) : ReadAt depth (.object members) := by
  have bytes : Text.encode (compact (.object members)) =
      0x7B :: (Text.encode (commaSeparated (compactMembers members)) ++ [0x7D]) := by
    have opening : Text.encode "\x7b" = [0x7B] := by decide +kernel
    have closing : Text.encode "\x7d" = [0x7D] := by decide +kernel
    rw [compact, Text.encode_append, Text.encode_append, opening, closing]
    rfl
  refine ⟨by rw [bytes]; exact ⟨by decide, by decide, by decide⟩, fun fuel rest _ enough => ?_⟩
  rw [bytes] at enough ⊢
  rw [List.length_cons, List.length_append, List.length_singleton] at enough
  cases fuel with
  | zero => cases enough
  | succ fuel =>
      rw [List.cons_append, List.append_assoc, List.singleton_append]
      cases members with
      | nil => exact valueAt_no_members shallow
      | cons first members =>
          obtain ⟨name, value⟩ := first
          have starts :
              Starts (Text.encode (commaSeparated (compactMembers ((name, value) :: members)))) :=
            starts_commaSeparated (starts_member ..) _
          exact valueAt_members shallow (starts.append _) (membersAt_written rest all (by omega))

end Whole
end Containers

/-- A value at a depth that is read back from its text: containers are not nested too deeply, and
numbers are read back. -/
inductive Legible : Nat → Json → Prop
  | null (depth : Nat) : Legible depth .null
  | bool (depth : Nat) (b : Bool) : Legible depth (.bool b)
  | number {depth : Nat} {n : Number} (reads : ReadAt depth (.number n)) : Legible depth (.number n)
  | string (depth : Nat) (s : String) : Legible depth (.string s)
  | array {depth : Nat} {items : List Json} (shallow : depth < Document.maxDepth)
      (all : ∀ item ∈ items, Legible (depth + 1) item) : Legible depth (.array items)
  | object {depth : Nat} {members : List (String × Json)} (shallow : depth < Document.maxDepth)
      (all : ∀ member ∈ members, Legible (depth + 1) member.2) : Legible depth (.object members)

theorem legible_ofMembers {depth : Nat} {members : List (String × Json)}
    (shallow : depth < Document.maxDepth)
    (all : ∀ member ∈ members, Legible (depth + 1) member.2) : Legible depth (ofMembers members) :=
  .object shallow fun member listed => all member (Keyed.mem_of_mem_ofList listed)

theorem legible_strings {depth : Nat} (shallow : depth < Document.maxDepth)
    (texts : List String) : Legible depth (strings texts) := by
  refine .array shallow fun item member => ?_
  obtain ⟨text, -, rfl⟩ := List.mem_map.mp member
  exact .string _ text

/-- A legible value is read wherever its text stands. -/
theorem Legible.readAt {depth : Nat} {value : Json} (legible : Legible depth value) :
    ReadAt depth value := by
  induction legible with
  | null depth => exact readAt_null depth
  | bool depth b => exact readAt_bool depth b
  | number reads => exact reads
  | string depth s => exact readAt_string depth s
  | array shallow _ ih => exact readAt_array shallow ih
  | object shallow _ ih => exact readAt_object shallow ih

/-- The text that is written for a value is read as the value. -/
def ReadsBack (value : Json) : Prop :=
  Document.ofBytes (Text.encode value.compact) = (Document.ofJson value, true)

section Back
variable {value : Json}

theorem ReadsBack.readBytes_eq {α : Type} (back : value.ReadsBack) (reader : Reader α) :
    readBytes reader (Text.encode value.compact) = readValue reader value := by
  rw [readBytes, back, readValue]
  change (reader (Document.ofJson value)).bind pure = reader (Document.ofJson value)
  cases reader (Document.ofJson value) <;> rfl

theorem ReadsBack.isEmpty_eq_false (back : value.ReadsBack) :
    (Text.encode value.compact).isEmpty = false := by
  cases written : Text.encode value.compact with
  | cons byte rest => rfl
  | nil =>
      have ended : (Document.ofBytes []).2 = false := rfl
      rw [ReadsBack, written] at back
      rw [back] at ended
      cases ended

theorem Legible.readsBack (legible : Legible 0 value) : value.ReadsBack := by
  have reads :=
    legible.readAt.reads (2 * (Text.encode value.compact).length + 2) [] trivial (by omega)
  rw [List.append_nil] at reads
  simp only [ReadsBack, Document.ofBytes, reads]
  rfl

end Back
end EventRelay.Json
