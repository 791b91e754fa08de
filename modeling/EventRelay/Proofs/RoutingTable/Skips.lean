import EventRelay.Proofs.Route.Remains
import EventRelay.Proofs.RoutingTable.Routes
import EventRelay.Proofs.RoutingTable.Subscribers

set_option autoImplicit false

/-!
Subscriptions that a table leaves out while it is built. One is left out for a wildcard that is not
last, for a route that the table has kept, or for what another one left out has laid down before a
misplaced wildcard; and unless it lays down something itself, no lookup would change without it.
-/
namespace EventRelay.RoutingTable

open Route (WildcardLast Compatible Alongside laid)

/-- The subscriptions that find their place when they are added to a table in order. -/
def joined (table : RoutingTable) : List Subscription → List Subscription
  | [] => []
  | s :: rest =>
    if table.refuses s then joined (table.insert s) rest else s :: joined (table.insert s) rest

/-- The subscriptions that a table keeps when it is built. -/
def kept (subscriptions : List Subscription) : List Subscription := joined empty subscriptions

/-- Two sync subscriptions whose routes stand in one tree. -/
def ShareTree (s t : Subscription) : Prop :=
  s.kind = .sync ∧ t.kind = .sync ∧ syncKey s = syncKey t

instance (s t : Subscription) : Decidable (ShareTree s t) :=
  inferInstanceAs (Decidable (_ ∧ _ ∧ _))

/-- The values of a table are those of the subscriptions it kept, and its nodes stand along their
routes or along what those with a misplaced wildcard have laid down. -/
structure Grown (table : RoutingTable) (held out : List Subscription) : Prop where
  stores : Stores table held
  nodes : ∀ key route, (table.tree key).HasNode route → route = [] ∨
    (∃ s ∈ held, s.kind = .sync ∧ syncKey s = key ∧ route <+: s.route) ∨
    ∃ s ∈ out, s.kind = .sync ∧ syncKey s = key ∧ ¬ WildcardLast s.route ∧
      route <+: laid s.route

theorem grown_empty : Grown empty [] [] where
  stores key route found := by simp [tree_empty]
  nodes _ route node := Or.inl ((Route.Tree.hasNode_empty_iff route).mp node)

theorem refuses_of_async (table : RoutingTable) {s : Subscription} (kind : s.kind = .async) :
    table.refuses s = false := by
  simp [refuses, kind]

section Insert
variable {table : RoutingTable} {held out : List Subscription} {s : Subscription}

theorem Grown.insert_async (grown : Grown table held out) (kind : s.kind = .async) :
    Grown (table.insert s) (held ++ [s]) out where
  stores := grown.stores.insert_async kind
  nodes key route node := by
    rw [tree_insert_async table kind] at node
    rcases grown.nodes key route node with root | ⟨t, member, along⟩ | left
    · exact Or.inl root
    · exact Or.inr (Or.inl ⟨t, List.mem_append_left _ member, along⟩)
    · exact Or.inr (Or.inr left)

theorem Grown.insert_taken (grown : Grown table held out) (kind : s.kind = .sync)
    (taken : table.refuses s = false) : Grown (table.insert s) (held ++ [s]) out where
  stores := grown.stores.insert_sync kind taken
  nodes key route node := by
    have before : (table.tree key).HasNode route → route = [] ∨
        (∃ t ∈ held ++ [s], t.kind = .sync ∧ syncKey t = key ∧ route <+: t.route) ∨
        ∃ t ∈ out, t.kind = .sync ∧ syncKey t = key ∧ ¬ WildcardLast t.route ∧
          route <+: laid t.route := by
      intro there
      rcases grown.nodes key route there with root | ⟨t, member, along⟩ | left
      · exact Or.inl root
      · exact Or.inr (Or.inl ⟨t, List.mem_append_left _ member, along⟩)
      · exact Or.inr (Or.inr left)
    rw [tree_insert_sync table kind] at node
    by_cases same : syncKey s = key
    · rw [if_pos same] at node
      rcases (Route.Tree.hasNode_addPattern ..).mp node with there | ⟨part, -⟩
      · exact before there
      · have along : route <+: s.route := part.trans (Route.laid_isPrefix s.route)
        exact Or.inr (Or.inl ⟨s, List.mem_append_right _ List.mem_cons_self, kind, same, along⟩)
    · rw [if_neg same] at node
      exact before node

/-- A subscription that is left out changes no value, and adds nodes only for a misplaced
wildcard. -/
theorem Grown.insert_refused (grown : Grown table held out) (kind : s.kind = .sync)
    (refused : table.refuses s = true) : Grown (table.insert s) held (out ++ [s]) := by
  have outcome : (Route.Tree.addPattern s.path (target s) s.route
      (table.tree (syncKey s))).2 ≠ none := by
    intro taken
    rw [(refuses_eq_false_iff table kind).mpr taken] at refused
    cases refused
  constructor
  · intro key route found
    rw [← grown.stores key route found, tree_insert_sync table kind]
    by_cases same : syncKey s = key
    · subst same
      rw [if_pos rfl]
      have added := Route.Tree.stored_addPattern s.path (target s) s.route route
        (table.tree (syncKey s))
      rw [if_neg fun both => outcome both.1] at added
      exact iff_of_eq (congrArg (· = some found) added)
    · rw [if_neg same]
  · intro key route node
    have before : (table.tree key).HasNode route → route = [] ∨
        (∃ t ∈ held, t.kind = .sync ∧ syncKey t = key ∧ route <+: t.route) ∨
        ∃ t ∈ out ++ [s], t.kind = .sync ∧ syncKey t = key ∧ ¬ WildcardLast t.route ∧
          route <+: laid t.route := by
      intro there
      rcases grown.nodes key route there with root | along | ⟨t, member, left⟩
      · exact Or.inl root
      · exact Or.inr (Or.inl along)
      · exact Or.inr (Or.inr ⟨t, List.mem_append_left _ member, left⟩)
    rw [tree_insert_sync table kind] at node
    by_cases same : syncKey s = key
    · subst same
      rw [if_pos rfl] at node
      by_cases last : WildcardLast s.route
      · exact before ((Route.Tree.hasNode_of_refused _ _ last outcome route).mp node)
      · rcases (Route.Tree.hasNode_addPattern ..).mp node with there | ⟨part, -⟩
        · exact before there
        · exact Or.inr (Or.inr
            ⟨s, List.mem_append_right _ List.mem_cons_self, kind, rfl, last, part⟩)
    · rw [if_neg same] at node
      exact before node

theorem Grown.of_refuses (grown : Grown table held out) (refused : table.refuses s = true) :
    ¬ WildcardLast s.route ∨ (∃ t ∈ held, ShareTree t s ∧ ¬ Compatible t.route s.route) ∨
      ∃ t ∈ out, ShareTree t s ∧ ¬ WildcardLast t.route ∧ ¬ Alongside (laid t.route) s.route := by
  cases kind : s.kind with
  | async =>
      rw [refuses_of_async table kind] at refused
      cases refused
  | sync =>
      by_contra nothing
      rw [not_or, not_or, not_not] at nothing
      obtain ⟨last, compatible, alongside⟩ := nothing
      have apart : ∀ t ∈ held, t.kind = .sync → syncKey t = syncKey s →
          Compatible s.route t.route := by
        intro t member other same
        by_contra clash
        exact compatible ⟨t, member, ⟨other, kind, same⟩, fun both => clash both.symm⟩
      have free : (table.tree (syncKey s)).stored s.route = none := by
        rw [Option.eq_none_iff_forall_ne_some]
        intro found valued
        obtain ⟨t, member, other, same, route, -⟩ := (grown.stores _ _ _).mp valued
        have clash := apart t member other same
        rw [route] at clash
        exact Route.not_compatible_self s.route clash
      have clear : (table.tree (syncKey s)).Clear s.route := by
        intro q node
        rcases grown.nodes _ q node with rfl | ⟨t, member, other, same, part⟩ |
          ⟨t, member, other, same, misplaced, part⟩
        · exact Route.alongside_nil s.route
        · have whole : Alongside s.route t.route := Or.inr (apart t member other same)
          exact whole.of_isPrefix part
        · by_contra blocked
          refine alongside ⟨t, member, ⟨other, kind, same⟩, misplaced, fun beside => ?_⟩
          exact blocked (beside.symm.of_isPrefix part)
      have taken : table.refuses s = false := by
        rw [refuses_eq_false_iff table kind]
        exact (Route.Tree.addPattern_eq_none_iff_clear ..).mpr ⟨last, free, clear⟩
      rw [taken] at refused
      cases refused

/-- A subscription whose wildcard is not last, or whose route is not compatible with one that was
kept, is left out. -/
theorem Grown.refuses (grown : Grown table held out) (kind : s.kind = .sync)
    (reason : ¬ WildcardLast s.route ∨
      ∃ t ∈ held, ShareTree t s ∧ ¬ Compatible t.route s.route) : table.refuses s = true := by
  by_contra taken
  have accepted := (refuses_eq_false_iff table kind).mp (Bool.eq_false_of_not_eq_true taken)
  obtain ⟨last, fits⟩ := Route.Tree.fits_of_addPattern s.path (target s) accepted
  rcases reason with misplaced | ⟨t, member, shared, clash⟩
  · exact misplaced last
  · have valued := (grown.stores (syncKey s) t.route (target t)).mpr
      ⟨t, member, shared.1, shared.2.2, rfl, rfl⟩
    exact clash (fits t.route (target t) valued).symm

theorem Grown.foldl (grown : Grown table held out) (rest : List Subscription) :
    Grown (rest.foldl insert table) (held ++ joined table rest) (out ++ leftOut table rest) := by
  induction rest generalizing table held out with
  | nil => simpa [joined, leftOut] using grown
  | cons s rest ih =>
      rw [List.foldl_cons]
      cases refused : table.refuses s with
      | true =>
          have kind : s.kind = .sync := by
            cases kind : s.kind with
            | sync => rfl
            | async =>
                rw [refuses_of_async table kind] at refused
                cases refused
          have next := ih (grown.insert_refused kind refused)
          simpa [joined, leftOut, refused] using next
      | false =>
          have after : Grown (table.insert s) (held ++ [s]) out := by
            cases kind : s.kind with
            | async => exact grown.insert_async kind
            | sync => exact grown.insert_taken kind refused
          have next := ih after
          simpa [joined, leftOut, refused] using next

end Insert

theorem grown_build (subscriptions : List Subscription) :
    Grown (build subscriptions) (kept subscriptions) (skipped subscriptions) :=
  grown_empty.foldl subscriptions

/-- Two tables whose trees differ by nothing but empty nodes along one route of one tree. -/
def DifferAlong (key : SyncKey) (r : List Route.Segment) (table other : RoutingTable) : Prop :=
  ∀ k, Route.Tree.Overgrown (if k = key then r else []) (table.tree k) (other.tree k)

section DifferAlong
variable {key : SyncKey} {r : List Route.Segment} {table other : RoutingTable}

theorem DifferAlong.insert (differ : DifferAlong key r table other) {s : Subscription}
    (beside : s.kind = .sync → syncKey s = key → Alongside r s.route) :
    DifferAlong key r (table.insert s) (other.insert s) := by
  intro k
  cases kind : s.kind with
  | async =>
      rw [tree_insert_async table kind, tree_insert_async other kind]
      exact differ k
  | sync =>
      rw [tree_insert_sync table kind, tree_insert_sync other kind]
      by_cases same : syncKey s = k
      · rw [if_pos same, if_pos same]
        refine (differ k).addPattern ?_ s.path (target s)
        by_cases here : k = key
        · rw [if_pos here]
          exact (beside kind (same.trans here)).symm
        · rw [if_neg here]
          exact Route.alongside_nil s.route
      · rw [if_neg same, if_neg same]
        exact differ k

theorem DifferAlong.foldl (differ : DifferAlong key r table other) {rest : List Subscription}
    (beside : ∀ s ∈ rest, s.kind = .sync → syncKey s = key → Alongside r s.route) :
    DifferAlong key r (rest.foldl RoutingTable.insert table)
      (rest.foldl RoutingTable.insert other) := by
  induction rest generalizing table other with
  | nil => exact differ
  | cons s rest ih =>
      obtain ⟨first, others⟩ := List.forall_mem_cons.mp beside
      exact ih (differ.insert first) others

theorem DifferAlong.syncTarget_eq (differ : DifferAlong key r table other)
    (space method path : String) (type : EventType) :
    table.syncTarget space method path type = other.syncTarget space method path type := by
  rw [syncTarget_eq_resolve, syncTarget_eq_resolve]
  exact (differ _).resolve_eq path

/-- What a refused subscription leaves: at most the nodes that it has laid down before a misplaced
wildcard. -/
theorem exists_differAlong_of_refuses {s : Subscription} (refused : table.refuses s = true) :
    ∃ r, (r = [] ∨ (r = laid s.route ∧ ¬ WildcardLast s.route)) ∧
      DifferAlong (syncKey s) r (table.insert s) table := by
  cases kind : s.kind with
  | async =>
      rw [refuses_of_async table kind] at refused
      cases refused
  | sync =>
      have outcome := mt (refuses_eq_false_iff table kind).mpr (by simp [refused])
      obtain ⟨r, leaves, overgrown⟩ :=
        Route.Tree.exists_overgrown_of_refused s.path (target s) outcome
      refine ⟨r, leaves, fun k => ?_⟩
      rw [tree_insert_sync table kind]
      by_cases same : syncKey s = k
      · subst same
        rw [if_pos rfl, if_pos rfl]
        exact overgrown
      · rw [if_neg same, if_neg (Ne.symm same)]
        exact Route.Tree.overgrown_self _

end DifferAlong

theorem subscribers_build_of_sync (before after : List Subscription) {s : Subscription}
    (kind : s.kind = .sync) (space path : String) (type : EventType) :
    (build (before ++ s :: after)).subscribers space path type =
      (build (before ++ after)).subscribers space path type := by
  apply (ascending_subscribers_build _ space path type).ext
  · exact ascending_subscribers_build _ space path type
  · intro id
    rw [mem_subscribers_build, mem_subscribers_build]
    constructor
    · intro listed
      obtain ⟨t, member, async, same⟩ := listed
      refine ⟨t, ?_, async, same⟩
      rcases List.mem_append.mp member with early | late
      · exact List.mem_append_left _ early
      · rcases List.mem_cons.mp late with rfl | later
        · rw [kind] at async
          cases async
        · exact List.mem_append_right _ later
    · intro listed
      obtain ⟨t, member, async, same⟩ := listed
      have sublist : (before ++ after).Sublist (before ++ s :: after) :=
        (List.sublist_cons_self s after).append_left before
      exact ⟨t, sublist.subset member, async, same⟩

/-- Why a table leaves a sync subscription out while it is built, and what it would be without it.
It is left out only for a wildcard that is not last, for a route of the same tree that was kept and
is not compatible with its own, or because it does not go alongside what another one left out has
laid down before a misplaced wildcard; and for one of the first two reasons it is left out always.
Without it every lookup would be the same, unless its own wildcard is misplaced and a later route of
the same tree does not go alongside what comes before this wildcard. -/
theorem skipped_for_conflict_or_remains (before after : List Subscription) (s : Subscription) :
    ((build before).refuses s = true → ¬ WildcardLast s.route ∨
      (∃ t ∈ kept before, ShareTree t s ∧ ¬ Compatible t.route s.route) ∨
      ∃ t ∈ skipped before, ShareTree t s ∧ ¬ WildcardLast t.route ∧
        ¬ Alongside (laid t.route) s.route) ∧
    (s.kind = .sync → (¬ WildcardLast s.route ∨
      ∃ t ∈ kept before, ShareTree t s ∧ ¬ Compatible t.route s.route) →
      (build before).refuses s = true) ∧
    ((build before).refuses s = true →
      (WildcardLast s.route ∨ ∀ t ∈ after, ShareTree t s → Alongside (laid s.route) t.route) →
      (∀ space path type, (build (before ++ s :: after)).subscribers space path type =
        (build (before ++ after)).subscribers space path type) ∧
      ∀ space method path type, (build (before ++ s :: after)).syncTarget space method path type =
        (build (before ++ after)).syncTarget space method path type) := by
  have grown := grown_build before
  refine ⟨grown.of_refuses, grown.refuses, fun refused harmless => ?_⟩
  have kind : s.kind = .sync := by
    cases kind : s.kind with
    | sync => rfl
    | async =>
        rw [refuses_of_async _ kind] at refused
        cases refused
  refine ⟨subscribers_build_of_sync before after kind, ?_⟩
  obtain ⟨r, leaves, differ⟩ := exists_differAlong_of_refuses refused
  have beside : ∀ t ∈ after, t.kind = .sync → syncKey t = syncKey s → Alongside r t.route := by
    intro t member other same
    rcases leaves with rfl | ⟨rfl, misplaced⟩
    · exact Route.nil_alongside t.route
    · exact harmless.resolve_left misplaced t member ⟨other, kind, same⟩
  have whole := differ.foldl beside
  intro space method path type
  rw [build, build, List.foldl_append, List.foldl_append, List.foldl_cons]
  exact whole.syncTarget_eq space method path type

/-- A subscription of plain GET requests on a path. -/
def exampleGet (function path : String) : Subscription :=
  .ofSync "default" "http.request" function "GET" path

/-- The route `/users/me` is left out for `/users/:id`, not for what `/a/*rest/b` has laid down, and
without it every path leads to the same. -/
theorem exampleSkipped_changes_nothing :
    (build [exampleGet "user" "/users/:id", exampleGet "files" "/a/*rest/b"]).refuses
      (exampleGet "me" "/users/me") = true ∧
    Route.WildcardLast (exampleGet "me" "/users/me").route ∧
    ∀ method path, (build [exampleGet "user" "/users/:id", exampleGet "files" "/a/*rest/b",
        exampleGet "me" "/users/me", exampleGet "list" "/users"]).syncTarget "default" method path
          .httpRequest =
      (build [exampleGet "user" "/users/:id", exampleGet "files" "/a/*rest/b",
        exampleGet "list" "/users"]).syncTarget "default" method path .httpRequest := by
  obtain ⟨-, refuses, harmless⟩ := skipped_for_conflict_or_remains
    [exampleGet "user" "/users/:id", exampleGet "files" "/a/*rest/b"] [exampleGet "list" "/users"]
    (exampleGet "me" "/users/me")
  have last : WildcardLast (exampleGet "me" "/users/me").route := by decide +kernel
  have clash : ∃ t ∈ kept [exampleGet "user" "/users/:id", exampleGet "files" "/a/*rest/b"],
      ShareTree t (exampleGet "me" "/users/me") ∧
        ¬ Compatible t.route (exampleGet "me" "/users/me").route := by
    decide +kernel
  have refused := refuses rfl (Or.inr clash)
  refine ⟨refused, last, fun method path => ?_⟩
  exact (harmless refused (Or.inl last)).2 "default" method path .httpRequest

/-- The route `/a/*rest/b` is left out, as its wildcard is misplaced, and yet it keeps out `/:id`,
which is in the way of nothing that the table has kept: alone, `/:id` answers. -/
theorem misplaced_wildcard_keeps_others_out :
    kept [exampleGet "files" "/a/*rest/b"] = [] ∧
    WildcardLast (exampleGet "item" "/:id").route ∧
    (build [exampleGet "files" "/a/*rest/b"]).refuses (exampleGet "item" "/:id") = true ∧
    (build [exampleGet "files" "/a/*rest/b", exampleGet "item" "/:id"]).syncTarget "default" "GET"
      "/7" .httpRequest = none ∧
    (build [exampleGet "item" "/:id"]).syncTarget "default" "GET" "/7" .httpRequest =
      some (⟨⟨"item"⟩, none⟩, [("id", "7")]) := by
  decide +kernel

end EventRelay.RoutingTable
