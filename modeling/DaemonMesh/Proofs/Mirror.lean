import DaemonMesh.Proofs.LossFates
import DaemonMesh.Proofs.ServedNames
import DaemonMesh.Proofs.SteadySessions

namespace DaemonMesh

/-- What a subscriber notes about a router: the names that it has registered, and how often each
session is bound under each. -/
abbrev Mirror := OrderedMap String (SessionId → Nat)

namespace Mirror

def count (mirror : Mirror) (name : String) (session : SessionId) : Nat :=
  (mirror.find? name).elim 0 fun counts => counts session

/-- A name that is missing comes with no sessions. -/
def add (mirror : Mirror) (name : String) : Mirror :=
  if (mirror.find? name).isSome then mirror else mirror.insert name fun _ => 0

/-- Changes what is noted of one session. -/
def settle (mirror : Mirror) (name : String) (session : SessionId) (change : Nat → Nat) : Mirror :=
  match mirror.find? name with
  | none => mirror
  | some counts =>
    mirror.insert name fun other => if other = session then change (counts other) else counts other

/-- A call that has bound a session counts one binding more. -/
def noteBinding (mirror : Mirror) (name : String) (session : SessionId) :
    Except Failure Link → Mirror
  | .ok _ => mirror.settle name session (· + 1)
  | .error _ => mirror

/-- What the subscriber makes of an event. -/
def hear (mirror : Mirror) : RouteEvent → Mirror
  | .retired name => mirror.erase name
  | .sessionLost name session _ => mirror.settle name session fun _ => 0

variable {mirror : Mirror} {name : String}

/-- A name is added in its place. -/
theorem ascending_add (ascending : mirror.Ascending) (name : String) :
    (mirror.add name).Ascending := by
  unfold add
  split
  · exact ascending
  · exact ascending.insert name _

@[simp] theorem isSome_add (mirror : Mirror) (name other : String) :
    ((mirror.add name).find? other).isSome = true ↔
      other = name ∨ (mirror.find? other).isSome = true := by
  unfold add
  by_cases same : other = name
  · rw [same]
    split
    · next present => simp [present]
    · simp
  · split <;> simp [same]

/-- A name that is new has no bindings yet, and a name that is known keeps its counts. -/
@[simp] theorem count_add (mirror : Mirror) (name other : String) (session : SessionId) :
    (mirror.add name).count other session = mirror.count other session := by
  unfold add
  split
  · rfl
  · next absent =>
    unfold count
    by_cases same : other = name
    · simp [same, Option.not_isSome_iff_eq_none.mp absent]
    · simp [same]

theorem ascending_settle (ascending : mirror.Ascending) (name : String) (session : SessionId)
    (change : Nat → Nat) : (mirror.settle name session change).Ascending := by
  unfold settle
  split
  · exact ascending
  · exact ascending.insert name _

/-- A change of one count concerns one name, and only if the mirror has it. -/
theorem find?_settle (mirror : Mirror) (name : String) (session : SessionId) (change : Nat → Nat)
    (other : String) : (mirror.settle name session change).find? other =
      if other = name then (mirror.find? name).map fun counts taken =>
        if taken = session then change (counts taken) else counts taken
      else mirror.find? other := by
  unfold settle
  by_cases same : other = name
  · rw [if_pos same, same]
    split
    · next absent => simp [absent]
    · next present => simp [present]
  · split <;> simp [same]

theorem isSome_settle (mirror : Mirror) (name : String) (session : SessionId)
    (change : Nat → Nat) (other : String) :
    ((mirror.settle name session change).find? other).isSome = (mirror.find? other).isSome := by
  rw [find?_settle]
  split
  · next same => rw [same, Option.isSome_map]
  · rfl

theorem count_settle (mirror : Mirror) {name : String} (present : (mirror.find? name).isSome = true)
    (session : SessionId) (change : Nat → Nat) (other : String) (taken : SessionId) :
    (mirror.settle name session change).count other taken =
      if other = name ∧ taken = session then change (mirror.count name session)
      else mirror.count other taken := by
  obtain ⟨counts, found⟩ := Option.isSome_iff_exists.mp present
  unfold count
  rw [find?_settle]
  by_cases same : other = name
  · by_cases hit : taken = session <;> simp [same, hit, found]
  · simp [same]

/-- The losses of one event sequence can be heard together, since each of them sets a count to zero
whatever it was. -/
theorem foldl_hear_lost (mirror : Mirror) (lost : List (String × SessionId)) (reason : LossReason)
    (name : String) :
    ((lost.map fun pair => RouteEvent.sessionLost pair.1 pair.2 reason).foldl hear mirror).find?
        name =
      (mirror.find? name).map fun counts session =>
        if (name, session) ∈ lost then 0 else counts session := by
  induction lost generalizing mirror with
  | nil => simp
  | cons pair rest ih =>
    rw [List.map_cons, List.foldl_cons, ih]
    show ((mirror.settle pair.1 pair.2 fun _ => 0).find? name).map _ = _
    rw [find?_settle]
    by_cases same : name = pair.1
    · rw [if_pos same, Option.map_map, ← same]
      congr 1
      funext counts session
      by_cases hit : session = pair.2
      · simp [same, hit]
      · have apart : (name, session) ≠ pair := fun equal => hit (congrArg Prod.snd equal)
        simp [hit, apart]
    · rw [if_neg same]
      congr 1
      funext counts session
      have apart : (name, session) ≠ pair := fun equal => same (congrArg Prod.fst equal)
      simp [apart]

/-- Names that are retired go, in whatever order they are heard. -/
theorem foldl_hear_retired (mirror : Mirror) (retired : List String) (name : String) :
    ((retired.map RouteEvent.retired).foldl hear mirror).find? name =
      if name ∈ retired then none else mirror.find? name := by
  induction retired generalizing mirror with
  | nil => simp
  | cons first rest ih =>
    rw [List.map_cons, List.foldl_cons, ih]
    show (if name ∈ rest then none else (mirror.erase first).find? name) = _
    by_cases same : name = first <;> by_cases later : name ∈ rest <;> simp [same, later]

/-- What is noted once all events of a loss are heard. -/
theorem find?_hear (mirror : Mirror) (report : LossReport) (reason : LossReason) (name : String) :
    ((report.events reason).foldl hear mirror).find? name =
      if name ∈ report.retired then none
      else (mirror.find? name).map fun counts session =>
        if (name, session) ∈ report.lost then 0 else counts session := by
  unfold LossReport.events
  rw [List.foldl_append, foldl_hear_retired, foldl_hear_lost]

theorem ascending_hear (ascending : mirror.Ascending) (events : List RouteEvent) :
    (events.foldl hear mirror).Ascending := by
  induction events generalizing mirror with
  | nil => exact ascending
  | cons event rest ih =>
    refine ih ?_
    cases event with
    | retired name => exact ascending.erase name
    | sessionLost name session reason => exact ascending_settle ascending name session _

/-- What is noted of one session after a loss, as long as the name itself stays. -/
theorem count_hear (mirror : Mirror) (report : LossReport) (reason : LossReason)
    (stands : name ∉ report.retired) (session : SessionId) :
    ((report.events reason).foldl hear mirror).count name session =
      if (name, session) ∈ report.lost then 0 else mirror.count name session := by
  unfold count
  rw [find?_hear, if_neg stands]
  cases mirror.find? name with
  | none => exact (ite_self 0).symm
  | some counts => rfl

/-- The notes on a name agree with the endpoint behind it. Sessions whose bindings all ride on one
link are the reason why one event tells of them all. -/
structure Notes (mirror : Mirror) (name : String) (endpoint : Endpoint) : Prop where
  started : endpoint.state = .started
  steady : endpoint.routes.Steady
  counted : ∀ session, session ≠ .direct →
    mirror.count name session = (endpoint.routes.candidates session).length

variable {changed : Mirror} {endpoint after : Endpoint} {session : SessionId} {link : Link}

theorem Notes.of_count (notes : mirror.Notes name endpoint)
    (same : ∀ session, changed.count name session = mirror.count name session) :
    changed.Notes name endpoint where
  started := notes.started
  steady := notes.steady
  counted session nonzero := (same session).trans (notes.counted session nonzero)

/-- A binding that the default selector has picked counts one more. -/
theorem Notes.bind (notes : mirror.Notes name endpoint)
    (present : (mirror.find? name).isSome = true)
    (chosen : Selector.chooseFirst endpoint.routes session = some link)
    (bound : endpoint.bind session link = .ok after) :
    (mirror.settle name session (· + 1)).Notes name after := by
  obtain ⟨nonzero, _, rfl⟩ := Endpoint.bind_ok bound
  refine ⟨notes.started, notes.steady.append chosen, fun other bound => ?_⟩
  rw [mirror.count_settle present, RouteTable.candidates_append]
  by_cases same : other = session
  · rw [if_pos ⟨rfl, same⟩, if_pos same, notes.counted session nonzero, List.length_append]
    rfl
  · rw [if_neg fun both => same both.2, if_neg same]
    exact notes.counted other bound

/-- The binding is one less on either side. That there was one is known from the call. -/
theorem Notes.unbind (notes : mirror.Notes name endpoint)
    (present : (mirror.find? name).isSome = true)
    (unbound : endpoint.unbind session = .ok (some (link, after))) :
    (mirror.settle name session (· - 1)).Notes name after := by
  obtain ⟨nonzero, routes, taken, rfl⟩ := Endpoint.unbind_ok unbound
  obtain ⟨atSession, elsewhere⟩ := RouteTable.candidates_of_unbind? taken
  refine ⟨notes.started, notes.steady.unbind taken, fun other bound => ?_⟩
  rw [mirror.count_settle present]
  by_cases same : other = session
  · rw [if_pos ⟨rfl, same⟩, notes.counted session nonzero, atSession, same]
    rfl
  · rw [if_neg fun both => same both.2]
    show _ = (routes.candidates other).length
    rw [elsewhere other same]
    exact notes.counted other bound

theorem Notes.addLink (notes : mirror.Notes name endpoint) {added : Bool}
    (taken : endpoint.tryAddLink link = some (added, after)) : mirror.Notes name after := by
  obtain ⟨started, rfl⟩ := Endpoint.tryAddLink_some taken
  refine ⟨started, notes.steady.insertDirect link, fun session nonzero => ?_⟩
  rw [RouteTable.candidates_insertDirect endpoint.routes link nonzero]
  exact notes.counted session nonzero

/-- An endpoint that stands after a loss has lost all bindings of some sessions, and no other. -/
theorem Notes.lose (notes : mirror.Notes name endpoint) (valid : endpoint.routes.Valid)
    (stands : (Standing.lose ⟨endpoint, true⟩ link).registered = true)
    (heard : ∀ session, session ≠ .direct → changed.count name session =
      if link ∈ endpoint.routes.candidates session then 0 else mirror.count name session) :
    changed.Notes name (Standing.lose ⟨endpoint, true⟩ link).endpoint := by
  by_cases direct : link ∈ endpoint.routes.directLinks
  · rw [Standing.lose_direct direct] at stands ⊢
    have usable : (endpoint.removeLink link).2.1 = false := (Bool.not_eq_true' ..).mp stands
    refine ⟨?_, notes.steady.removeLink valid.ascending link, fun session nonzero => ?_⟩
    · show (if (endpoint.removeLink link).2.1 then EndpointState.stopping else endpoint.state) = _
      rw [usable]
      exact notes.started
    · show _ = ((endpoint.routes.removeLink link).2.candidates session).length
      rw [heard session nonzero, RouteTable.candidates_removeLink valid.ascending,
        notes.steady.length_removed nonzero, notes.counted session nonzero]
  · rw [Standing.lose_spared direct]
    refine ⟨notes.started, notes.steady, fun session nonzero => ?_⟩
    rw [heard session nonzero, if_neg fun bound => direct (valid.gate session link bound)]
    exact notes.counted session nonzero

end Mirror

namespace Mesh

/-- The notes agree with the router: they have its names, and agree with the endpoint under each. -/
structure Mirrored (mesh : Mesh) (router : Router) (mirror : Mirror) : Prop where
  ascending : mirror.Ascending
  names : ∀ name, (mirror.find? name).isSome = (router.endpoints.find? name).isSome
  noted : ∀ name target endpoint, mesh.lookup router name = some (target, endpoint) →
    mirror.Notes name endpoint

variable {mesh next : Mesh} {id target : Nat} {router : Router} {name : String}
  {endpoint after : Endpoint} {mirror changed : Mirror} {session : SessionId} {link : Link}

theorem mirrored_empty (mesh : Mesh) (bare : router.endpoints = .empty) :
    mesh.Mirrored router .empty where
  ascending := OrderedMap.ascending_empty
  names name := by
    rw [bare]
    rfl
  noted name target endpoint present := by
    have found := (lookup_eq_some.mp present).1
    rw [bare] at found
    cases found

/-- What can be looked up is noted. -/
theorem Mirrored.present (mirrored : mesh.Mirrored router mirror)
    (present : mesh.lookup router name = some (target, endpoint)) :
    (mirror.find? name).isSome = true := by
  rw [mirrored.names, (lookup_eq_some.mp present).1]
  rfl

theorem Mirrored.keys_eq (mirrored : mesh.Mirrored router mirror)
    (sorted : router.endpoints.Ascending) : mirror.keys = router.names :=
  mirrored.ascending.keys_ext sorted mirrored.names

/-- Only the name's own entry changes with its endpoint. -/
theorem Registered.lookup_setEndpoint (registered : mesh.Registered)
    (atId : mesh.router? id = some router)
    (present : mesh.lookup router name = some (target, endpoint)) (after : Endpoint)
    (other : String) : (mesh.setEndpoint target after).lookup router other =
      if other = name then some (target, after) else mesh.lookup router other := by
  obtain ⟨found, there⟩ := lookup_eq_some.mp present
  have atOther := endpoint?_setEndpoint there after
  split
  · next same =>
    rw [same]
    exact lookup_eq_some.mpr ⟨found, endpoint?_setEndpoint_self there after⟩
  · next different =>
    unfold lookup
    cases foundOther : router.endpoints.find? other with
    | none => rfl
    | some place =>
      have elsewhere : place ≠ target := by
        rintro rfl
        obtain ⟨one, atOne, oneName, _⟩ := registered.known id router name place atId found
        obtain ⟨two, atTwo, twoName, _⟩ := registered.known id router other place atId foundOther
        rw [← Option.some.inj (atOne.symm.trans atTwo), oneName] at twoName
        exact different twoName.symm
      show ((mesh.setEndpoint target after).endpoint? place >>= fun endpoint =>
        some (place, endpoint)) = _
      rw [atOther place, if_neg elsewhere]
      rfl

/-- The notes on other names are not touched when one endpoint changes. -/
theorem Mirrored.exchange (mirrored : mesh.Mirrored router mirror) (registered : mesh.Registered)
    (atId : mesh.router? id = some router)
    (present : mesh.lookup router name = some (target, endpoint))
    (same : ∀ other, next.lookup router other = (mesh.setEndpoint target after).lookup router other)
    (ascending : changed.Ascending)
    (names : ∀ other, (changed.find? other).isSome = (mirror.find? other).isSome)
    (others : ∀ other session, other ≠ name →
      changed.count other session = mirror.count other session)
    (notes : changed.Notes name after) : next.Mirrored router changed where
  ascending := ascending
  names other := (names other).trans (mirrored.names other)
  noted other place current found := by
    rw [same, registered.lookup_setEndpoint atId present] at found
    split at found
    · next here =>
      obtain ⟨rfl, rfl⟩ := Prod.mk.inj (Option.some.inj found)
      rw [here]
      exact notes
    · next elsewhere =>
      exact (mirrored.noted other place current found).of_count fun session =>
        others other session elsewhere

/-- A change of one endpoint and one count keeps a mirror, if the count is right for that endpoint.
-/
theorem Mirrored.settle (mirrored : mesh.Mirrored router mirror) (registered : mesh.Registered)
    (atId : mesh.router? id = some router)
    (present : mesh.lookup router name = some (target, endpoint))
    (same : ∀ other, next.lookup router other = (mesh.setEndpoint target after).lookup router other)
    {change : Nat → Nat} (notes : (mirror.settle name session change).Notes name after) :
    next.Mirrored router (mirror.settle name session change) := by
  refine mirrored.exchange registered atId present same
    (Mirror.ascending_settle mirrored.ascending name session change)
    (mirror.isSome_settle name session change) (fun other taken different => ?_) notes
  rw [mirror.count_settle (mirrored.present present), if_neg fun both => different both.1]

theorem lookup_release (mesh : Mesh) (link : Link) (router : Router) (name : String) :
    (mesh.release link).lookup router name = mesh.lookup router name := by
  unfold release
  split <;> rfl

theorem Mirrored.bind (mirrored : mesh.Mirrored router mirror) (registered : mesh.Registered)
    (atId : mesh.router? id = some router)
    (present : mesh.lookup router name = some (target, endpoint))
    (call : mesh.bindChosen target endpoint session
      (Selector.chooseFirst endpoint.routes session) = .ok (link, next)) :
    next.Mirrored router (mirror.settle name session (· + 1)) := by
  obtain ⟨chosen, after, bound, rfl⟩ := bindChosen_ok call
  have noted := mirrored.noted name target endpoint present
  refine mirrored.settle registered atId present (fun _ => ?_)
    (noted.bind (mirrored.present present) chosen bound)
  rfl

theorem Mirrored.unbind (mirrored : mesh.Mirrored router mirror) (registered : mesh.Registered)
    (atId : mesh.router? id = some router)
    (present : mesh.lookup router name = some (target, endpoint)) {unbound : Bool}
    (call : mesh.unbind target endpoint session = .ok (unbound, next)) :
    next.Mirrored router (if unbound then mirror.settle name session (· - 1) else mirror) := by
  rcases unbind_ok call with ⟨rfl, rfl⟩ | ⟨rfl, freed, after, removed, rfl⟩
  · exact mirrored
  · exact mirrored.settle registered atId present (fun _ => lookup_release _ freed _ _)
      ((mirrored.noted name target endpoint present).unbind (mirrored.present present) removed)

/-- A name that is made reachable is noted if it was missing. -/
theorem Mirrored.reach (mirrored : mesh.Mirrored router mirror) (registered : mesh.Registered)
    (atId : mesh.router? id = some router) (name : String) (link : Link) : ∃ endpoints,
      (mesh.reach id router name link).2.router? id = some { router with endpoints } ∧
        (mesh.reach id router name link).2.Mirrored { router with endpoints }
          (mirror.add name) := by
  cases found : router.endpoints.find? name with
  | some target =>
    obtain ⟨endpoint, present⟩ := registered.lookup_of_find atId found
    have notes := mirrored.noted name target endpoint present
    obtain ⟨added, after, taken, reached⟩ := reach_started present notes.started id link
    have known : mirror.add name = mirror := if_pos (mirrored.present present)
    rw [reached, known]
    exact ⟨router.endpoints, atId, mirrored.exchange registered atId present (fun _ => rfl)
      mirrored.ascending (fun _ => rfl) (fun _ _ _ => rfl) (notes.addLink taken)⟩
  | none =>
    rw [reach_missing found id link]
    refine ⟨_, (router?_register atId name link id).trans (if_pos rfl),
      Mirror.ascending_add mirrored.ascending name, fun other => ?_, ?_⟩
    · rw [Bool.eq_iff_iff, Mirror.isSome_add, mirrored.names]
      by_cases same : other = name <;> simp [same]
    · intro other target endpoint present
      obtain ⟨foundAfter, there⟩ := lookup_eq_some.mp present
      by_cases same : other = name
      · rw [same, OrderedMap.find?_insert_self] at foundAfter
        rw [← Option.some.inj foundAfter, endpoint?_register] at there
        rw [← Option.some.inj there, same]
        have unknown : mirror.find? name = none := by
          rw [← Option.isNone_iff_eq_none, ← Option.not_isSome, mirrored.names, found]
          rfl
        refine ⟨rfl, RouteTable.steady_withDirect link, fun session nonzero => ?_⟩
        show _ = ((RouteTable.withDirect link).candidates session).length
        have unheard : mirror.count name session = 0 := by simp [Mirror.count, unknown]
        simp [unheard, nonzero]
      · rw [OrderedMap.find?_insert_ne _ _ same] at foundAfter
        obtain ⟨before, was⟩ := registered.lookup_of_find atId foundAfter
        rw [endpoint?_register_old id router name link (lookup_eq_some.mp was).2] at there
        rw [← Option.some.inj there]
        exact (mirrored.noted other target before was).of_count fun session =>
          mirror.count_add name other session

/-- The events of a loss tell all that it costs. -/
theorem Mirrored.lose {order : List Nat} (mirrored : mesh.Mirrored router mirror)
    (accounted : mesh.Accounted) (registered : mesh.Registered)
    (atId : mesh.router? id = some router) (permuted : order.Perm router.endpoints.values)
    (link : Link) (reason : LossReason) : ∃ endpoints,
      (mesh.loseLinkIn order id link).2.router? id = some { router with endpoints } ∧
        (mesh.loseLinkIn order id link).2.Mirrored { router with endpoints }
          (((mesh.loseLinkIn order id link).1.events reason).foldl Mirror.hear mirror) := by
  have visits := registered.visits atId permuted
  obtain ⟨report, frame⟩ := accounted.loseLinkIn registered atId permuted link
  obtain ⟨endpoints, remains, left⟩ := frame.router
  have entries (name : String) : endpoints.find? name =
      if name ∈ (mesh.lossReport link order).retired then none
      else router.endpoints.find? name := left name
  refine ⟨endpoints, remains, Mirror.ascending_hear mirrored.ascending _, fun name => ?_, ?_⟩
  · show _ = (endpoints.find? name).isSome
    rw [Mirror.find?_hear, entries, report]
    by_cases fallen : name ∈ (mesh.lossReport link order).retired
    · rw [if_pos fallen, if_pos fallen]
      rfl
    · rw [if_neg fallen, if_neg fallen, Option.isSome_map]
      exact mirrored.names name
  · intro name target left present
    obtain ⟨found, there⟩ := lookup_eq_some.mp present
    rw [entries] at found
    split at found
    · cases found
    · next standing =>
      obtain ⟨endpoint, was⟩ := registered.lookup_of_find atId found
      have valid := accounted.valid_of_lookup was
      obtain ⟨after, retires⟩ := accounted.loseLinkIn_standing registered atId permuted link was
      -- Of the endpoints that stand, the mirror sets to zero the sessions that the report names.
      have stands : (Standing.lose ⟨endpoint, true⟩ link).registered = true := by
        rw [← Bool.not_eq_false, ← retires, report]
        exact standing
      rw [after, Standing.slot, stands] at there
      rw [← Option.some.inj there]
      refine (mirrored.noted name target endpoint was).lose valid stands fun session nonzero => ?_
      rw [Mirror.count_hear mirror _ reason (by rw [report]; exact standing), report]
      refine if_congr ((visits.lost_iff accounted.valid).trans ⟨?_, fun bound => ?_⟩) rfl rfl
      · rintro ⟨_, _, _, also, bound⟩
        rw [was] at also
        rw [(Prod.mk.inj (Option.some.inj also)).2]
        exact bound
      · exact ⟨nonzero, target, endpoint, was, bound⟩

end Mesh

end DaemonMesh
