import DaemonMesh.Proofs.LossTraces

namespace DaemonMesh

/-- Among the lost paths of an endpoint to a daemon, one is lost last. -/
theorem Endpoint.CutOff.last {endpoint : Endpoint} {guid : Guid}
    {losses : List (Link × LossReport)} (cut : endpoint.CutOff guid (losses.map Prod.fst))
    (path : ∃ link ∈ endpoint.routes.candidates .direct, link.guid = guid) :
    ∃ before loss later, losses = before ++ loss :: later ∧
      loss.1 ∈ endpoint.routes.candidates .direct ∧
        endpoint.CutOff guid (before.map Prod.fst ++ [loss.1]) := by
  induction losses using List.reverseRecOn with
  | nil =>
    obtain ⟨link, direct, leads⟩ := path
    exact (List.not_mem_nil (cut link direct leads)).elim
  | append_singleton earlier loss ih =>
    rw [List.map_append] at cut
    by_cases hit : loss.1 ∈ endpoint.routes.candidates .direct
    · exact ⟨earlier, loss, [], rfl, hit, cut⟩
    · have still : endpoint.CutOff guid (earlier.map Prod.fst) := by
        intro other direct leads
        rcases List.mem_append.mp (cut other direct leads) with old | new
        · exact old
        · rw [List.mem_singleton.mp new] at direct
          exact (hit direct).elim
      obtain ⟨before, final, later, rfl, found⟩ := ih still
      exact ⟨before, final, later ++ [loss], by simp, found⟩

namespace Mesh

/-- The links that go when a daemon departs: all links to it that are direct paths of some endpoint
of the router, each once. -/
structure Departing (mesh : Mesh) (router : Router) (guid : Guid) (links : List Link) : Prop where
  once : links.Nodup
  paths : ∀ link, link ∈ links ↔ link.guid = guid ∧ ∃ name target endpoint,
    mesh.lookup router name = some (target, endpoint) ∧
      link ∈ endpoint.routes.candidates .direct

/-- What the departure of a daemon does to a router, its links lost one after the other, in terms of
the state before. -/
structure DepartureEffect (mesh : Mesh) (id : Nat) (router : Router) (guid : Guid)
    (losses : List (Link × LossReport)) (after : Mesh) : Prop where
  retired : ∀ name, (∃ loss ∈ losses, name ∈ loss.2.retired) ↔ ∃ target endpoint,
    mesh.lookup router name = some (target, endpoint) ∧ endpoint.FallsWith guid
  /-- An endpoint falls with the last of its paths to the daemon. -/
  moment : ∀ before link report later, losses = before ++ (link, report) :: later →
    ∀ name, name ∈ report.retired ↔ ∃ target endpoint,
      mesh.lookup router name = some (target, endpoint) ∧ endpoint.FallsWith guid ∧
        link ∈ endpoint.routes.candidates .direct ∧
          endpoint.CutOff guid (before.map Prod.fst ++ [link])
  survives : ∀ name target endpoint, mesh.lookup router name = some (target, endpoint) →
    ¬endpoint.FallsWith guid → ∃ routes,
      after.endpoint? target = some { endpoint with routes } ∧ ∀ session,
        routes.candidates session =
          (endpoint.routes.candidates session).filter fun link => link.guid ≠ guid
  /-- Who still has a handle on a retired endpoint sees it stopping. -/
  falls : ∀ name target endpoint, mesh.lookup router name = some (target, endpoint) →
    endpoint.FallsWith guid → ∃ routes,
      after.endpoint? target = (if target ∈ mesh.endpointHandles then
        some { endpoint with routes, state := .stopping } else none) ∧ ∀ session,
          routes.candidates session =
            (endpoint.routes.candidates session).filter fun link => link.guid ≠ guid
  registry : ∃ endpoints, after.router? id = some { router with endpoints } ∧ ∀ name target,
    endpoints.find? name = some target ↔ ∃ endpoint,
      mesh.lookup router name = some (target, endpoint) ∧ ¬endpoint.FallsWith guid
  elsewhere : ∀ other, other ≠ id → after.router? other = mesh.router? other
  outside : ∀ target, target ∉ router.endpoints.values →
    after.endpoint? target = mesh.endpoint? target
  tables : after.tables = mesh.tables
  cutOff : ∀ name ∈ mesh.unreachableWithout router guid, ∃ loss ∈ losses, name ∈ loss.2.retired

/-- Two states with the same registries, tables, endpoints and references. -/
structure Agrees (first second : Mesh) : Prop where
  routers : ∀ id, first.router? id = second.router? id
  endpoints : first.endpoints = second.endpoints
  tables : first.tables = second.tables
  counts : ∀ link : Link, first.count link = second.count link

variable {mesh start after : Mesh} {id : Nat} {router : Router} {guid : Guid} {lost : List Link}
  {losses : List (Link × LossReport)}

theorem Departing.perm {other : List Link} (departing : mesh.Departing router guid lost)
    (permuted : other.Perm lost) : mesh.Departing router guid other where
  once := permuted.nodup_iff.mpr departing.once
  paths link := permuted.mem_iff.trans (departing.paths link)

theorem Departing.toGuid (departing : mesh.Departing router guid lost) :
    ∀ link ∈ lost, link.guid = guid :=
  fun link member => ((departing.paths link).mp member).1

theorem Departing.cutOff (departing : mesh.Departing router guid lost) {name : String}
    {target : Nat} {endpoint : Endpoint}
    (present : mesh.lookup router name = some (target, endpoint)) : endpoint.CutOff guid lost :=
  fun link direct leads =>
    (departing.paths link).mpr ⟨leads, name, target, endpoint, present, direct⟩

/-- How an endpoint stands in the end, which does not depend on the order of the losses. -/
theorem Departing.losing (departing : mesh.Departing router guid lost) {name : String}
    {target : Nat} {endpoint : Endpoint}
    (present : mesh.lookup router name = some (target, endpoint))
    (valid : endpoint.routes.Valid) :
    ((endpoint.losing lost).registered = false ↔ endpoint.FallsWith guid) ∧
      (endpoint.losing lost).endpoint =
        { endpoint with
          routes := endpoint.routes.without fun link => link.guid == guid
          state := if (endpoint.losing lost).registered then endpoint.state else .stopping } := by
  have after := Standing.after_losses valid departing.toGuid
  have cut := departing.cutOff present
  refine ⟨after.fallen.trans ⟨And.left, fun falls => ⟨falls, cut⟩⟩, ?_⟩
  have same : endpoint.routes.without (fun link => link.guid == guid) =
      endpoint.routes.without lost.contains := by
    refine RouteTable.without_congr fun link member => ?_
    rw [Bool.eq_iff_iff, beq_iff_eq, List.contains_iff_mem]
    exact ⟨cut link (valid.mem_links_iff.mp member), departing.toGuid link⟩
  rw [same]
  exact after.left

/-- A name that only leads to the daemon falls with it. -/
theorem Served.fallsWith_of_unreachable (served : mesh.Served) (registered : mesh.Registered)
    (accounted : mesh.Accounted) (atId : mesh.router? id = some router) {name : String}
    (cut : name ∈ mesh.unreachableWithout router guid) : ∃ target endpoint,
      mesh.lookup router name = some (target, endpoint) ∧ endpoint.FallsWith guid := by
  obtain ⟨entry, listed, only⟩ := List.mem_filterMap.mp cut
  obtain ⟨⟨key, target⟩, member, found⟩ := List.mem_filterMap.mp listed
  obtain ⟨endpoint, there, rfl⟩ := Option.map_eq_some_iff.mp found
  split at only
  · cases only
  · next unrouted =>
    rw [← Option.some.inj only]
    have registers := (registered.sorted id router atId).mem_entries_iff.mp member
    have present := lookup_eq_some.mpr ⟨registers, there⟩
    have valid := accounted.valid_of_lookup present
    have all : ∀ link ∈ endpoint.routes.directLinks, link.guid = guid := by
      intro link direct
      by_contra foreign
      refine unrouted (List.any_eq_true.mpr ⟨link, valid.mem_links_iff.mpr direct, ?_⟩)
      exact bne_iff_ne.mpr foreign
    obtain ⟨other, alsoThere, _, paths⟩ := served id key target ⟨router, atId, registers⟩
    rw [← Option.some.inj (there.symm.trans alsoThere)] at paths
    obtain ⟨link, direct⟩ := List.exists_mem_of_ne_nil _ paths
    exact ⟨target, endpoint, present, ⟨link, direct, all link direct⟩, Or.inl all⟩

/-- An endpoint that goes off its router at a loss has lost the last of its paths to the daemon. -/
theorem falls_at_iff {endpoint : Endpoint} {earlier : List Link} {link : Link}
    (valid : endpoint.routes.Valid) (toGuid : ∀ other ∈ earlier ++ [link], other.guid = guid)
    (fresh : link ∉ earlier) :
    ((endpoint.losing earlier).registered = true ∧
        (endpoint.losing (earlier ++ [link])).registered = false) ↔
      endpoint.FallsWith guid ∧ link ∈ endpoint.routes.candidates .direct ∧
        endpoint.CutOff guid (earlier ++ [link]) := by
  have before := Standing.after_losses valid fun other member =>
    toGuid other (List.mem_append_left _ member)
  have after := Standing.after_losses valid toGuid
  rw [after.fallen, ← Bool.not_eq_false, before.fallen]
  constructor
  · rintro ⟨stood, falls, cut⟩
    refine ⟨falls, ?_, cut⟩
    by_contra pathless
    refine stood ⟨falls, fun other direct leads => ?_⟩
    rcases List.mem_append.mp (cut other direct leads) with old | new
    · exact old
    · rw [List.mem_singleton.mp new] at direct
      exact (pathless direct).elim
  · rintro ⟨falls, direct, cut⟩
    refine ⟨fun fell => ?_, falls, cut⟩
    have leads := toGuid link (List.mem_append_right _ (List.mem_singleton_self _))
    exact fresh (fell.2 link direct leads)

theorem Losses.moment (run : Losses False id start losses after) (reach : Reach False start)
    (atId : start.router? id = some router)
    (departing : start.Departing router guid (losses.map Prod.fst))
    {before later : List (Link × LossReport)} {link : Link} {report : LossReport}
    (whole : losses = before ++ (link, report) :: later) (name : String) :
    name ∈ report.retired ↔ ∃ target endpoint,
      start.lookup router name = some (target, endpoint) ∧ endpoint.FallsWith guid ∧
        link ∈ endpoint.routes.candidates .direct ∧
          endpoint.CutOff guid (before.map Prod.fst ++ [link]) := by
  obtain ⟨_, _, reports⟩ := run.traced reach atId
  have once := departing.once
  have toGuid := departing.toGuid
  rw [whole, List.map_append, List.map_cons] at once toGuid
  have fresh : link ∉ before.map Prod.fst := fun member =>
    (List.nodup_append.mp once).2.2 link member link List.mem_cons_self rfl
  rw [reports before link report later whole name]
  refine exists₂_congr fun target endpoint => and_congr_right fun present => ?_
  refine falls_at_iff (reach.accounted.valid_of_lookup present) (fun other member => ?_) fresh
  refine toGuid other ?_
  rcases List.mem_append.mp member with old | new
  · exact List.mem_append_left _ old
  · rw [List.mem_singleton.mp new]
    exact List.mem_append_right _ List.mem_cons_self

/-- The losses as a whole retire who falls with the daemon, each at a loss of its own. -/
theorem Losses.retired_iff (run : Losses False id start losses after) (reach : Reach False start)
    (atId : start.router? id = some router)
    (departing : start.Departing router guid (losses.map Prod.fst)) (name : String) :
    (∃ loss ∈ losses, name ∈ loss.2.retired) ↔ ∃ target endpoint,
      start.lookup router name = some (target, endpoint) ∧ endpoint.FallsWith guid := by
  constructor
  · rintro ⟨⟨link, report⟩, member, fallen⟩
    obtain ⟨before, later, whole⟩ := List.append_of_mem member
    obtain ⟨target, endpoint, present, falls, _⟩ :=
      (run.moment reach atId departing whole name).mp fallen
    exact ⟨target, endpoint, present, falls⟩
  · rintro ⟨target, endpoint, present, falls⟩
    obtain ⟨before, ⟨final, report⟩, later, whole, path, done⟩ :=
      (departing.cutOff present).last falls.1
    refine ⟨(final, report), by simp [whole], ?_⟩
    exact (run.moment reach atId departing whole name).mpr
      ⟨target, endpoint, present, falls, path, done⟩

theorem Losses.departureEffect (run : Losses False id start losses after)
    (reach : Reach False start) (atId : start.router? id = some router)
    (departing : start.Departing router guid (losses.map Prod.fst)) :
    DepartureEffect start id router guid losses after := by
  have accounted := reach.accounted
  have registered := reach.registered
  obtain ⟨_, traced, _⟩ := run.traced reach atId
  have retired := run.retired_iff reach atId departing
  have rest {name : String} {target : Nat} {endpoint : Endpoint}
      (present : start.lookup router name = some (target, endpoint)) (session : SessionId) :
      (endpoint.routes.without fun link => link.guid == guid).candidates session =
        (endpoint.routes.candidates session).filter fun link => link.guid ≠ guid := by
    rw [RouteTable.candidates_without (accounted.valid_of_lookup present).ascending]
    exact List.filter_congr fun link _ => by by_cases same : link.guid = guid <;> simp [same]
  refine ⟨retired, fun before link report later whole => run.moment reach atId departing whole,
    ?_, ?_, ?_, traced.elsewhere, traced.outside, traced.tables, ?_⟩
  · intro name target endpoint present stands
    obtain ⟨fallen, left⟩ := departing.losing present (accounted.valid_of_lookup present)
    have on : (endpoint.losing (losses.map Prod.fst)).registered = true :=
      Bool.not_eq_false _ ▸ fallen.not.mpr stands
    refine ⟨_, ?_, rest present⟩
    rw [traced.inside name target endpoint present, Standing.slot, left, on]
    rfl
  · intro name target endpoint present falls
    obtain ⟨fallen, left⟩ := departing.losing present (accounted.valid_of_lookup present)
    have off := fallen.mpr falls
    refine ⟨_, ?_, rest present⟩
    rw [traced.inside name target endpoint present, Standing.slot, left, off]
    by_cases handled : target ∈ start.endpointHandles <;> simp [handled]
  · obtain ⟨endpoints, remains, entries⟩ := traced.registry
    refine ⟨endpoints, remains, fun name target => (entries name target).trans ?_⟩
    refine exists_congr fun endpoint => and_congr_right fun present => ?_
    obtain ⟨fallen, _⟩ := departing.losing present (accounted.valid_of_lookup present)
    rw [← fallen, Bool.not_eq_false]
  · intro name cut
    exact (retired name).mpr (reach.served.fallsWith_of_unreachable registered accounted atId cut)

/-- Balanced references are settled by the tables. -/
theorem Agrees.of_tables {first second : Mesh} (balanced : first.Balanced)
    (alsoBalanced : second.Balanced) (routers : ∀ id, first.router? id = second.router? id)
    (endpoints : first.endpoints = second.endpoints) (tables : first.tables = second.tables) :
    first.Agrees second := by
  refine ⟨routers, endpoints, tables, fun link => ?_⟩
  rw [balanced.counted, alsoBalanced.counted]
  unfold bindings liveTables
  rw [endpoints, tables]

/-- Where all endpoints of the router have come to stand alike, the states agree. -/
theorem Traced.agrees {handles : Prop} {others : List Link} {other : Mesh}
    (traced : Traced start id router lost after) (alsoTraced : Traced start id router others other)
    (reach : Reach handles start) (reached : Reach handles after)
    (alsoReached : Reach handles other) (atId : start.router? id = some router)
    (standing : ∀ name target endpoint, start.lookup router name = some (target, endpoint) →
      endpoint.losing lost = endpoint.losing others) : after.Agrees other := by
  have endpoints : after.endpoints = other.endpoints := by
    refine slots_ext (traced.size.trans alsoTraced.size.symm) fun target => ?_
    show after.endpoint? target = other.endpoint? target
    by_cases listed : target ∈ router.endpoints.values
    · obtain ⟨name, found⟩ := (reach.registered.sorted id router atId).mem_values_iff.mp listed
      obtain ⟨endpoint, present⟩ := reach.registered.lookup_of_find atId found
      rw [traced.inside name target endpoint present,
        alsoTraced.inside name target endpoint present, standing name target endpoint present]
    · rw [traced.outside target listed, alsoTraced.outside target listed]
  have routers (place : Nat) : after.router? place = other.router? place := by
    by_cases here : place = id
    · rw [here]
      obtain ⟨first, atFirst, entries⟩ := traced.registry
      obtain ⟨second, atSecond, alsoEntries⟩ := alsoTraced.registry
      have same : first = second := by
        refine OrderedMap.Ascending.ext (reached.registered.sorted id _ atFirst)
          (alsoReached.registered.sorted id _ atSecond) fun name => Option.ext fun target => ?_
        rw [entries, alsoEntries]
        exact exists_congr fun endpoint => and_congr_right fun present => by
          rw [standing name target endpoint present]
      rw [atFirst, atSecond, same]
    · rw [traced.elsewhere place here, alsoTraced.elsewhere place here]
  exact .of_tables reached.accounted.balance alsoReached.accounted.balance routers endpoints
    (traced.tables.trans alsoTraced.tables.symm)

/-- Whatever the order of the losses, the outcome is the same. -/
theorem Losses.agrees {others : List (Link × LossReport)} {other : Mesh}
    (run : Losses False id start losses after) (another : Losses False id start others other)
    (reach : Reach False start) (atId : start.router? id = some router)
    (departing : start.Departing router guid (losses.map Prod.fst))
    (alsoDeparting : start.Departing router guid (others.map Prod.fst)) : after.Agrees other := by
  obtain ⟨reached, traced, _⟩ := run.traced reach atId
  obtain ⟨alsoReached, alsoTraced, _⟩ := another.traced reach atId
  refine traced.agrees alsoTraced reach reached alsoReached atId
    fun name target endpoint present => ?_
  have valid := reach.accounted.valid_of_lookup present
  obtain ⟨fallen, left⟩ := departing.losing present valid
  obtain ⟨alsoFallen, alsoLeft⟩ := alsoDeparting.losing present valid
  have same := Bool.eq_iff_iff.mpr (Bool.not_eq_false _ ▸ Bool.not_eq_false _ ▸
    (fallen.trans alsoFallen.symm).not)
  rw [same, ← alsoLeft] at left
  exact Standing.ext left same

end Mesh

end DaemonMesh
