import DaemonMesh.Proofs.LossSteps
import DaemonMesh.Proofs.ReferenceBalance

namespace DaemonMesh

namespace Mesh

/-- The sessions that an endpoint loses with a link, under its name. -/
def lossAt (mesh : Mesh) (link : Link) (target : Nat) : Option (String × List SessionId) :=
  ((mesh.endpoint? target).filter fun endpoint => endpoint.routes.hasDirect link).map
    fun endpoint => (endpoint.name, endpoint.routes.sessionsOf link)

/-- The name of an endpoint that runs empty with a link. -/
def fallAt (mesh : Mesh) (link : Link) (target : Nat) : Option String :=
  ((mesh.endpoint? target).filter fun endpoint =>
    endpoint.routes.hasDirect link && (endpoint.removeLink link).2.1).map Endpoint.name

/-- How often an endpoint has a link bound. -/
def ridesAt (mesh : Mesh) (link : Link) (target : Nat) : Nat :=
  (mesh.endpoint? target).elim 0 fun endpoint => endpoint.routes.sessionLinks.count link

/-- What the loss of a link leaves behind once the endpoints of the list were visited, in terms of
the state before. -/
structure LossFrame (mesh : Mesh) (id : Nat) (current : Router) (link : Link) (order : List Nat)
    (result : Mesh) : Prop where
  router : ∃ endpoints, result.router? id = some { current with endpoints } ∧
    ∀ name, endpoints.find? name =
      if name ∈ order.filterMap (mesh.fallAt link) then none else current.endpoints.find? name
  elsewhere : ∀ other, other ≠ id → result.router? other = mesh.router? other
  endpointHandles : result.endpointHandles = mesh.endpointHandles
  routerHandles : result.routerHandles = mesh.routerHandles
  outside : ∀ target, target ∉ order → result.endpoint? target = mesh.endpoint? target
  inside : ∀ target endpoint, target ∈ order → mesh.endpoint? target = some endpoint →
    Loses link (target ∉ mesh.endpointHandles) endpoint (result.endpoint? target)
  bindings : ∀ other, mesh.bindings.count other =
    result.bindings.count other + if other = link then (order.map (mesh.ridesAt link)).sum else 0

variable {mesh middle result : Mesh} {id target : Nat} {current : Router} {endpoint : Endpoint}
  {link : Link} {past rest order : List Nat}

theorem LossFrame.refl (atId : mesh.router? id = some current) (link : Link) :
    LossFrame mesh id current link [] mesh where
  router := ⟨current.endpoints, atId, fun _ => rfl⟩
  elsewhere _ _ := rfl
  endpointHandles := rfl
  routerHandles := rfl
  outside _ _ := rfl
  inside _ _ member := (List.not_mem_nil member).elim
  bindings other := by simp

/-- Endpoints that have not been visited fall or stand as they did at first, since the visits so far
were to others. -/
theorem LossFrame.falls (frame : LossFrame mesh id current link past middle)
    (apart : ∀ target ∈ rest, target ∉ past) :
    rest.filterMap (middle.fallAt link) = rest.filterMap (mesh.fallAt link) := by
  refine List.filterMap_congr fun target member => ?_
  rw [fallAt, fallAt, frame.outside target (apart target member)]

/-- Visits that come later find their endpoints as they were. -/
theorem LossFrame.append {endpoints : OrderedMap String Nat}
    (first : LossFrame mesh id current link past middle)
    (second : LossFrame middle id { current with endpoints } link rest result)
    (between : ∀ name, endpoints.find? name =
      if name ∈ past.filterMap (mesh.fallAt link) then none else current.endpoints.find? name)
    (apart : ∀ target ∈ rest, target ∉ past) :
    LossFrame mesh id current link (past ++ rest) result := by
  have unvisited (target : Nat) (member : target ∈ rest) :
      middle.endpoint? target = mesh.endpoint? target :=
    first.outside target (apart target member)
  have rides : rest.map (middle.ridesAt link) = rest.map (mesh.ridesAt link) := by
    refine List.map_congr_left fun target member => ?_
    rw [ridesAt, ridesAt, unvisited target member]
  obtain ⟨final, atFinal, entries⟩ := second.router
  -- What is said of later visits in the middle state holds of the first, for they are to endpoints
  -- that the earlier visits left alone.
  refine ⟨⟨final, atFinal, fun name => ?_⟩, ?_,
    second.endpointHandles.trans first.endpointHandles,
    second.routerHandles.trans first.routerHandles, ?_, ?_, ?_⟩
  · rw [entries, between, first.falls apart, List.filterMap_append]
    simp only [List.mem_append]
    by_cases early : name ∈ past.filterMap (mesh.fallAt link)
    · simp only [early, true_or, if_true, ite_self]
    · simp only [early, false_or, if_false]
  · intro other different
    rw [second.elsewhere other different, first.elsewhere other different]
  · intro target outside
    rw [second.outside target fun member => outside (List.mem_append_right _ member),
      first.outside target fun member => outside (List.mem_append_left _ member)]
  · intro target endpoint member there
    rcases List.mem_append.mp member with early | late
    · rw [second.outside target fun late => apart target late early]
      exact first.inside target endpoint early there
    · rw [← first.endpointHandles]
      exact second.inside target endpoint late ((unvisited target late).trans there)
  · intro other
    have atFirst := first.bindings other
    have atSecond := second.bindings other
    rw [rides] at atSecond
    rw [List.map_append, List.sum_append]
    by_cases same : other = link
    · rw [if_pos same] at atFirst atSecond ⊢
      omega
    · rw [if_neg same] at atFirst atSecond ⊢
      omega

/-- The report of a visit to endpoints of the state given. -/
def lossReport (mesh : Mesh) (link : Link) (order : List Nat) : LossReport where
  retired := order.filterMap (mesh.fallAt link)
  lost := (order.filterMap (mesh.lossAt link)).flatMap fun block =>
    block.2.map fun session => (block.1, session)

/-- An endpoint falls under its own name. -/
theorem fallAt_name {name : String} (atTarget : mesh.endpoint? target = some endpoint)
    (falls : mesh.fallAt link target = some name) : name = endpoint.name := by
  obtain ⟨other, found, rfl⟩ := Option.map_eq_some_iff.mp falls
  have there := (Option.filter_eq_some_iff.mp found).1
  rw [Option.some.inj (atTarget.symm.trans there)]

/-- For the same reason the rest of the report can be read off the state before the first visit. -/
theorem LossFrame.lossReport (frame : LossFrame mesh id current link past middle)
    (apart : ∀ target ∈ rest, target ∉ past) :
      middle.lossReport link rest = mesh.lossReport link rest := by
  have losses : rest.filterMap (middle.lossAt link) = rest.filterMap (mesh.lossAt link) := by
    refine List.filterMap_congr fun target member => ?_
    rw [lossAt, lossAt, frame.outside target (apart target member)]
  rw [Mesh.lossReport, frame.falls apart, losses]
  rfl

/-- Two reports one after the other. -/
def joinReports (first second : LossReport) : LossReport :=
  ⟨first.retired ++ second.retired, first.lost ++ second.lost⟩

theorem joinReports_assoc (first second third : LossReport) :
    joinReports (joinReports first second) third =
      joinReports first (joinReports second third) := by
  simp only [joinReports, List.append_assoc]

/-- Visits in two parts report in two parts, so that a report can be built up one visit at a time.
-/
theorem lossReport_append (mesh : Mesh) (link : Link) (past rest : List Nat) :
    mesh.lossReport link (past ++ rest) =
      joinReports (mesh.lossReport link past) (mesh.lossReport link rest) := by
  simp only [joinReports, lossReport, List.filterMap_append, List.flatMap_append]

/-- A visit that finds no direct path changes nothing and reports nothing. -/
theorem LossFrame.spared (valid : ∀ table ∈ mesh.liveTables, table.Valid)
    (atId : mesh.router? id = some current) (atTarget : mesh.endpoint? target = some endpoint)
    (pathless : link ∉ endpoint.routes.directLinks) :
    LossFrame mesh id current link [target] mesh := by
  refine ⟨⟨current.endpoints, atId, fun name => ?_⟩, fun _ _ => rfl, rfl, rfl, fun _ _ => rfl,
    ?_, ?_⟩
  · simp [fallAt, atTarget, pathless]
  · intro other there member atOther
    rw [List.mem_singleton.mp member, atTarget] at atOther
    rw [List.mem_singleton.mp member, atTarget, ← Option.some.inj atOther]
    exact Or.inl ⟨pathless, rfl⟩
  · intro other
    have alive := mem_liveTables_iff.mpr (Or.inr ⟨target, endpoint, atTarget, rfl⟩)
    have unbound : endpoint.routes.sessionLinks.count link = 0 :=
      List.count_eq_zero.mpr fun bound => pathless ((valid _ alive).sessionLinks_direct bound)
    simp [ridesAt, atTarget, unbound]

theorem Loses.sessionLinks (valid : endpoint.routes.Valid) {unheld : Prop} {slot : Option Endpoint}
    (loses : Loses link unheld endpoint slot) (direct : link ∈ endpoint.routes.directLinks)
    (other : Link) :
    endpoint.routes.sessionLinks.count other =
      (slot.elim 0 fun after => after.routes.sessionLinks.count other)
        + if other = link then endpoint.routes.sessionLinks.count link else 0 := by
  have kept : ((endpoint.removeLink link).2.2.routes.sessionLinks).count other
      + (if other = link then endpoint.routes.sessionLinks.count link else 0) =
        endpoint.routes.sessionLinks.count other := by
    have settled := endpoint.routes.count_sessionLinks_removeLink link other
    rw [List.count_replicate] at settled
    by_cases same : other = link
    · rw [if_pos (beq_iff_eq.mpr same.symm)] at settled
      rw [if_pos same]
      exact settled.symm
    · rw [if_neg fun equal => same (eq_of_beq equal).symm] at settled
      rw [if_neg same]
      exact settled.symm
  rcases loses with ⟨pathless, _⟩ | ⟨_, rfl | ⟨emptied, _, rfl⟩⟩
  · exact (pathless direct).elim
  · exact kept.symm
  · have drained : (endpoint.removeLink link).2.2.routes.sessionLinks = [] :=
      (valid.removeLink link).sessionLinks_of_leftEmpty emptied
    rw [drained] at kept
    simpa using kept.symm

/-- One visit to an endpoint with the lost link among its direct paths. -/
theorem LossFrame.visited (valid : ∀ table ∈ mesh.liveTables, table.Valid)
    (atId : mesh.router? id = some current) (atTarget : mesh.endpoint? target = some endpoint)
    (direct : link ∈ endpoint.routes.directLinks) {slot : Option Endpoint}
    (loses : Loses link (target ∉ mesh.endpointHandles) endpoint slot) (counts : List Nat)
    (overdrawn : List Link) :
    LossFrame mesh id current link [target]
      { mesh with
        endpoints := mesh.endpoints.set target slot
        routers := if (endpoint.removeLink link).2.1 then
          mesh.routers.set id
            (some { current with endpoints := current.endpoints.erase endpoint.name })
          else mesh.routers
        counts, overdrawn } := by
  have atOther (other : Nat) : (mesh.endpoints.set target slot)[other]?.join =
      if other = target then slot else mesh.endpoint? other :=
    join_getElem?_set (Or.inr (endpoint?_lt atTarget))
  have atRouter (new : Router) (other : Nat) : (mesh.routers.set id (some new))[other]?.join =
      if other = id then some new else mesh.router? other :=
    join_getElem?_set (Or.inr (router?_lt atId))
  -- The router itself, the other routers, the other endpoints, the endpoint visited, the bindings.
  refine ⟨?_, ?_, rfl, rfl, ?_, ?_, ?_⟩
  · cases emptied : (endpoint.removeLink link).2.1 with
    | false =>
      refine ⟨current.endpoints, atId, fun name => ?_⟩
      simp [fallAt, atTarget, emptied]
    | true =>
      refine ⟨current.endpoints.erase endpoint.name, (atRouter _ id).trans (if_pos rfl),
        fun name => ?_⟩
      simp [fallAt, atTarget, emptied, direct]
  · intro other different
    cases (endpoint.removeLink link).2.1 with
    | false => rfl
    | true => exact (atRouter _ other).trans (if_neg different)
  · intro other outside
    exact (atOther other).trans (if_neg fun same => outside (List.mem_singleton.mpr same))
  · intro other there member atThere
    rw [List.mem_singleton.mp member] at atThere ⊢
    rw [← Option.some.inj (atTarget.symm.trans atThere)]
    have after := (atOther target).trans (if_pos rfl)
    rw [← after] at loses
    exact loses
  · intro other
    have alive := mem_liveTables_iff.mpr (Or.inr ⟨target, endpoint, atTarget, rfl⟩)
    have change := count_bindings_endpoints atTarget slot other
    have settled := loses.sessionLinks (valid _ alive) direct other
    have rides : ([target].map (mesh.ridesAt link)).sum =
        endpoint.routes.sessionLinks.count link := by
      simp [ridesAt, atTarget]
    rw [rides]
    show mesh.bindings.count other =
      ({ mesh with endpoints := mesh.endpoints.set target slot } : Mesh).bindings.count other + _
    omega

/-- One visit, whatever the endpoint: the report grows by what the endpoint lost, and the frame
holds for it alone. -/
theorem loseAt_visit (valid : ∀ table ∈ mesh.liveTables, table.Valid)
    (atId : mesh.router? id = some current) (atTarget : mesh.endpoint? target = some endpoint)
    (listed : current.endpoints.find? endpoint.name = some target) (link : Link)
    (report : LossReport) :
    (loseAt id link (report, mesh) target).1 = joinReports report (mesh.lossReport link [target]) ∧
      LossFrame mesh id current link [target] (loseAt id link (report, mesh) target).2 := by
  by_cases direct : link ∈ endpoint.routes.directLinks
  · obtain ⟨slot, counts, overdrawn, loses, shape⟩ :=
      loseAt_frame atId atTarget listed direct report
    rw [shape]
    refine ⟨?_, LossFrame.visited valid atId atTarget direct loses counts overdrawn⟩
    cases emptied : (endpoint.removeLink link).2.1 <;>
      simp [joinReports, lossReport, fallAt, lossAt, atTarget, direct, emptied]
  · have spared (other : Endpoint) (there : mesh.endpoint? target = some other) :
        link ∉ other.routes.directLinks := by
      rw [← Option.some.inj (atTarget.symm.trans there)]
      exact direct
    rw [loseAt_spared spared]
    refine ⟨?_, LossFrame.spared valid atId atTarget direct⟩
    simp [joinReports, lossReport, fallAt, lossAt, atTarget, direct]

/-- Visits one after the other, each to a registered endpoint and to each but once. -/
theorem foldl_loseAt (accounted : mesh.Accounted) (registered : mesh.Registered)
    (atId : mesh.router? id = some current)
    (listed : ∀ target ∈ order, ∃ name, current.endpoints.find? name = some target)
    (distinct : order.Nodup) (link : Link) (report : LossReport) :
    (order.foldl (loseAt id link) (report, mesh)).1 =
        joinReports report (mesh.lossReport link order) ∧
      LossFrame mesh id current link order (order.foldl (loseAt id link) (report, mesh)).2 := by
  induction order generalizing mesh current report with
  | nil =>
    refine ⟨?_, LossFrame.refl atId link⟩
    simp [joinReports, lossReport]
  | cons target rest ih =>
    obtain ⟨fresh, apart⟩ := List.nodup_cons.mp distinct
    obtain ⟨name, found⟩ := listed target List.mem_cons_self
    obtain ⟨endpoint, atTarget, named, _⟩ := registered.known id current name target atId found
    rw [← named] at found
    obtain ⟨reported, frame⟩ := loseAt_visit accounted.valid atId atTarget found link report
    have changes := changes_loseAt trivial id link (report, mesh) target
    rw [List.foldl_cons]
    generalize loseAt id link (report, mesh) target = state at reported frame changes ⊢
    obtain ⟨visited, middle⟩ := state
    dsimp only at reported frame changes
    obtain ⟨endpoints, atMiddle, entries⟩ := frame.router
    -- A retirement takes the visited endpoint's own name off, so the ones to come stay listed.
    have still : ∀ other ∈ rest, ∃ name, endpoints.find? name = some other := by
      intro other member
      obtain ⟨otherName, foundOther⟩ := listed other (List.mem_cons_of_mem _ member)
      refine ⟨otherName, (entries otherName).trans ((if_neg fun fallen => ?_).trans foundOther)⟩
      obtain ⟨same, single, falls⟩ := List.mem_filterMap.mp fallen
      rw [List.mem_singleton.mp single] at falls
      rw [fallAt_name atTarget falls, found] at foundOther
      exact fresh (Option.some.inj foundOther ▸ member)
    obtain ⟨reportedRest, frameRest⟩ := ih (changes.accounted accounted)
      (changes.registered registered) atMiddle still apart visited
    have unvisited : ∀ other ∈ rest, other ∉ [target] := by
      rintro other member single
      exact fresh (List.mem_singleton.mp single ▸ member)
    refine ⟨?_, frame.append frameRest entries unvisited⟩
    have joined := mesh.lossReport_append link [target] rest
    rw [List.singleton_append] at joined
    rw [reportedRest, reported, frame.lossReport unvisited, joined, joinReports_assoc]

end Mesh

end DaemonMesh
