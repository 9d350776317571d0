import DaemonMesh.Proofs.DirectPaths
import DaemonMesh.Proofs.LossEffect

namespace DaemonMesh

namespace Mesh

/-- Every registered endpoint is started and has a direct path. -/
def Served (mesh : Mesh) : Prop :=
  ∀ id name target, mesh.Registers id name target → ∃ endpoint,
    mesh.endpoint? target = some endpoint ∧ endpoint.state = .started ∧
      endpoint.routes.directLinks ≠ []

variable {mesh next : Mesh} {id target : Nat} {name : String} {router : Router} {link : Link}

theorem Registers.lookup {endpoint : Endpoint} (registers : mesh.Registers id name target)
    (atId : mesh.router? id = some router) (there : mesh.endpoint? target = some endpoint) :
    mesh.lookup router name = some (target, endpoint) := by
  obtain ⟨current, atCurrent, found⟩ := registers
  rw [← Option.some.inj (atId.symm.trans atCurrent)] at found
  exact lookup_eq_some.mpr ⟨found, there⟩

/-- A tame change registers nothing, and takes nothing off a router that stays. -/
theorem Change.registers (change : Change False mesh next) :
    (next.Registers id name target → mesh.Registers id name target) ∧
      (mesh.Registers id name target →
        next.Registers id name target ∨ id < next.routers.length ∧ next.router? id = none) := by
  rcases change.routers with same | ⟨new, bare, grown⟩ | ⟨gone, dropped⟩ | ⟨unruly, _⟩ | ⟨unruly, _⟩
  · unfold Registers router?
    rw [same]
    exact ⟨fun registers => registers, Or.inl⟩
  · refine ⟨?_, ?_⟩
    · rintro ⟨current, atCurrent, found⟩
      have place := router?_eq_some.mp atCurrent
      rw [grown, List.getElem?_append] at place
      split at place
      · exact ⟨current, router?_eq_some.mpr place, found⟩
      · rw [Option.some.inj (List.mem_singleton.mp (List.mem_of_getElem? place)), bare] at found
        cases found
    · rintro ⟨current, atCurrent, found⟩
      refine Or.inl ⟨current, router?_eq_some.mpr ?_, found⟩
      rw [grown, List.getElem?_append_left (router?_lt atCurrent)]
      exact router?_eq_some.mp atCurrent
  · have atOther : next.router? id = if id = gone then none else mesh.router? id := by
      rw [router?, dropped]
      exact join_getElem?_set (Or.inl rfl)
    refine ⟨?_, ?_⟩
    · rintro ⟨current, atCurrent, found⟩
      rw [atOther] at atCurrent
      split at atCurrent
      · cases atCurrent
      · exact ⟨current, atCurrent, found⟩
    · rintro ⟨current, atCurrent, found⟩
      by_cases same : id = gone
      · rw [if_pos same] at atOther
        refine Or.inr ⟨?_, atOther⟩
        rw [dropped, List.length_set]
        exact router?_lt atCurrent
      · rw [if_neg same] at atOther
        exact Or.inl ⟨current, atOther.trans atCurrent, found⟩
  · exact unruly.elim
  · exact unruly.elim

/-- Numbers of routers that are gone are not used again. -/
theorem Change.router_gone (change : Change False mesh next) (below : id < mesh.routers.length)
    (gone : mesh.router? id = none) : id < next.routers.length ∧ next.router? id = none := by
  rcases change.routers with same | ⟨new, bare, grown⟩ | ⟨other, dropped⟩ | ⟨unruly, _⟩ |
    ⟨unruly, _⟩
  · rw [router?, same]
    exact ⟨below, gone⟩
  · rw [router?, grown, List.getElem?_append_left below, List.length_append]
    exact ⟨by omega, gone⟩
  · rw [router?, dropped, join_getElem?_set (Or.inl rfl), List.length_set]
    refine ⟨below, ?_⟩
    split
    · rfl
    · exact gone
  · exact unruly.elim
  · exact unruly.elim

theorem Changes.registers (changes : Changes False mesh next)
    (registers : mesh.Registers id name target) :
    next.Registers id name target ∨ id < next.routers.length ∧ next.router? id = none := by
  induction changes with
  | refl => exact Or.inl registers
  | tail _ change ih =>
    rcases ih with still | ⟨below, gone⟩
    · exact change.registers.2 still
    · exact Or.inr (change.router_gone below gone)

theorem Change.served (change : Change False mesh next) (served : mesh.Served) : next.Served := by
  intro id name target registers
  have before := change.registers.1 registers
  obtain ⟨endpoint, there, started, direct⟩ := served id name target before
  obtain ⟨after, still, _, _, kept⟩ := change.endpoint before.held there
  obtain ⟨state, paths⟩ := kept.resolve_left fun unruly => unruly
  exact ⟨after, still, state.trans started, paths direct⟩

theorem Changes.served (changes : Changes False mesh next) (served : mesh.Served) :
    next.Served := by
  induction changes with
  | refl => exact served
  | tail _ change ih => exact change.served ih

theorem reach_missing (found : router.endpoints.find? name = none) (id : Nat) (link : Link) :
    mesh.reach id router name link = mesh.register id router name link := by
  unfold reach lookup
  rw [found]
  rfl

/-- A started endpoint takes another path, so it is never replaced. -/
theorem reach_started {endpoint : Endpoint}
    (present : mesh.lookup router name = some (target, endpoint))
    (started : endpoint.state = .started) (id : Nat) (link : Link) :
    ∃ added after, endpoint.tryAddLink link = some (added, after) ∧
      mesh.reach id router name link = (target, mesh.setEndpoint target after) := by
  have going : endpoint.isStopping = false := by
    unfold Endpoint.isStopping
    rw [started]
    rfl
  have taken : endpoint.tryAddLink link = some ((endpoint.routes.insertDirect link).1,
      { endpoint with routes := (endpoint.routes.insertDirect link).2 }) := by
    unfold Endpoint.tryAddLink
    rw [going]
    rfl
  refine ⟨_, _, taken, ?_⟩
  unfold reach
  rw [present]
  dsimp only
  rw [taken]

theorem Served.reach_registered (served : mesh.Served) (atId : mesh.router? id = some router)
    (found : router.endpoints.find? name = some target) (link : Link) :
    ∃ endpoint added after, mesh.endpoint? target = some endpoint ∧
      endpoint.tryAddLink link = some (added, after) ∧
        mesh.reach id router name link = (target, mesh.setEndpoint target after) := by
  obtain ⟨endpoint, there, started, _⟩ := served id name target ⟨router, atId, found⟩
  obtain ⟨added, after, taken, reached⟩ :=
    reach_started (lookup_eq_some.mpr ⟨found, there⟩) started id link
  exact ⟨endpoint, added, after, there, taken, reached⟩

theorem Served.reach (served : mesh.Served) (atId : mesh.router? id = some router)
    (opened : link ∈ mesh.links) (name : String) : (mesh.reach id router name link).2.Served := by
  cases found : router.endpoints.find? name with
  | some target =>
    obtain ⟨endpoint, added, after, there, taken, reached⟩ :=
      served.reach_registered atId found link
    rw [reached]
    exact Changes.served (changes_addLink there opened taken) served
  | none =>
    rw [reach_missing found id link]
    rintro other otherName target ⟨current, atCurrent, foundAfter⟩
    rcases register_origin atId atCurrent foundAfter with
      ⟨_, _, rfl, _⟩ | ⟨before, was, _, foundBefore⟩
    · refine ⟨_, endpoint?_register .., rfl, ?_⟩
      show (RouteTable.withDirect link).candidates .direct ≠ []
      simp [RouteTable.candidates_withDirect]
    · obtain ⟨endpoint, there, kept⟩ := served other otherName target ⟨before, was, foundBefore⟩
      exact ⟨endpoint, endpoint?_register_old _ _ _ _ there, kept⟩

/-- An endpoint stops by the removal of a link just if it runs empty. -/
theorem removeLink_stops_iff {endpoint : Endpoint} (started : endpoint.state = .started)
    (link : Link) : (endpoint.removeLink link).2.2.state = .stopping ↔
      (endpoint.removeLink link).2.1 = true := by
  show (if (endpoint.removeLink link).2.1 then EndpointState.stopping else endpoint.state) = _ ↔ _
  rw [started]
  cases (endpoint.removeLink link).2.1 <;> simp

/-- After a loss, the router has what it had before except for what it retired. -/
theorem LossFrame.registers_iff {order : List Nat}
    (frame : LossFrame mesh id router link order next) (atId : mesh.router? id = some router) :
    next.Registers id name target ↔
      mesh.Registers id name target ∧ name ∉ (mesh.lossReport link order).retired := by
  obtain ⟨endpoints, remains, entries⟩ := frame.router
  constructor
  · rintro ⟨current, atCurrent, found⟩
    rw [← Option.some.inj (remains.symm.trans atCurrent), entries] at found
    split at found
    · cases found
    · next standing => exact ⟨⟨router, atId, found⟩, standing⟩
  · rintro ⟨⟨current, atCurrent, found⟩, standing⟩
    rw [← Option.some.inj (atId.symm.trans atCurrent)] at found
    exact ⟨_, remains, (entries name).trans ((if_neg standing).trans found)⟩

theorem LossFrame.served {order : List Nat} (frame : LossFrame mesh id router link order next)
    (visits : Visits mesh router order) (registered : mesh.Registered)
    (atId : mesh.router? id = some router) (valid : ∀ table ∈ mesh.liveTables, table.Valid)
    (served : mesh.Served) : next.Served := by
  intro other name target registers
  by_cases here : other = id
  · subst here
    obtain ⟨before, standing⟩ := (frame.registers_iff atId).mp registers
    obtain ⟨endpoint, there, started, direct⟩ := served other name target before
    have present := before.lookup atId there
    have table := valid _ (mem_liveTables_iff.mpr (Or.inr ⟨target, endpoint, there, rfl⟩))
    have visited := (visits.complete name target endpoint present).1
    have loses := frame.inside target endpoint visited there
    have remains (rides : link ∈ endpoint.routes.directLinks) :
        (endpoint.removeLink link).2.1 = false :=
      Bool.eq_false_iff.mpr fun emptied =>
        standing (visits.retired_iff.mpr ⟨target, endpoint, present, rides, emptied⟩)
    rcases loses with ⟨_, same⟩ | ⟨rides, same | ⟨emptied, _⟩⟩
    · exact ⟨endpoint, same, started, direct⟩
    · refine ⟨_, same, ?_, (table.removeLink link).directLinks_of_not_leftEmpty (remains rides)⟩
      show (if (endpoint.removeLink link).2.1 then EndpointState.stopping else endpoint.state) = _
      rw [remains rides]
      exact started
    · rw [remains rides] at emptied
      cases emptied
  · have before : mesh.Registers other name target := by
      obtain ⟨current, atCurrent, found⟩ := registers
      exact ⟨current, (frame.elsewhere other here).symm.trans atCurrent, found⟩
    have outside : target ∉ order := by
      intro member
      obtain ⟨endpoint, _, found⟩ := visits.listed target member
      exact here (registered.single id endpoint.name target other name ⟨router, atId, found⟩ before)
    obtain ⟨endpoint, there, kept⟩ := served other name target before
    exact ⟨endpoint, (frame.outside target outside).trans there, kept⟩

theorem Move.served (move : Move False mesh next) (reach : Reach False mesh)
    (served : mesh.Served) :
    next.Served := by
  rcases move.cases_changes with tame | ⟨_, _, name, _, atId, opened, rfl⟩ |
    ⟨id, router, order, link, atId, permuted, rfl⟩
  · exact tame.served served
  · exact served.reach atId opened name
  · obtain ⟨_, frame⟩ := reach.accounted.loseLinkIn reach.registered atId permuted link
    exact frame.served (reach.registered.visits atId permuted) reach.registered atId
      reach.accounted.valid served

theorem Reach.served (reach : Reach False mesh) : mesh.Served := by
  induction reach with
  | start =>
    rintro id name target ⟨router, atId, _⟩
    simp [router?, empty] at atId
  | next reach move ih => exact move.served reach ih

theorem Served.reach_registers {other : Nat} {otherName : String} (served : mesh.Served)
    (atId : mesh.router? id = some router) (name : String) (link : Link)
    (registers : mesh.Registers other otherName target) :
    (mesh.reach id router name link).2.Registers other otherName target := by
  obtain ⟨current, atCurrent, foundOther⟩ := registers
  cases found : router.endpoints.find? name with
  | some old =>
    obtain ⟨_, _, _, _, _, reached⟩ := served.reach_registered atId found link
    rw [reached]
    exact ⟨current, atCurrent, foundOther⟩
  | none =>
    rw [reach_missing found id link]
    have atOther := router?_register atId name link other
    by_cases same : other = id
    · subst same
      rw [if_pos rfl] at atOther
      rw [← Option.some.inj (atId.symm.trans atCurrent)] at foundOther
      have different : otherName ≠ name := by
        rintro rfl
        rw [found] at foundOther
        cases foundOther
      exact ⟨_, atOther, (OrderedMap.find?_insert_ne _ _ different).trans foundOther⟩
    · rw [if_neg same] at atOther
      exact ⟨current, atOther.trans atCurrent, foundOther⟩

/-- A name leaves a router that stays only by a loss, and just if the loss stops its endpoint. -/
theorem Move.leaves_iff (move : Move False mesh next) (reach : Reach False mesh)
    (registers : mesh.Registers id name target) (stays : next.router? id ≠ none) :
    ¬next.Registers id name target ↔ ∃ router order link endpoint,
      mesh.router? id = some router ∧ order.Perm router.endpoints.values ∧
        next = (mesh.loseLinkIn order id link).2 ∧ mesh.endpoint? target = some endpoint ∧
          link ∈ endpoint.routes.directLinks ∧
            (endpoint.removeLink link).2.2.state = .stopping := by
  have registered := reach.registered
  obtain ⟨endpoint, there, started, _⟩ := reach.served id name target registers
  constructor
  · intro left
    rcases move.cases_changes with tame | ⟨_, _, reached, link, atId, _, rfl⟩ |
      ⟨other, router, order, link, atOther, permuted, rfl⟩
    · rcases tame.registers registers with still | ⟨_, gone⟩
      · exact (left still).elim
      · exact (stays gone).elim
    · exact (left (reach.served.reach_registers atId reached link registers)).elim
    · obtain ⟨_, frame⟩ := reach.accounted.loseLinkIn registered atOther permuted link
      by_cases here : id = other
      · subst here
        have fallen : name ∈ (mesh.lossReport link order).retired := by
          by_contra standing
          exact left ((frame.registers_iff atOther).mpr ⟨registers, standing⟩)
        obtain ⟨found, also, present, direct, emptied⟩ :=
          (registered.visits atOther permuted).retired_iff.mp fallen
        rw [registers.lookup atOther there] at present
        obtain ⟨rfl, rfl⟩ := Prod.mk.inj (Option.some.inj present)
        exact ⟨router, order, link, endpoint, atOther, permuted, rfl, there, direct,
          (removeLink_stops_iff started link).mpr emptied⟩
      · obtain ⟨current, atCurrent, found⟩ := registers
        exact (left ⟨current, (frame.elsewhere id here).trans atCurrent, found⟩).elim
  · rintro ⟨router, order, link, lost, atId, permuted, rfl, alsoThere, direct, stopping⟩ still
    rw [Option.some.inj (alsoThere.symm.trans there)] at direct stopping
    obtain ⟨_, frame⟩ := reach.accounted.loseLinkIn registered atId permuted link
    have fallen : name ∈ (mesh.lossReport link order).retired :=
      (registered.visits atId permuted).retired_iff.mpr ⟨target, endpoint,
        registers.lookup atId there, direct, (removeLink_stops_iff started link).mp stopping⟩
    exact ((frame.registers_iff atId).mp still).2 fallen

end Mesh

end DaemonMesh
