import DaemonMesh.Proofs.LossReports

namespace DaemonMesh

/-- An endpoint as a router has it: how it is by now, and whether it is still registered. -/
@[ext]
structure Standing where
  endpoint : Endpoint
  registered : Bool

namespace Standing

/-- The loss of a link is felt as long as the endpoint is registered, and takes it off the router if
nothing usable is left. -/
def lose (standing : Standing) (link : Link) : Standing :=
  if standing.registered && standing.endpoint.routes.hasDirect link then
    ⟨(standing.endpoint.removeLink link).2.2, !(standing.endpoint.removeLink link).2.1⟩
  else standing

theorem lose_off {standing : Standing} (off : standing.registered = false) (link : Link) :
    standing.lose link = standing := by
  unfold lose
  rw [off]
  rfl

theorem lose_direct {endpoint : Endpoint} {link : Link}
    (direct : link ∈ endpoint.routes.directLinks) : lose ⟨endpoint, true⟩ link =
      ⟨(endpoint.removeLink link).2.2, !(endpoint.removeLink link).2.1⟩ := by
  unfold lose
  rw [RouteTable.hasDirect_iff.mpr direct]
  rfl

theorem lose_spared {endpoint : Endpoint} {link : Link}
    (absent : link ∉ endpoint.routes.directLinks) :
    lose ⟨endpoint, true⟩ link = ⟨endpoint, true⟩ := by
  unfold lose
  rw [RouteTable.not_hasDirect_iff.mpr absent]
  rfl

/-- What stands at the endpoint's number. Off the router, it is there only as long as it is held. -/
def slot (standing : Standing) (held : Bool) : Option Endpoint :=
  if standing.registered || held then some standing.endpoint else none

end Standing

/-- How a registered endpoint stands after losses. -/
def Endpoint.losing (endpoint : Endpoint) (lost : List Link) : Standing :=
  lost.foldl Standing.lose ⟨endpoint, true⟩

theorem Endpoint.losing_concat (endpoint : Endpoint) (lost : List Link) (link : Link) :
    endpoint.losing (lost ++ [link]) = (endpoint.losing lost).lose link := by
  unfold losing
  rw [List.foldl_append]
  rfl

namespace Mesh

variable {mesh : Mesh} {id target : Nat} {name : String} {router : Router} {endpoint : Endpoint}
  {link : Link} {order : List Nat}

theorem set_getElem?_join {α : Type} (slots : List (Option α)) (place : Nat) :
    slots.set place slots[place]?.join = slots := by
  refine List.ext_getElem? fun other => ?_
  rw [List.getElem?_set]
  split
  · next here =>
    subst here
    split
    · next within => rw [List.getElem?_eq_getElem within]; rfl
    · next beyond => rw [List.getElem?_eq_none (Nat.le_of_not_lt beyond)]
  · rfl

/-- Slots are known by what stands in them. -/
theorem slots_ext {α : Type} {first second : List (Option α)} (size : first.length = second.length)
    (same : ∀ place : Nat, first[place]?.join = second[place]?.join) : first = second := by
  refine List.ext_getElem size fun place within also => ?_
  have slot := same place
  rwa [List.getElem?_eq_getElem within, List.getElem?_eq_getElem also, Option.join_some,
    Option.join_some] at slot

/-- A visit changes the visited endpoint, the routers and the references, and nothing else. -/
theorem loseAt_shape (id : Nat) (link : Link) (report : LossReport) (mesh : Mesh) (target : Nat) :
    ∃ slot routers counts overdrawn, routers.length = mesh.routers.length ∧
      (loseAt id link (report, mesh) target).2 =
        { mesh with endpoints := mesh.endpoints.set target slot, routers, counts, overdrawn } := by
  by_cases hit : ∃ endpoint, mesh.endpoint? target = some endpoint ∧
      link ∈ endpoint.routes.directLinks
  · obtain ⟨endpoint, there, direct⟩ := hit
    obtain ⟨counts, overdrawn, removal⟩ := mesh.removeLink_frame target endpoint link
    rw [loseAt_hit there direct, removal]
    dsimp only
    split
    · unfold retire
      split
      · exact ⟨_, _, _, _, rfl, rfl⟩
      · next current _ =>
        split
        · have cleared : ({ mesh with
              endpoints := mesh.endpoints.set target (some (endpoint.removeLink link).2.2)
              routers := mesh.routers.set id
                (some { current with endpoints := current.endpoints.erase endpoint.name })
              counts, overdrawn } : Mesh).endpoint? target =
                some (endpoint.removeLink link).2.2 :=
            (join_getElem?_set (Or.inr (endpoint?_lt there))).trans (if_pos rfl)
          obtain ⟨slot, counts', overdrawn', _, discarded⟩ := discardUnheld_frame cleared
          rw [List.set_set] at discarded
          exact ⟨slot, _, counts', overdrawn', List.length_set .., discarded⟩
        · exact ⟨_, _, _, _, rfl, rfl⟩
    · exact ⟨_, _, _, _, rfl, rfl⟩
  · rw [loseAt_spared fun endpoint there direct => hit ⟨endpoint, there, direct⟩]
    refine ⟨mesh.endpoints[target]?.join, mesh.routers, mesh.counts, mesh.overdrawn, rfl, ?_⟩
    rw [set_getElem?_join]

theorem registries_reach (mesh : Mesh) (id : Nat) (router : Router) (name : String)
    (link : Link) : (mesh.reach id router name link).2.registries = mesh.registries ∧
      (mesh.reach id router name link).2.routerHandles = mesh.routerHandles := by
  unfold reach
  split
  · exact ⟨rfl, rfl⟩
  · next old _ _ =>
    split
    · exact ⟨rfl, rfl⟩
    · obtain ⟨_, _, _, shape⟩ := (mesh.register id router name link).2.discardUnheld_shape old
      dsimp only
      rw [shape]
      exact ⟨rfl, rfl⟩

/-- The visits of a loss change endpoints, routers and references only. -/
structure Touches (mesh next : Mesh) : Prop where
  links : next.links = mesh.links
  tables : next.tables = mesh.tables
  endpointHandles : next.endpointHandles = mesh.endpointHandles
  routerHandles : next.routerHandles = mesh.routerHandles
  registries : next.registries = mesh.registries
  size : next.endpoints.length = mesh.endpoints.length
  routersSize : next.routers.length = mesh.routers.length

theorem foldl_loseAt_touches (id : Nat) (link : Link) (order : List Nat)
    (state : LossReport × Mesh) :
    state.2.Touches (order.foldl (loseAt id link) state).2 ∧ ∀ target, target ∉ order →
      (order.foldl (loseAt id link) state).2.endpoint? target = state.2.endpoint? target := by
  induction order generalizing state with
  | nil => exact ⟨⟨rfl, rfl, rfl, rfl, rfl, rfl, rfl⟩, fun _ _ => rfl⟩
  | cons first rest ih =>
    obtain ⟨report, mesh⟩ := state
    obtain ⟨slot, routers, counts, overdrawn, sized, shape⟩ :=
      loseAt_shape id link report mesh first
    obtain ⟨later, unvisited⟩ := ih (loseAt id link (report, mesh) first)
    rw [List.foldl_cons]
    rw [shape] at later unvisited
    refine ⟨⟨later.links, later.tables, later.endpointHandles, later.routerHandles,
      later.registries, later.size.trans (List.length_set ..), later.routersSize.trans sized⟩,
      fun target outside => ?_⟩
    obtain ⟨different, notLater⟩ := not_or.mp (List.mem_cons.not.mp outside)
    rw [unvisited target notLater]
    unfold endpoint?
    rw [List.getElem?_set_ne (Ne.symm different)]

theorem discardUnheld_gone (unheld : mesh.isHeld target = false) :
    (mesh.discardUnheld target).endpoint? target = none := by
  unfold discardUnheld
  rw [unheld]
  cases there : mesh.endpoint? target with
  | none => exact there
  | some endpoint =>
    obtain ⟨counts, overdrawn, frame, _⟩ := releaseAll_frame
      { mesh with endpoints := mesh.endpoints.set target none } endpoint.routes.sessionLinks
    simp only [Bool.false_eq_true, if_false, frame]
    exact (join_getElem?_set (Or.inl rfl)).trans (if_pos rfl)

theorem isHeld_eq_false (unheld : target ∉ mesh.endpointHandles)
    (alone : ∀ other current, mesh.router? other = some current →
      target ∉ current.endpoints.values) : mesh.isHeld target = false := by
  unfold isHeld isRegistered
  rw [Bool.or_eq_false_iff]
  refine ⟨?_, ?_⟩
  · rw [← Bool.not_eq_true, List.contains_iff_mem]
    exact unheld
  · rw [List.any_eq_false]
    intro slot member holds
    obtain ⟨current, rfl, contains⟩ := (Option.any_eq_true _ _).mp holds
    obtain ⟨other, atOther⟩ := List.mem_iff_getElem?.mp member
    exact alone other current (router?_eq_some.mpr atOther) (List.contains_iff_mem.mp contains)

/-- An endpoint is registered under no other name and with no other router, so nobody has it once it
is off its router. -/
theorem Registered.unheld_erase (registered : mesh.Registered)
    (atId : mesh.router? id = some router) (found : router.endpoints.find? name = some target)
    (unheld : target ∉ mesh.endpointHandles) (endpoints : List (Option Endpoint))
    (counts : List Nat) (overdrawn : List Link) :
    ({ mesh with
      endpoints
      routers := mesh.routers.set id
        (some { router with endpoints := router.endpoints.erase name })
      counts, overdrawn } : Mesh).isHeld target = false := by
  have alone (other : Nat) (current : Router)
      (atOther : (mesh.setRouter id
        { router with endpoints := router.endpoints.erase name }).router? other = some current) :
      target ∉ current.endpoints.values := by
    intro member
    rw [router?_setRouter atId] at atOther
    split at atOther
    · next here =>
      subst here
      rw [← Option.some.inj atOther] at member
      obtain ⟨⟨key, value⟩, inErased, rfl⟩ := List.mem_map.mp member
      obtain ⟨before, different⟩ := List.mem_filter.mp inErased
      have sorted := registered.sorted other router atId
      obtain ⟨endpoint, there, named, _⟩ :=
        registered.known other router name value atId found
      obtain ⟨also, alsoThere, alsoNamed, _⟩ :=
        registered.known other router key value atId (sorted.mem_entries_iff.mp before)
      rw [← Option.some.inj (there.symm.trans alsoThere)] at alsoNamed
      exact of_decide_eq_true different (alsoNamed.symm.trans named)
    · next elsewhere =>
      have sorted := registered.sorted other current atOther
      obtain ⟨otherName, foundOther⟩ := sorted.mem_values_iff.mp member
      exact elsewhere (registered.single id name target other otherName ⟨router, atId, found⟩
        ⟨current, atOther, foundOther⟩)
  exact isHeld_eq_false unheld alone

/-- What the visit of an endpoint leaves at its number. -/
theorem loseAt_standing (registered : mesh.Registered) (atId : mesh.router? id = some router)
    (found : router.endpoints.find? endpoint.name = some target)
    (there : mesh.endpoint? target = some endpoint) (link : Link) (report : LossReport) :
    (loseAt id link (report, mesh) target).2.endpoint? target =
      (Standing.lose ⟨endpoint, true⟩ link).slot (mesh.endpointHandles.contains target) := by
  by_cases direct : link ∈ endpoint.routes.directLinks
  · obtain ⟨counts, overdrawn, removal⟩ := mesh.removeLink_frame target endpoint link
    have removed := endpoint?_setEndpoint_self there (endpoint.removeLink link).2.2
    rw [loseAt_hit there direct, removal, Standing.lose_direct direct]
    cases emptied : (endpoint.removeLink link).2.1 with
    | false => exact removed
    | true =>
      have stillAt : ({ mesh with
          endpoints := mesh.endpoints.set target (some (endpoint.removeLink link).2.2)
          counts, overdrawn } : Mesh).router? id = some router := atId
      simp only [if_true, retire, stillAt, found, Standing.slot, Bool.not_true, Bool.false_or]
      by_cases handled : target ∈ mesh.endpointHandles
      · rw [if_pos (List.contains_iff_mem.mpr handled), discardUnheld, isHeld]
        have holds : mesh.endpointHandles.contains target = true :=
          List.contains_iff_mem.mpr handled
        simp only [setRouter, holds, Bool.true_or, if_true]
        exact removed
      · rw [if_neg fun holds => handled (List.contains_iff_mem.mp holds)]
        exact discardUnheld_gone (registered.unheld_erase atId found handled _ counts overdrawn)
  · have spared (other : Endpoint) (alsoThere : mesh.endpoint? target = some other) :
        link ∉ other.routes.directLinks := by
      rw [← Option.some.inj (there.symm.trans alsoThere)]
      exact direct
    rw [loseAt_spared spared, Standing.lose_spared direct]
    exact there

/-- When its turn comes, an endpoint is as it was and still on the router: those visited before have
other names. -/
theorem Accounted.loseLinkIn_before (accounted : mesh.Accounted) (registered : mesh.Registered)
    (atId : mesh.router? id = some router) {earlier later : List Nat}
    (permuted : (earlier ++ target :: later).Perm router.endpoints.values) (link : Link)
    (present : mesh.lookup router name = some (target, endpoint)) :
    (∃ current, (mesh.loseLinkIn earlier id link).2.router? id = some current ∧
        current.endpoints.find? endpoint.name = some target) ∧
      (mesh.loseLinkIn earlier id link).2.endpoint? target = some endpoint ∧
        (mesh.loseLinkIn earlier id link).2.endpointHandles = mesh.endpointHandles := by
  have visits := registered.visits atId permuted
  obtain ⟨_, named⟩ := visits.complete name target endpoint present
  obtain ⟨found, there⟩ := lookup_eq_some.mp present
  obtain ⟨distinct, _, apart⟩ := List.nodup_append.mp visits.distinct
  have notEarlier : target ∉ earlier := fun member =>
    apart target member target List.mem_cons_self rfl
  have listed (other : Nat) (member : other ∈ earlier) :
      ∃ otherName, router.endpoints.find? otherName = some other := by
    obtain ⟨another, _, foundOther⟩ := visits.listed other (List.mem_append_left _ member)
    exact ⟨another.name, foundOther⟩
  obtain ⟨_, frame⟩ := foldl_loseAt accounted registered atId listed distinct link .empty
  obtain ⟨endpoints, remains, entries⟩ := frame.router
  refine ⟨⟨_, remains, ?_⟩, (frame.outside target notEarlier).trans there, frame.endpointHandles⟩
  show endpoints.find? endpoint.name = some target
  rw [entries, named, if_neg, found]
  intro fallen
  obtain ⟨other, member, falls⟩ := List.mem_filterMap.mp fallen
  obtain ⟨another, alsoThere, foundOther⟩ := visits.listed other (List.mem_append_left _ member)
  rw [← fallAt_name alsoThere falls, found] at foundOther
  rw [Option.some.inj foundOther] at notEarlier
  exact notEarlier member

theorem Visits.retired_standing_iff (visits : Visits mesh router order) (link : Link)
    (present : mesh.lookup router name = some (target, endpoint)) :
    name ∈ (mesh.lossReport link order).retired ↔
      (Standing.lose ⟨endpoint, true⟩ link).registered = false := by
  rw [visits.retired_iff]
  by_cases direct : link ∈ endpoint.routes.directLinks
  · rw [Standing.lose_direct direct]
    constructor
    · rintro ⟨other, another, alsoPresent, _, emptied⟩
      rw [present] at alsoPresent
      obtain ⟨rfl, rfl⟩ := Prod.mk.inj (Option.some.inj alsoPresent)
      exact congrArg not emptied
    · exact fun off => ⟨target, endpoint, present, direct, (Bool.not_eq_false' ..).mp off⟩
  · rw [Standing.lose_spared direct]
    refine ⟨?_, fun off => by cases off⟩
    rintro ⟨other, another, alsoPresent, also, _⟩
    rw [present] at alsoPresent
    obtain ⟨rfl, rfl⟩ := Prod.mk.inj (Option.some.inj alsoPresent)
    exact (direct also).elim

/-- A loss leaves each registered endpoint as its own standing says, in whatever order the endpoints
are visited. -/
theorem Accounted.loseLinkIn_standing (accounted : mesh.Accounted) (registered : mesh.Registered)
    (atId : mesh.router? id = some router) (permuted : order.Perm router.endpoints.values)
    (link : Link) (present : mesh.lookup router name = some (target, endpoint)) :
    (mesh.loseLinkIn order id link).2.endpoint? target =
        (Standing.lose ⟨endpoint, true⟩ link).slot (mesh.endpointHandles.contains target) ∧
      (name ∈ (mesh.loseLinkIn order id link).1.retired ↔
        (Standing.lose ⟨endpoint, true⟩ link).registered = false) := by
  have visits := registered.visits atId permuted
  refine ⟨?_, ?_⟩
  · obtain ⟨earlier, later, rfl⟩ :=
      List.append_of_mem (visits.complete name target endpoint present).1
    obtain ⟨⟨current, remains, still⟩, unvisited, handles⟩ :=
      accounted.loseLinkIn_before registered atId permuted link present
    have changes := changes_loseLinkIn trivial mesh earlier id link
    have visit := loseAt_standing (changes.registered registered) remains still unvisited link
      (mesh.loseLinkIn earlier id link).1
    have notLater := (List.nodup_cons.mp (List.nodup_append.mp visits.distinct).2.1).1
    have after := (foldl_loseAt_touches id link later
      (loseAt id link (mesh.loseLinkIn earlier id link) target)).2 target notLater
    rw [handles] at visit
    have whole : mesh.loseLinkIn (earlier ++ target :: later) id link =
        later.foldl (loseAt id link) (loseAt id link (mesh.loseLinkIn earlier id link) target) := by
      unfold Mesh.loseLinkIn
      rw [List.foldl_append, List.foldl_cons]
    rw [whole, after]
    exact visit
  · rw [(accounted.loseLinkIn registered atId permuted link).1]
    exact visits.retired_standing_iff link present

end Mesh

end DaemonMesh
