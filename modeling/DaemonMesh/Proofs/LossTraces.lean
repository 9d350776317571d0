import DaemonMesh.Proofs.DepartedPaths
import DaemonMesh.Proofs.ServedNames

namespace DaemonMesh

namespace Mesh

/-- What goes on beside the losses of links leaves all routes alone, those of bare tables too. -/
structure Apart (mesh next : Mesh) : Prop extends Aside mesh next where
  tables : next.tables = mesh.tables
  endpointHandles : next.endpointHandles = mesh.endpointHandles

theorem apart_self (mesh : Mesh) : mesh.Apart mesh := ⟨mesh.aside_self, rfl, rfl⟩

theorem Apart.trans {mesh next later : Mesh} (first : mesh.Apart next) (second : next.Apart later) :
    mesh.Apart later :=
  ⟨first.toAside.trans second.toAside, second.tables.trans first.tables,
    second.endpointHandles.trans first.endpointHandles⟩

/-- Losses of links to a router one after the other, each with its report. Nothing but what goes on
apart happens in between, and each loss may visit the endpoints in an order of its own. -/
inductive Losses (handles : Prop) (id : Nat) (start : Mesh) :
    List (Link × LossReport) → Mesh → Prop
  | start : Losses handles id start [] start
  | apart {losses : List (Link × LossReport)} {mesh next : Mesh}
      (run : Losses handles id start losses mesh) (apart : mesh.Apart next)
      (reach : Reach handles next) : Losses handles id start losses next
  | lose {losses : List (Link × LossReport)} {mesh : Mesh} {router : Router} {order : List Nat}
      (run : Losses handles id start losses mesh) (atId : mesh.router? id = some router)
      (visits : order.Perm router.endpoints.values) (link : Link) :
      Losses handles id start (losses ++ [(link, (mesh.loseLinkIn order id link).1)])
        (mesh.loseLinkIn order id link).2

/-- The state after losses, in terms of the state before: what each endpoint of the router has come
to, and that nothing else has changed. -/
structure Traced (start : Mesh) (id : Nat) (router : Router) (lost : List Link) (mesh : Mesh) :
    Prop where
  tables : mesh.tables = start.tables
  endpointHandles : mesh.endpointHandles = start.endpointHandles
  size : mesh.endpoints.length = start.endpoints.length
  elsewhere : ∀ other, other ≠ id → mesh.router? other = start.router? other
  outside : ∀ target, target ∉ router.endpoints.values →
    mesh.endpoint? target = start.endpoint? target
  inside : ∀ name target endpoint, start.lookup router name = some (target, endpoint) →
    mesh.endpoint? target = (endpoint.losing lost).slot (start.endpointHandles.contains target)
  registry : ∃ endpoints, mesh.router? id = some { router with endpoints } ∧ ∀ name target,
    endpoints.find? name = some target ↔ ∃ endpoint,
      start.lookup router name = some (target, endpoint) ∧
        (endpoint.losing lost).registered = true

variable {handles : Prop} {start mesh next : Mesh} {id : Nat} {router : Router} {lost : List Link}
  {link : Link}

theorem traced_start (registered : start.Registered) (atId : start.router? id = some router) :
    Traced start id router [] start where
  tables := rfl
  endpointHandles := rfl
  size := rfl
  elsewhere _ _ := rfl
  outside _ _ := rfl
  inside _ _ _ present := (lookup_eq_some.mp present).2
  registry := by
    refine ⟨router.endpoints, atId, fun name target => ⟨fun found => ?_, ?_⟩⟩
    · obtain ⟨endpoint, present⟩ := registered.lookup_of_find atId found
      exact ⟨endpoint, present, rfl⟩
    · rintro ⟨endpoint, present, _⟩
      exact (lookup_eq_some.mp present).1

theorem Traced.apart (traced : Traced start id router lost mesh) (apart : mesh.Apart next) :
    Traced start id router lost next where
  tables := apart.tables.trans traced.tables
  endpointHandles := apart.endpointHandles.trans traced.endpointHandles
  size := (congrArg List.length apart.endpoints).trans traced.size
  elsewhere other different := (apart.router?_eq other).trans (traced.elsewhere other different)
  outside target outside := (apart.endpoint?_eq target).trans (traced.outside target outside)
  inside name target endpoint present :=
    (apart.endpoint?_eq target).trans (traced.inside name target endpoint present)
  registry := by
    rw [apart.router?_eq]
    exact traced.registry

/-- An endpoint that has fallen is registered no more, under whatever name. -/
theorem Traced.fallen (traced : Traced start id router lost mesh) {current : Router}
    (atId : mesh.router? id = some current) (sorted : current.endpoints.Ascending) {name : String}
    {target : Nat} {endpoint : Endpoint}
    (present : start.lookup router name = some (target, endpoint))
    (off : (endpoint.losing lost).registered = false) : target ∉ current.endpoints.values := by
  intro member
  obtain ⟨endpoints, remains, entries⟩ := traced.registry
  obtain ⟨otherName, found⟩ := sorted.mem_values_iff.mp member
  rw [← Option.some.inj (remains.symm.trans atId), entries] at found
  obtain ⟨other, alsoPresent, registered⟩ := found
  have same := (lookup_eq_some.mp present).2.symm.trans (lookup_eq_some.mp alsoPresent).2
  rw [← Option.some.inj same, off] at registered
  cases registered

/-- An endpoint that stands is found under its name, as it has become. -/
theorem Traced.standing (traced : Traced start id router lost mesh) {current : Router}
    (atId : mesh.router? id = some current) {name : String} {target : Nat} {endpoint : Endpoint}
    (present : start.lookup router name = some (target, endpoint))
    (stands : (endpoint.losing lost).registered = true) :
    mesh.lookup current name = some (target, (endpoint.losing lost).endpoint) := by
  obtain ⟨endpoints, remains, entries⟩ := traced.registry
  refine lookup_eq_some.mpr ⟨?_, ?_⟩
  · rw [← Option.some.inj (remains.symm.trans atId)]
    exact (entries name target).mpr ⟨endpoint, present, stands⟩
  · rw [traced.inside name target endpoint present, Standing.slot, stands]
    rfl

section OneMore

variable {current : Router} {order : List Nat} (traced : Traced start id router lost mesh)
  (accounted : mesh.Accounted) (registered : mesh.Registered)
  (atId : mesh.router? id = some current) (permuted : order.Perm current.endpoints.values)
include traced accounted registered atId permuted

/-- One more loss takes an endpoint that stands one step on. -/
theorem Traced.falls {name : String} {target : Nat} {endpoint : Endpoint}
    (present : start.lookup router name = some (target, endpoint))
    (stands : (endpoint.losing lost).registered = true) (link : Link) :
    (mesh.loseLinkIn order id link).2.endpoint? target =
        (endpoint.losing (lost ++ [link])).slot (start.endpointHandles.contains target) ∧
      (name ∈ (mesh.loseLinkIn order id link).1.retired ↔
        (endpoint.losing (lost ++ [link])).registered = false) := by
  have whole : (⟨(endpoint.losing lost).endpoint, true⟩ : Standing) = endpoint.losing lost := by
    rw [← stands]
  have step := accounted.loseLinkIn_standing registered atId permuted link
    (traced.standing atId present stands)
  rwa [whole, ← Endpoint.losing_concat, traced.endpointHandles] at step

/-- The report of one more loss names those that fall with it. -/
theorem Traced.retired_iff (link : Link) {name : String} :
    name ∈ (mesh.loseLinkIn order id link).1.retired ↔ ∃ target endpoint,
      start.lookup router name = some (target, endpoint) ∧
        (endpoint.losing lost).registered = true ∧
          (endpoint.losing (lost ++ [link])).registered = false := by
  constructor
  · intro fallen
    obtain ⟨endpoints, remains, entries⟩ := traced.registry
    have named := fallen
    rw [(accounted.loseLinkIn registered atId permuted link).1] at named
    obtain ⟨target, _, present, _⟩ :=
      (registered.visits atId permuted).retired_iff.mp named
    have found := (lookup_eq_some.mp present).1
    rw [← Option.some.inj (remains.symm.trans atId), entries] at found
    obtain ⟨endpoint, before, stands⟩ := found
    have falls := traced.falls accounted registered atId permuted before stands link
    exact ⟨target, endpoint, before, stands, falls.2.mp fallen⟩
  · rintro ⟨target, endpoint, present, stands, off⟩
    exact (traced.falls accounted registered atId permuted present stands link).2.mpr off

theorem Traced.registry_lose (link : Link) :
    ∃ endpoints, (mesh.loseLinkIn order id link).2.router? id = some { router with endpoints } ∧
      ∀ name target, endpoints.find? name = some target ↔ ∃ endpoint,
        start.lookup router name = some (target, endpoint) ∧
          (endpoint.losing (lost ++ [link])).registered = true := by
  obtain ⟨report, frame⟩ := accounted.loseLinkIn registered atId permuted link
  obtain ⟨endpoints, remains, entries⟩ := traced.registry
  have shape := Option.some.inj (remains.symm.trans atId)
  obtain ⟨rest, after, left⟩ := frame.router
  refine ⟨rest, ?_, fun name target => ?_⟩
  · rw [after, ← shape]
  · have still : rest.find? name = some target ↔ endpoints.find? name = some target ∧
        name ∉ (mesh.loseLinkIn order id link).1.retired := by
      rw [left, report, ← shape]
      show (if name ∈ (mesh.lossReport link order).retired then none
        else endpoints.find? name) = some target ↔ _
      by_cases fallen : name ∈ (mesh.lossReport link order).retired <;> simp [fallen]
    rw [still, entries]
    constructor
    · rintro ⟨⟨endpoint, present, stands⟩, standing⟩
      have falls := traced.falls accounted registered atId permuted present stands link
      refine ⟨endpoint, present, ?_⟩
      by_contra off
      exact standing (falls.2.mpr (Bool.eq_false_iff.mpr off))
    · rintro ⟨endpoint, present, stays⟩
      have stands : (endpoint.losing lost).registered = true := by
        by_contra off
        rw [Endpoint.losing_concat, Standing.lose_off (Bool.eq_false_iff.mpr off)] at stays
        exact off stays
      have falls := traced.falls accounted registered atId permuted present stands link
      refine ⟨⟨endpoint, present, stands⟩, fun fallen => ?_⟩
      rw [falls.2.mp fallen] at stays
      cases stays

theorem Traced.lose (link : Link) :
    Traced start id router (lost ++ [link]) (mesh.loseLinkIn order id link).2 := by
  have sorted := registered.sorted id current atId
  obtain ⟨_, frame⟩ := accounted.loseLinkIn registered atId permuted link
  obtain ⟨touches, _⟩ := foldl_loseAt_touches id link order (.empty, mesh)
  refine ⟨touches.tables.trans traced.tables,
    touches.endpointHandles.trans traced.endpointHandles, touches.size.trans traced.size,
    fun other different =>
      (frame.elsewhere other different).trans (traced.elsewhere other different), ?_, ?_,
    traced.registry_lose accounted registered atId permuted link⟩
  · intro target outside
    obtain ⟨endpoints, remains, entries⟩ := traced.registry
    have unlisted : target ∉ order := by
      intro member
      obtain ⟨name, found⟩ := sorted.mem_values_iff.mp (permuted.mem_iff.mp member)
      rw [← Option.some.inj (remains.symm.trans atId), entries] at found
      obtain ⟨endpoint, present, _⟩ := found
      have listed := OrderedMap.mem_of_lookup (lookup_eq_some.mp present).1
      exact outside (List.mem_map_of_mem listed)
    exact (frame.outside target unlisted).trans (traced.outside target outside)
  · intro name target endpoint present
    cases stands : (endpoint.losing lost).registered with
    | true => exact (traced.falls accounted registered atId permuted present stands link).1
    | false =>
      have unlisted : target ∉ order := fun member =>
        traced.fallen atId sorted present stands (permuted.mem_iff.mp member)
      rw [frame.outside target unlisted, traced.inside name target endpoint present,
        Endpoint.losing_concat, Standing.lose_off stands]

end OneMore

/-- The report of each loss in a run names those that fall with just this loss. -/
theorem Losses.traced {losses : List (Link × LossReport)}
    (run : Losses handles id start losses mesh) (reach : Reach handles start)
    (atStart : start.router? id = some router) :
    Reach handles mesh ∧ Traced start id router (losses.map Prod.fst) mesh ∧
      ∀ before link report later, losses = before ++ (link, report) :: later →
        ∀ name, name ∈ report.retired ↔ ∃ target endpoint,
          start.lookup router name = some (target, endpoint) ∧
            (endpoint.losing (before.map Prod.fst)).registered = true ∧
              (endpoint.losing (before.map Prod.fst ++ [link])).registered = false := by
  induction run with
  | start =>
    refine ⟨reach, traced_start reach.registered atStart, ?_⟩
    intro before link report later whole
    cases before <;> cases whole
  | apart _ apart reached ih =>
    obtain ⟨_, traced, reports⟩ := ih
    exact ⟨reached, traced.apart apart, reports⟩
  | @lose losses mesh current order run atId permuted link ih =>
    obtain ⟨reached, traced, reports⟩ := ih
    have after := traced.lose reached.accounted reached.registered atId permuted link
    refine ⟨reached.next (.loseLink atId permuted link), ?_, ?_⟩
    · rw [List.map_append]
      exact after
    · intro before other report later whole
      rcases List.eq_nil_or_concat later with rfl | ⟨rest, last, rfl⟩
      · obtain ⟨rfl, single⟩ := List.append_inj' whole rfl
        obtain ⟨rfl, rfl⟩ := Prod.mk.inj (List.singleton_inj.mp single)
        exact fun name =>
          traced.retired_iff reached.accounted reached.registered atId permuted _
      · rw [List.concat_eq_append, ← List.cons_append, ← List.append_assoc] at whole
        exact reports before other report rest (List.append_inj' whole rfl).1

end Mesh

end DaemonMesh
