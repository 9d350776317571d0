import DaemonMesh.Proofs.LossRuns
import Mathlib.Data.List.Nodup

namespace DaemonMesh

theorem OrderedMap.Ascending.mem_values_iff {α : Type} {map : OrderedMap String α}
    (ascending : map.Ascending) {value : α} :
    value ∈ map.values ↔ ∃ key, map.find? key = some value := by
  unfold OrderedMap.values
  simp only [List.mem_map, Prod.exists, ascending.mem_entries_iff, exists_eq_right]

namespace Mesh

variable {mesh : Mesh} {id : Nat} {router : Router} {name : String} {link : Link}
  {order : List Nat}

/-- What a report of losses says, pair by pair: an endpoint visited had the direct path, and the
session was bound to the link there. -/
theorem mem_lost_iff {session : SessionId} :
    (name, session) ∈ (mesh.lossReport link order).lost ↔ ∃ target ∈ order, ∃ endpoint,
      mesh.endpoint? target = some endpoint ∧ link ∈ endpoint.routes.directLinks ∧
        endpoint.name = name ∧ session ∈ endpoint.routes.sessionsOf link := by
  simp only [lossReport, lossAt, List.mem_flatMap, List.mem_filterMap, Option.map_eq_some_iff,
    Option.filter_eq_some_iff, RouteTable.hasDirect_iff, List.mem_map, Prod.mk.injEq]
  constructor
  · rintro ⟨_, ⟨target, visited, endpoint, ⟨there, direct⟩, rfl⟩, other, rides, rfl, rfl⟩
    exact ⟨target, visited, endpoint, there, direct, rfl, rides⟩
  · rintro ⟨target, visited, endpoint, there, direct, rfl, rides⟩
    exact ⟨_, ⟨target, visited, endpoint, ⟨there, direct⟩, rfl⟩, session, rides, rfl, rfl⟩

theorem mem_retired_iff :
    name ∈ (mesh.lossReport link order).retired ↔ ∃ target ∈ order, ∃ endpoint,
      mesh.endpoint? target = some endpoint ∧ link ∈ endpoint.routes.directLinks ∧
        (endpoint.removeLink link).2.1 = true ∧ endpoint.name = name := by
  simp only [lossReport, fallAt, List.mem_filterMap, Option.map_eq_some_iff,
    Option.filter_eq_some_iff, Bool.and_eq_true, RouteTable.hasDirect_iff, and_assoc]

/-- A visit to all endpoints of a router finds each of them once, under its name. -/
structure Visits (mesh : Mesh) (router : Router) (order : List Nat) : Prop where
  distinct : order.Nodup
  listed : ∀ target ∈ order, ∃ endpoint, mesh.endpoint? target = some endpoint ∧
    router.endpoints.find? endpoint.name = some target
  complete : ∀ name target endpoint, mesh.lookup router name = some (target, endpoint) →
    target ∈ order ∧ endpoint.name = name

/-- The endpoints that a router has are found under their own names, so any order of them is an
order of visits. -/
theorem Registered.visits (registered : mesh.Registered) (atId : mesh.router? id = some router)
    (permuted : order.Perm router.endpoints.values) : Visits mesh router order := by
  have sorted := registered.sorted id router atId
  have listed (target : Nat) (member : target ∈ router.endpoints.values) : ∃ endpoint,
      mesh.endpoint? target = some endpoint ∧
        router.endpoints.find? endpoint.name = some target := by
    obtain ⟨name, found⟩ := sorted.mem_values_iff.mp member
    obtain ⟨endpoint, there, rfl, _⟩ := registered.known id router name target atId found
    exact ⟨endpoint, there, found⟩
  refine ⟨permuted.nodup_iff.mpr ?_, fun target member =>
    listed target (permuted.mem_iff.mp member), ?_⟩
  · refine List.pairwise_map.mpr (List.Pairwise.imp_of_mem ?_ sorted)
    intro first second inFirst inSecond below same
    have foundFirst := sorted.mem_entries_iff.mp inFirst
    have foundSecond := sorted.mem_entries_iff.mp inSecond
    obtain ⟨endpoint, there, named, _⟩ := registered.known id router _ _ atId foundFirst
    obtain ⟨other, alsoThere, otherNamed, _⟩ := registered.known id router _ _ atId foundSecond
    rw [← same, there] at alsoThere
    rw [← named, ← otherNamed, Option.some.inj alsoThere] at below
    exact Std.Irrefl.irrefl _ below
  · intro name target endpoint present
    obtain ⟨found, there⟩ := lookup_eq_some.mp present
    obtain ⟨other, alsoThere, named, _⟩ := registered.known id router name target atId found
    refine ⟨permuted.mem_iff.mpr (sorted.mem_values_iff.mpr ⟨name, found⟩), ?_⟩
    rw [Option.some.inj (there.symm.trans alsoThere)]
    exact named

/-- The same without the order: a session is reported just if some registered endpoint had a binding
of it to the link. -/
theorem Visits.lost_iff (visits : Visits mesh router order)
    (valid : ∀ table ∈ mesh.liveTables, table.Valid) {session : SessionId} :
    (name, session) ∈ (mesh.lossReport link order).lost ↔ session ≠ .direct ∧
      ∃ target endpoint, mesh.lookup router name = some (target, endpoint) ∧
        link ∈ endpoint.routes.candidates session := by
  rw [mem_lost_iff]
  constructor
  · rintro ⟨target, visited, endpoint, there, direct, rfl, rides⟩
    have alive := mem_liveTables_iff.mpr (Or.inr ⟨target, endpoint, there, rfl⟩)
    obtain ⟨nonzero, bound⟩ := (RouteTable.mem_sessionsOf_iff (valid _ alive).ascending).mp rides
    obtain ⟨other, alsoThere, found⟩ := visits.listed target visited
    rw [← Option.some.inj (there.symm.trans alsoThere)] at found
    exact ⟨nonzero, target, endpoint, lookup_eq_some.mpr ⟨found, there⟩, bound⟩
  · rintro ⟨nonzero, target, endpoint, present, bound⟩
    obtain ⟨visited, named⟩ := visits.complete name target endpoint present
    have there := (lookup_eq_some.mp present).2
    have alive := mem_liveTables_iff.mpr (Or.inr ⟨target, endpoint, there, rfl⟩)
    have table := valid _ alive
    exact ⟨target, visited, endpoint, there, table.gate session link bound, named,
      (RouteTable.mem_sessionsOf_iff table.ascending).mpr ⟨nonzero, bound⟩⟩

/-- A name is reported as gone just if the link was its endpoint's last, which the endpoint itself
can tell. -/
theorem Visits.retired_iff (visits : Visits mesh router order) :
    name ∈ (mesh.lossReport link order).retired ↔ ∃ target endpoint,
      mesh.lookup router name = some (target, endpoint) ∧ link ∈ endpoint.routes.directLinks ∧
        Endpoint.leftEmpty endpoint.everBound (endpoint.routes.removeLink link).2 link = true := by
  rw [mem_retired_iff]
  constructor
  · rintro ⟨target, visited, endpoint, there, direct, emptied, rfl⟩
    obtain ⟨other, alsoThere, found⟩ := visits.listed target visited
    rw [← Option.some.inj (there.symm.trans alsoThere)] at found
    exact ⟨target, endpoint, lookup_eq_some.mpr ⟨found, there⟩, direct, emptied⟩
  · rintro ⟨target, endpoint, present, direct, emptied⟩
    obtain ⟨visited, named⟩ := visits.complete name target endpoint present
    exact ⟨target, visited, endpoint, (lookup_eq_some.mp present).2, direct, emptied, named⟩

/-- The endpoints of a visit have different names. -/
theorem Visits.names_apart (visits : Visits mesh router order) : order.Pairwise fun first second =>
    ∀ endpoint other, mesh.endpoint? first = some endpoint → mesh.endpoint? second = some other →
      endpoint.name ≠ other.name := by
  refine List.Pairwise.imp_of_mem ?_ visits.distinct
  intro first second inFirst inSecond different endpoint other there alsoThere same
  obtain ⟨one, atOne, foundOne⟩ := visits.listed first inFirst
  obtain ⟨two, atTwo, foundTwo⟩ := visits.listed second inSecond
  rw [← Option.some.inj (there.symm.trans atOne), same,
    Option.some.inj (alsoThere.symm.trans atTwo), foundTwo] at foundOne
  exact different (Option.some.inj foundOne).symm

/-- No name goes twice, for no two endpoints of a router share one. -/
theorem Visits.retired_nodup (visits : Visits mesh router order) (link : Link) :
    (mesh.lossReport link order).retired.Nodup := by
  refine List.pairwise_filterMap.mpr (visits.names_apart.imp ?_)
  intro target another apart name falls other alsoFalls
  obtain ⟨endpoint, found, rfl⟩ := Option.map_eq_some_iff.mp falls
  obtain ⟨another, alsoFound, rfl⟩ := Option.map_eq_some_iff.mp alsoFalls
  exact apart endpoint another (Option.filter_eq_some_iff.mp found).1
    (Option.filter_eq_some_iff.mp alsoFound).1

/-- Each endpoint reports in one block, with its sessions in ascending order, and no name has two
blocks. -/
theorem Visits.blocks (visits : Visits mesh router order)
    (valid : ∀ table ∈ mesh.liveTables, table.Valid) (link : Link) :
    ((order.filterMap (mesh.lossAt link)).map Prod.fst).Nodup ∧
      ∀ block ∈ order.filterMap (mesh.lossAt link), block.2.Pairwise (· < ·) := by
  refine ⟨?_, ?_⟩
  · refine List.pairwise_map.mpr (List.pairwise_filterMap.mpr (visits.names_apart.imp ?_))
    intro first second apart block loses other alsoLoses
    obtain ⟨endpoint, found, rfl⟩ := Option.map_eq_some_iff.mp loses
    obtain ⟨another, alsoFound, rfl⟩ := Option.map_eq_some_iff.mp alsoLoses
    exact apart endpoint another (Option.filter_eq_some_iff.mp found).1
      (Option.filter_eq_some_iff.mp alsoFound).1
  · intro block member
    obtain ⟨target, _, loses⟩ := List.mem_filterMap.mp member
    obtain ⟨endpoint, found, rfl⟩ := Option.map_eq_some_iff.mp loses
    have there := (Option.filter_eq_some_iff.mp found).1
    have alive := mem_liveTables_iff.mpr (Or.inr ⟨target, endpoint, there, rfl⟩)
    exact RouteTable.sessionsOf_ascending (valid _ alive).ascending link

/-- Blocks of different names, each ascending, hold no pair twice. -/
theorem flatMap_blocks_nodup {blocks : List (String × List SessionId)}
    (names : (blocks.map Prod.fst).Nodup) (ascending : ∀ block ∈ blocks, block.2.Pairwise (· < ·)) :
    (blocks.flatMap fun block => block.2.map fun session => (block.1, session)).Nodup := by
  refine List.nodup_flatMap.mpr ⟨fun block member => ?_, ?_⟩
  · refine List.pairwise_map.mpr ((ascending block member).imp ?_)
    intro first second below same
    rw [(Prod.mk.inj same).2] at below
    exact Std.Irrefl.irrefl _ below
  · refine (List.pairwise_map.mp names).imp fun apart => ?_
    intro pair inFirst inSecond
    obtain ⟨_, _, rfl⟩ := List.mem_map.mp inFirst
    obtain ⟨_, _, same⟩ := List.mem_map.mp inSecond
    exact apart (Prod.mk.inj same).1.symm

theorem Accounted.loseLinkIn (accounted : mesh.Accounted) (registered : mesh.Registered)
    (atId : mesh.router? id = some router) (permuted : order.Perm router.endpoints.values)
    (link : Link) : (mesh.loseLinkIn order id link).1 = mesh.lossReport link order ∧
      LossFrame mesh id router link order (mesh.loseLinkIn order id link).2 := by
  have visits := registered.visits atId permuted
  have listed (target : Nat) (member : target ∈ order) : ∃ name,
      router.endpoints.find? name = some target := by
    obtain ⟨endpoint, _, found⟩ := visits.listed target member
    exact ⟨_, found⟩
  obtain ⟨reported, frame⟩ :=
    foldl_loseAt accounted registered atId listed visits.distinct link .empty
  refine ⟨Eq.trans reported ?_, frame⟩
  simp [joinReports, LossReport.empty, lossReport]

end Mesh

end DaemonMesh
