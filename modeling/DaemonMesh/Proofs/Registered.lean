import DaemonMesh.Proofs.Changes
import Mathlib.Data.String.Basic

namespace DaemonMesh

theorem join_getElem?_set {α : Type} {slots : List (Option α)} {place other : Nat} {new : Option α}
    (filled : new = none ∨ place < slots.length) :
    (slots.set place new)[other]?.join = if other = place then new else slots[other]?.join := by
  rw [List.getElem?_set]
  by_cases same : place = other
  · subst same
    rw [if_pos rfl, if_pos rfl]
    rcases filled with rfl | within
    · split <;> rfl
    · rw [if_pos within]
      rfl
  · rw [if_neg same, if_neg (Ne.symm same)]

/-- A router that has lost entries at most. -/
def Router.Shrinks (before after : Router) : Prop :=
  after.selector = before.selector ∧ (before.endpoints.Ascending → after.endpoints.Ascending) ∧
    ∀ name target, after.endpoints.find? name = some target →
      before.endpoints.find? name = some target

theorem Router.shrinks_self (router : Router) : router.Shrinks router :=
  ⟨rfl, fun ascending => ascending, fun _ _ found => found⟩

theorem Router.shrinks_erase (router : Router) (name : String) :
    router.Shrinks { router with endpoints := router.endpoints.erase name } := by
  refine ⟨rfl, fun ascending => ascending.erase name, fun other target found => ?_⟩
  rw [OrderedMap.find?_erase] at found
  split at found
  · cases found
  · exact found

namespace Mesh

/-- A living router has the endpoint under the name. -/
def Registers (mesh : Mesh) (id : Nat) (name : String) (target : Nat) : Prop :=
  ∃ router, mesh.router? id = some router ∧ router.endpoints.find? name = some target

/-- Registered endpoints are alive, stand under their own names and have the selectors of their
routers; no endpoint stands on two routers. -/
structure Registered (mesh : Mesh) : Prop where
  sorted : ∀ id router, mesh.router? id = some router → router.endpoints.Ascending
  known : ∀ id router name target, mesh.router? id = some router →
    router.endpoints.find? name = some target →
      ∃ endpoint, mesh.endpoint? target = some endpoint ∧ endpoint.name = name ∧
        endpoint.selector = router.selector
  single : ∀ id name target other otherName, mesh.Registers id name target →
    mesh.Registers other otherName target → other = id

variable {mesh next : Mesh} {id target : Nat} {name : String}

theorem router?_eq_some {router : Router} :
    mesh.router? id = some router ↔ mesh.routers[id]? = some (some router) := by
  simp [router?, Option.join_eq_some_iff]

theorem router?_lt {router : Router} (atId : mesh.router? id = some router) :
    id < mesh.routers.length :=
  (List.getElem?_eq_some_iff.mp (router?_eq_some.mp atId)).1

theorem endpoint?_lt {endpoint : Endpoint} (atId : mesh.endpoint? id = some endpoint) :
    id < mesh.endpoints.length :=
  (List.getElem?_eq_some_iff.mp (endpoint?_eq_some.mp atId)).1

theorem router?_setRouter {router : Router} (atId : mesh.router? id = some router) (new : Router)
    (other : Nat) :
    (mesh.setRouter id new).router? other = if other = id then some new else mesh.router? other :=
  join_getElem?_set (Or.inr (router?_lt atId))

theorem endpoint?_setEndpoint {endpoint : Endpoint} (there : mesh.endpoint? target = some endpoint)
    (new : Endpoint) (other : Nat) : (mesh.setEndpoint target new).endpoint? other =
      if other = target then some new else mesh.endpoint? other :=
  join_getElem?_set (Or.inr (endpoint?_lt there))

theorem endpoint?_setEndpoint_self {endpoint : Endpoint}
    (there : mesh.endpoint? target = some endpoint) (new : Endpoint) :
    (mesh.setEndpoint target new).endpoint? target = some new :=
  (endpoint?_setEndpoint there new target).trans (if_pos rfl)

/-- A router holds what it has registered. -/
theorem Registers.held (registers : mesh.Registers id name target) : mesh.isHeld target = true := by
  obtain ⟨router, atId, found⟩ := registers
  have listed : router.endpoints.values.contains target = true := by
    have member := List.mem_map_of_mem (f := Prod.snd) (OrderedMap.mem_of_lookup found)
    exact List.contains_iff_mem.mpr member
  have registered : mesh.isRegistered target = true := by
    unfold isRegistered
    refine List.any_eq_true.mpr ⟨some router, List.mem_of_getElem? (router?_eq_some.mp atId), ?_⟩
    simpa using listed
  unfold isHeld
  rw [registered, Bool.or_true]

theorem Registered.lookup_of_find {router : Router} (registered : mesh.Registered)
    (atId : mesh.router? id = some router) (found : router.endpoints.find? name = some target) :
    ∃ endpoint, mesh.lookup router name = some (target, endpoint) := by
  obtain ⟨endpoint, there, _⟩ := registered.known id router name target atId found
  exact ⟨endpoint, lookup_eq_some.mpr ⟨found, there⟩⟩

theorem registered_empty : empty.Registered where
  sorted := by simp [router?, empty]
  known := by simp [router?, empty]
  single := by simp [Registers, router?, empty]

/-- Routers may lose entries or start without any, and endpoints may change behind their names, as
long as those that stay registered stay alive. -/
theorem Registered.shrink (registered : mesh.Registered)
    (routers : ∀ id router, next.router? id = some router → router.endpoints = .empty ∨
      ∃ before, mesh.router? id = some before ∧ before.Shrinks router)
    (alive : ∀ id name target endpoint, mesh.Registers id name target →
      mesh.endpoint? target = some endpoint → ∃ after, next.endpoint? target = some after ∧
        after.name = endpoint.name ∧ after.selector = endpoint.selector) : next.Registered := by
  have earlier (id : Nat) (name : String) (target : Nat)
      (registers : next.Registers id name target) :
      mesh.Registers id name target := by
    obtain ⟨router, atId, found⟩ := registers
    rcases routers id router atId with bare | ⟨before, was, _, _, kept⟩
    · rw [bare] at found
      cases found
    · exact ⟨before, was, kept name target found⟩
  refine ⟨?_, ?_, ?_⟩
  · intro id router atId
    rcases routers id router atId with bare | ⟨before, was, _, order, _⟩
    · rw [bare]
      exact OrderedMap.ascending_empty
    · exact order (registered.sorted id before was)
  · intro id router name target atId found
    rcases routers id router atId with bare | ⟨before, was, selector, _, kept⟩
    · rw [bare] at found
      cases found
    · have foundBefore := kept name target found
      obtain ⟨endpoint, there, named, chosen⟩ :=
        registered.known id before name target was foundBefore
      obtain ⟨after, still, sameName, sameSelector⟩ :=
        alive id name target endpoint ⟨before, was, foundBefore⟩ there
      refine ⟨after, still, sameName.trans named, ?_⟩
      rw [sameSelector, chosen, selector]
  · intro id name target other otherName first second
    exact registered.single id name target other otherName (earlier _ _ _ first)
      (earlier _ _ _ second)

theorem router?_register {router : Router} (atId : mesh.router? id = some router) (name : String)
    (link : Link) (other : Nat) : (mesh.register id router name link).2.router? other =
      if other = id then
        some { router with endpoints := router.endpoints.insert name mesh.endpoints.length }
      else mesh.router? other :=
  join_getElem?_set (Or.inr (router?_lt atId))

theorem endpoint?_register (mesh : Mesh) (id : Nat) (router : Router) (name : String)
    (link : Link) :
    (mesh.register id router name link).2.endpoint? mesh.endpoints.length =
      some (.reachedBy name link router.selector) :=
  endpoint?_eq_some.mpr (List.getElem?_concat_length ..)

theorem endpoint?_register_old {endpoint : Endpoint} (id : Nat) (router : Router) (name : String)
    (link : Link) (there : mesh.endpoint? target = some endpoint) :
    (mesh.register id router name link).2.endpoint? target = some endpoint :=
  endpoint?_eq_some.mpr
    ((List.getElem?_append_left (endpoint?_lt there)).trans (endpoint?_eq_some.mp there))

/-- Whatever is registered after a registration is new or was registered before. -/
theorem register_origin {router current : Router} {other : Nat} {otherName : String} {link : Link}
    (atId : mesh.router? id = some router)
    (atCurrent : (mesh.register id router name link).2.router? other = some current)
    (found : current.endpoints.find? otherName = some target) :
    (other = id ∧ otherName = name ∧ target = mesh.endpoints.length ∧
        current.selector = router.selector) ∨
      ∃ before, mesh.router? other = some before ∧ current.selector = before.selector ∧
        before.endpoints.find? otherName = some target := by
  rw [router?_register atId] at atCurrent
  split at atCurrent
  · next same =>
    subst same
    rw [← Option.some.inj atCurrent] at found ⊢
    by_cases sameName : otherName = name
    · subst sameName
      rw [OrderedMap.find?_insert_self] at found
      exact Or.inl ⟨rfl, rfl, (Option.some.inj found).symm, rfl⟩
    · rw [OrderedMap.find?_insert_ne _ _ sameName] at found
      exact Or.inr ⟨router, atId, rfl, found⟩
  · exact Or.inr ⟨current, atCurrent, rfl, found⟩

/-- Held endpoints stay alive, and keep their names and selectors. -/
theorem Change.endpoint {free : Prop} {endpoint : Endpoint} (change : Change free mesh next)
    (held : mesh.isHeld target = true) (there : mesh.endpoint? target = some endpoint) :
    ∃ after, next.endpoint? target = some after ∧ after.name = endpoint.name ∧
      after.selector = endpoint.selector ∧ (free ∨ endpoint.Keeps after) := by
  have unchanged (still : next.endpoint? target = some endpoint) : ∃ after,
      next.endpoint? target = some after ∧ after.name = endpoint.name ∧
        after.selector = endpoint.selector ∧ (free ∨ endpoint.Keeps after) :=
    ⟨endpoint, still, rfl, rfl, Or.inr endpoint.keeps_self⟩
  cases change with
  | openLink | addTable | addRouter | unregister | dropRouter | rearrange => exact unchanged there
  | addEndpoint =>
    refine unchanged (endpoint?_eq_some.mpr ?_)
    exact (List.getElem?_append_left (endpoint?_lt there)).trans (endpoint?_eq_some.mp there)
  | register => exact unchanged (endpoint?_register_old _ _ _ _ there)
  | @stepTable id table after taken freed =>
    obtain ⟨counts, overdrawn, frame⟩ := mesh.setTable_frame taken freed id after
    rw [frame] at unchanged ⊢
    exact unchanged there
  | @stepEndpoint id before after taken freed atId step kept =>
    -- The books are of no account here. What counts is whether the step is this endpoint's own.
    obtain ⟨counts, overdrawn, frame⟩ := mesh.setEndpoint_frame taken freed id after
    rw [frame] at unchanged ⊢
    have atTarget : (mesh.endpoints.set id (some after))[target]?.join = _ :=
      join_getElem?_set (Or.inr (endpoint?_lt atId))
    by_cases same : target = id
    · subst same
      rw [if_pos rfl] at atTarget
      rw [Option.some.inj (there.symm.trans atId)]
      exact ⟨after, atTarget, step.name, step.selector, kept⟩
    · rw [if_neg same] at atTarget
      exact unchanged (atTarget.trans there)
  | @dropTable id table atId =>
    obtain ⟨counts, overdrawn, frame, _⟩ :=
      ({ mesh with tables := mesh.tables.set id none } : Mesh).releaseAll_frame table.sessionLinks
    rw [frame] at unchanged ⊢
    exact unchanged there
  | @dropEndpoint id before unheld atId =>
    obtain ⟨counts, overdrawn, frame, _⟩ :=
      ({ mesh with endpoints := mesh.endpoints.set id none } : Mesh).releaseAll_frame
        before.routes.sessionLinks
    rw [frame] at unchanged ⊢
    have different : target ≠ id := by
      rintro rfl
      rw [unheld] at held
      cases held
    exact unchanged ((join_getElem?_set (Or.inl rfl)).trans ((if_neg different).trans there))

/-- What a change does to the routers. -/
theorem Change.routers {free : Prop} (change : Change free mesh next) :
    next.routers = mesh.routers ∨
      (∃ router : Router, router.endpoints = .empty ∧
        next.routers = mesh.routers ++ [some router]) ∨
      (∃ id, next.routers = mesh.routers.set id none) ∨
      (free ∧ ∃ id router name link, mesh.router? id = some router ∧
        next = (mesh.register id router name link).2) ∨
      (free ∧ ∃ id router name, mesh.router? id = some router ∧ next.routers =
        mesh.routers.set id (some { router with endpoints := router.endpoints.erase name })) := by
  cases change with
  | openLink | addTable | addEndpoint | rearrange => exact Or.inl rfl
  | @stepTable id table after taken freed =>
    obtain ⟨counts, overdrawn, frame⟩ := mesh.setTable_frame taken freed id after
    rw [frame]
    exact Or.inl rfl
  | @stepEndpoint id before after taken freed =>
    obtain ⟨counts, overdrawn, frame⟩ := mesh.setEndpoint_frame taken freed id after
    rw [frame]
    exact Or.inl rfl
  | @dropTable id table =>
    obtain ⟨counts, overdrawn, frame, _⟩ :=
      ({ mesh with tables := mesh.tables.set id none } : Mesh).releaseAll_frame table.sessionLinks
    rw [frame]
    exact Or.inl rfl
  | @dropEndpoint id before =>
    obtain ⟨counts, overdrawn, frame, _⟩ :=
      ({ mesh with endpoints := mesh.endpoints.set id none } : Mesh).releaseAll_frame
        before.routes.sessionLinks
    rw [frame]
    exact Or.inl rfl
  | addRouter selector registry config => exact Or.inr (Or.inl ⟨_, rfl, rfl⟩)
  | dropRouter id => exact Or.inr (Or.inr (Or.inl ⟨id, rfl⟩))
  | register allowed atId opened name =>
    exact Or.inr (Or.inr (Or.inr (Or.inl ⟨allowed, _, _, name, _, atId, rfl⟩)))
  | unregister allowed atId name =>
    exact Or.inr (Or.inr (Or.inr (Or.inr ⟨allowed, _, _, name, atId, rfl⟩)))

/-- A fresh endpoint is registered nowhere else, since all registered ones have lower numbers. -/
theorem Registered.register (registered : mesh.Registered) {router : Router}
    (atId : mesh.router? id = some router) (name : String) (link : Link) :
    (mesh.register id router name link).2.Registered := by
  have below (other : Nat) (before : Router) (otherName : String) (target : Nat)
      (was : mesh.router? other = some before)
      (found : before.endpoints.find? otherName = some target) :
        target < mesh.endpoints.length := by
    obtain ⟨endpoint, there, _⟩ := registered.known other before otherName target was found
    exact endpoint?_lt there
  refine ⟨?_, ?_, ?_⟩
  · intro other current atCurrent
    rw [router?_register atId] at atCurrent
    split at atCurrent
    · rw [← Option.some.inj atCurrent]
      exact (registered.sorted id router atId).insert name _
    · exact registered.sorted other current atCurrent
  · intro other current otherName target atCurrent found
    rcases register_origin atId atCurrent found with
      ⟨rfl, rfl, rfl, selector⟩ | ⟨before, was, selector, foundBefore⟩
    · exact ⟨_, endpoint?_register .., rfl, selector.symm⟩
    · obtain ⟨endpoint, there, named, chosen⟩ :=
        registered.known other before otherName target was foundBefore
      have older := endpoint?_register_old id router name link there
      exact ⟨endpoint, older, named, chosen.trans selector.symm⟩
  · rintro first firstName target second secondName ⟨one, atOne, foundOne⟩ ⟨two, atTwo, foundTwo⟩
    rcases register_origin atId atOne foundOne with ⟨rfl, _, new, _⟩ | ⟨before, was, _, foundBefore⟩
    · rcases register_origin atId atTwo foundTwo with
        ⟨rfl, _⟩ | ⟨earlier, wasEarlier, _, foundEarlier⟩
      · rfl
      · have lower := below second earlier secondName target wasEarlier foundEarlier
        omega
    · rcases register_origin atId atTwo foundTwo with
        ⟨_, _, new, _⟩ | ⟨earlier, wasEarlier, _, foundEarlier⟩
      · have lower := below first before firstName target was foundBefore
        omega
      · exact registered.single first firstName target second secondName ⟨before, was, foundBefore⟩
          ⟨earlier, wasEarlier, foundEarlier⟩

/-- Only the registration of a new endpoint and the removal of a name touch what is registered. The
rest is looked through kind by kind. -/
theorem Change.registered {free : Prop} (change : Change free mesh next)
    (registered : mesh.Registered) : next.Registered := by
  have alive (id : Nat) (name : String) (target : Nat) (endpoint : Endpoint)
      (registers : mesh.Registers id name target) (there : mesh.endpoint? target = some endpoint) :
      ∃ after, next.endpoint? target = some after ∧ after.name = endpoint.name ∧
        after.selector = endpoint.selector := by
    obtain ⟨after, still, name, selector, _⟩ := change.endpoint registers.held there
    exact ⟨after, still, name, selector⟩
  rcases change.routers with same | ⟨new, bare, grown⟩ | ⟨gone, dropped⟩ |
    ⟨_, id, router, name, link, atId, rfl⟩ | ⟨_, id, router, name, atId, erased⟩
  · refine registered.shrink (fun other current atCurrent => Or.inr ?_) alive
    rw [router?, same] at atCurrent
    exact ⟨current, atCurrent, current.shrinks_self⟩
  · refine registered.shrink (fun other current atCurrent => ?_) alive
    have found := router?_eq_some.mp atCurrent
    rw [grown, List.getElem?_append] at found
    split at found
    · exact Or.inr ⟨current, router?_eq_some.mpr found, current.shrinks_self⟩
    · rw [Option.some.inj (List.mem_singleton.mp (List.mem_of_getElem? found))]
      exact Or.inl bare
  · refine registered.shrink (fun other current atCurrent => Or.inr ?_) alive
    rw [router?, dropped, join_getElem?_set (Or.inl rfl)] at atCurrent
    split at atCurrent
    · cases atCurrent
    · exact ⟨current, atCurrent, current.shrinks_self⟩
  · exact registered.register atId name link
  · refine registered.shrink (fun other current atCurrent => Or.inr ?_) alive
    rw [router?, erased, join_getElem?_set (Or.inr (router?_lt atId))] at atCurrent
    split at atCurrent
    · next same =>
      rw [same, ← Option.some.inj atCurrent]
      exact ⟨router, atId, router.shrinks_erase name⟩
    · exact ⟨current, atCurrent, current.shrinks_self⟩

/-- The induction is on the changes. -/
theorem Changes.registered {free : Prop} (changes : Changes free mesh next)
    (registered : mesh.Registered) :
    next.Registered := by
  induction changes with
  | refl => exact registered
  | tail _ change ih => exact change.registered ih

/-- A mesh without routers is such a state, and every move is made of changes. -/
theorem Reach.registered {handles : Prop} (reach : Reach handles mesh) : mesh.Registered := by
  induction reach with
  | start => exact registered_empty
  | next _ move ih => exact move.changes.registered ih

end Mesh

end DaemonMesh
