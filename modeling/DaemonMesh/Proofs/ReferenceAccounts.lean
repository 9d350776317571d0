import DaemonMesh.Mesh.Holding
import DaemonMesh.Proofs.EndpointSteps

namespace DaemonMesh

/-- The sum of what the filled slots weigh. -/
def slotSum {α : Type} (weigh : α → Nat) (slots : List (Option α)) : Nat :=
  (slots.map fun slot => slot.elim 0 weigh).sum

/-- A slot that is written to changes one summand. The equation is kept without subtraction, so that
it can be used both ways. -/
theorem slotSum_set {α : Type} (weigh : α → Nat) {slots : List (Option α)} {id : Nat} {old : α}
    (atId : slots[id]? = some (some old)) (new : Option α) :
    slotSum weigh (slots.set id new) + weigh old = slotSum weigh slots + new.elim 0 weigh := by
  unfold slotSum
  induction slots generalizing id with
  | nil => simp at atId
  | cons slot rest ih =>
    cases id with
    | zero =>
      simp only [List.getElem?_cons_zero, Option.some.injEq] at atId
      subst atId
      simp only [List.set_cons_zero, List.map_cons, List.sum_cons, Option.elim_some]
      omega
    | succ id =>
      have tail := ih (by simpa using atId)
      simp only [List.set_cons_succ, List.map_cons, List.sum_cons]
      omega

/-- To count in all the slots together is to sum up the counts of each. -/
theorem slotSum_filterMap {α β : Type} [BEq β] (view : α → List β) (slots : List (Option α))
    (value : β) :
    ((slots.filterMap id).flatMap view).count value =
      slotSum (fun slot => (view slot).count value) slots := by
  unfold slotSum
  induction slots with
  | nil => rfl
  | cons slot rest ih =>
    cases slot with
    | none =>
      have kept : (none :: rest).filterMap id = rest.filterMap id := rfl
      rw [kept, ih, List.map_cons, List.sum_cons, Option.elim_none, Nat.zero_add]
    | some held =>
      have kept : (some held :: rest).filterMap id = held :: rest.filterMap id := rfl
      rw [kept, List.flatMap_cons, List.count_append, ih, List.map_cons, List.sum_cons,
        Option.elim_some]

theorem mem_filledSlots_iff {α : Type} {slots : List (Option α)} {value : α} :
    value ∈ slots.filterMap id ↔ ∃ place : Nat, slots[place]? = some (some value) := by
  rw [List.mem_filterMap]
  simp only [id_eq, exists_eq_right]
  exact List.mem_iff_getElem?

theorem mem_filledSlots_set {α : Type} {slots : List (Option α)} {place : Nat} {new : Option α}
    {value : α} (member : value ∈ (slots.set place new).filterMap id) :
    new = some value ∨ value ∈ slots.filterMap id := by
  simp only [List.mem_filterMap, id_eq, exists_eq_right] at member ⊢
  exact (List.mem_or_eq_of_mem_set member).symm.imp_left Eq.symm

namespace Mesh

/-- The tables that are still alive: bare ones, and those of endpoints. -/
def liveTables (mesh : Mesh) : List RouteTable :=
  mesh.tables.filterMap id ++ (mesh.endpoints.filterMap id).map Endpoint.routes

/-- The links of all session bindings in live tables, each as often as it is bound. -/
def bindings (mesh : Mesh) : List Link := mesh.liveTables.flatMap RouteTable.sessionLinks

/-- Links stand at the places of their numbers, so that no two have the same one. -/
structure Numbered (mesh : Mesh) : Prop where
  counted : mesh.counts.length = mesh.links.length
  placed : ∀ (place : Nat) (link : Link), mesh.links[place]? = some link → link.number = place

/-- Every count is the number of bindings and of references that are still to be given back. -/
def Owing (mesh : Mesh) (pending : List Link) : Prop :=
  ∀ link ∈ mesh.links, mesh.count link = mesh.bindings.count link + pending.count link

variable {mesh : Mesh} {link other : Link}

theorem table?_eq_some {id : Nat} {table : RouteTable} :
    mesh.table? id = some table ↔ mesh.tables[id]? = some (some table) := by
  simp [table?, Option.join_eq_some_iff]

theorem endpoint?_eq_some {id : Nat} {endpoint : Endpoint} :
    mesh.endpoint? id = some endpoint ↔ mesh.endpoints[id]? = some (some endpoint) := by
  simp [endpoint?, Option.join_eq_some_iff]

/-- A table is alive if it stands alone or is the table of an endpoint. -/
theorem mem_liveTables_iff {table : RouteTable} :
    table ∈ mesh.liveTables ↔
      (∃ id, mesh.table? id = some table) ∨
        ∃ id endpoint, mesh.endpoint? id = some endpoint ∧ endpoint.routes = table := by
  unfold liveTables
  simp only [List.mem_append, List.mem_map, mem_filledSlots_iff, table?_eq_some, endpoint?_eq_some]
  grind

/-- The bindings of a link are those of the plain tables and those of the endpoints, table by table.
-/
theorem count_bindings (mesh : Mesh) (link : Link) :
    mesh.bindings.count link =
      slotSum (fun table => table.sessionLinks.count link) mesh.tables
        + slotSum (fun endpoint => endpoint.routes.sessionLinks.count link) mesh.endpoints := by
  unfold bindings liveTables
  rw [List.flatMap_append, List.count_append, slotSum_filterMap, List.flatMap_map,
    slotSum_filterMap]

namespace Numbered

variable (numbered : mesh.Numbered)
include numbered

/-- Links are numbered as they are opened, and the number is the place in the list. -/
theorem at_number (opened : link ∈ mesh.links) : mesh.links[link.number]? = some link := by
  obtain ⟨place, found⟩ := List.mem_iff_getElem?.mp opened
  rw [numbered.placed place link found]
  exact found

theorem number_lt (opened : link ∈ mesh.links) : link.number < mesh.counts.length := by
  rw [numbered.counted]
  exact (List.getElem?_eq_some_iff.mp (numbered.at_number opened)).1

/-- Links that differ have numbers that differ, so a count that is written is the count of one link
only. -/
theorem number_ne (opened : link ∈ mesh.links) (openedOther : other ∈ mesh.links)
    (different : other ≠ link) : other.number ≠ link.number := by
  intro same
  have atOther := numbered.at_number openedOther
  rw [same, numbered.at_number opened] at atOther
  exact different (Option.some.inj atOther).symm

theorem count_acquire (opened : link ∈ mesh.links) (openedOther : other ∈ mesh.links) :
    (mesh.acquire link).count other = mesh.count other + [link].count other := by
  have bound := numbered.number_lt opened
  unfold count acquire
  by_cases same : other = link
  · subst same
    simp [bound]
  · have numbers := numbered.number_ne opened openedOther same
    simp [Ne.symm numbers, Ne.symm same]

/-- A release that is covered lowers the count of its link by one and no other. -/
theorem count_release (opened : link ∈ mesh.links) (openedOther : other ∈ mesh.links)
    (covered : mesh.count link ≠ 0) :
    (mesh.release link).count other + [link].count other = mesh.count other := by
  have bound := numbered.number_lt opened
  unfold release
  rw [if_neg covered]
  unfold count at covered ⊢
  by_cases same : other = link
  · subst same
    have lowered : (mesh.counts.modify other.number (· - 1))[other.number]? =
        some (mesh.counts[other.number] - 1) := by simp [bound]
    rw [lowered, List.getElem?_eq_getElem bound, List.count_singleton_self]
    rw [List.getElem?_eq_getElem bound] at covered
    simp only [Option.getD_some] at covered ⊢
    omega
  · have numbers := numbered.number_ne opened openedOther same
    simp [Ne.symm numbers, Ne.symm same]

end Numbered

def acquireAll (mesh : Mesh) (links : List Link) : Mesh := links.foldl acquire mesh

/-- Taking references touches nothing but counts. -/
theorem acquireAll_frame (mesh : Mesh) (links : List Link) :
    ∃ counts, mesh.acquireAll links = { mesh with counts } ∧
      counts.length = mesh.counts.length := by
  unfold acquireAll
  induction links generalizing mesh with
  | nil => exact ⟨_, rfl, rfl⟩
  | cons link rest ih =>
    obtain ⟨counts, later, length⟩ := ih (mesh.acquire link)
    exact ⟨counts, later, length.trans (List.length_modify ..)⟩

/-- Giving references back touches nothing but counts and the notes on overdrawn links. -/
theorem releaseAll_frame (mesh : Mesh) (links : List Link) :
    ∃ counts overdrawn, mesh.releaseAll links = { mesh with counts, overdrawn } ∧
      counts.length = mesh.counts.length := by
  unfold releaseAll
  induction links generalizing mesh with
  | nil => exact ⟨_, _, rfl, rfl⟩
  | cons link rest ih =>
    obtain ⟨counts, overdrawn, later, length⟩ := ih (mesh.release link)
    rw [List.foldl_cons, later]
    unfold release at length ⊢
    split at length
    · next drained =>
      rw [if_pos drained]
      exact ⟨counts, overdrawn, rfl, length⟩
    · next covered =>
      rw [if_neg covered]
      exact ⟨counts, overdrawn, rfl, length.trans (List.length_modify ..)⟩

/-- A table is exchanged and references are taken and given back; all else stays. -/
theorem setTable_frame (mesh : Mesh) (taken freed : List Link) (id : Nat) (after : RouteTable) :
    ∃ counts overdrawn, ((mesh.acquireAll taken).setTable id after).releaseAll freed =
      { mesh with tables := mesh.tables.set id (some after), counts, overdrawn } := by
  obtain ⟨counts, taking, _⟩ := mesh.acquireAll_frame taken
  obtain ⟨counts', overdrawn, giving, _⟩ :=
    ((mesh.acquireAll taken).setTable id after).releaseAll_frame freed
  rw [giving, taking]
  exact ⟨counts', overdrawn, rfl⟩

/-- A step of an endpoint writes to that endpoint and to the books. This is all that most of the
later results need to know of it. -/
theorem setEndpoint_frame (mesh : Mesh) (taken freed : List Link) (id : Nat) (after : Endpoint) :
    ∃ counts overdrawn, ((mesh.acquireAll taken).setEndpoint id after).releaseAll freed =
      { mesh with endpoints := mesh.endpoints.set id (some after), counts, overdrawn } := by
  obtain ⟨counts, taking, _⟩ := mesh.acquireAll_frame taken
  obtain ⟨counts', overdrawn, giving, _⟩ :=
    ((mesh.acquireAll taken).setEndpoint id after).releaseAll_frame freed
  rw [giving, taking]
  exact ⟨counts', overdrawn, rfl⟩

theorem links_acquireAll (mesh : Mesh) (links : List Link) :
    (mesh.acquireAll links).links = mesh.links := by
  obtain ⟨counts, frame, _⟩ := mesh.acquireAll_frame links
  rw [frame]

theorem links_releaseAll (mesh : Mesh) (links : List Link) :
    (mesh.releaseAll links).links = mesh.links := by
  obtain ⟨counts, overdrawn, frame, _⟩ := mesh.releaseAll_frame links
  rw [frame]

/-- Numbers and lengths are all that counts for the numbering. -/
theorem Numbered.of_frame {next : Mesh} (numbered : mesh.Numbered) (links : next.links = mesh.links)
    (length : next.counts.length = mesh.counts.length) : next.Numbered := by
  refine ⟨?_, ?_⟩
  · rw [length, links]
    exact numbered.counted
  · rw [links]
    exact numbered.placed

/-- References taken together are counted one by one. -/
theorem Numbered.count_acquireAll (numbered : mesh.Numbered) {taken : List Link}
    (opened : ∀ link ∈ taken, link ∈ mesh.links) (openedOther : other ∈ mesh.links) :
    (mesh.acquireAll taken).count other = mesh.count other + taken.count other := by
  unfold acquireAll
  induction taken generalizing mesh with
  | nil => rfl
  | cons link rest ih =>
    have first := numbered.count_acquire (opened link List.mem_cons_self) openedOther
    have numberedNext : (mesh.acquire link).Numbered :=
      numbered.of_frame rfl (List.length_modify ..)
    have later := ih numberedNext (fun next member => opened next (List.mem_cons_of_mem _ member))
      openedOther
    have both : (link :: rest).count other = [link].count other + rest.count other := by
      rw [← List.singleton_append, List.count_append]
    rw [List.foldl_cons, later, first, both]
    omega

/-- References that are owed are given back one by one, and no count runs out on the way. -/
theorem Owing.releaseAll {freed pending : List Link} (owing : mesh.Owing (freed ++ pending))
    (numbered : mesh.Numbered) (opened : ∀ link ∈ freed, link ∈ mesh.links) :
    (mesh.releaseAll freed).Owing pending ∧
      (mesh.releaseAll freed).overdrawn = mesh.overdrawn := by
  unfold Mesh.releaseAll
  induction freed generalizing mesh with
  | nil => exact ⟨owing, rfl⟩
  | cons link rest ih =>
    have here := opened link List.mem_cons_self
    -- The reference still owed is what keeps the count from running out.
    have covered : mesh.count link ≠ 0 := by
      rw [owing link here, List.cons_append, List.count_cons_self]
      omega
    have released : mesh.release link =
        { mesh with counts := mesh.counts.modify link.number (· - 1) } :=
      if_neg covered
    have numberedNext : (mesh.release link).Numbered := by
      rw [released]
      exact numbered.of_frame rfl (List.length_modify ..)
    have owingNext : (mesh.release link).Owing (rest ++ pending) := by
      intro other openedOther
      have sameBindings : (mesh.release link).bindings = mesh.bindings := by
        rw [released]
        rfl
      rw [released] at openedOther
      have lowered := numbered.count_release here openedOther covered
      have before := owing other openedOther
      have both : (link :: (rest ++ pending)).count other =
          [link].count other + (rest ++ pending).count other := by
        rw [← List.singleton_append, List.count_append]
      rw [List.cons_append, both] at before
      rw [sameBindings]
      omega
    have later := ih owingNext numberedNext fun next member => by
      rw [released]
      exact opened next (List.mem_cons_of_mem _ member)
    rw [List.foldl_cons]
    refine ⟨later.1, later.2.trans ?_⟩
    rw [released]

theorem count_bindings_tables {id : Nat} {table : RouteTable} (atId : mesh.table? id = some table)
    (new : Option RouteTable) (link : Link) :
    ({ mesh with tables := mesh.tables.set id new } : Mesh).bindings.count link
        + table.sessionLinks.count link =
      mesh.bindings.count link + new.elim 0 fun next => next.sessionLinks.count link := by
  have change := slotSum_set (fun table => table.sessionLinks.count link)
    (table?_eq_some.mp atId) new
  rw [count_bindings, count_bindings]
  simp only at change ⊢
  omega

theorem count_bindings_endpoints {id : Nat} {endpoint : Endpoint}
    (atId : mesh.endpoint? id = some endpoint) (new : Option Endpoint) (link : Link) :
    ({ mesh with endpoints := mesh.endpoints.set id new } : Mesh).bindings.count link
        + endpoint.routes.sessionLinks.count link =
      mesh.bindings.count link + new.elim 0 fun next => next.routes.sessionLinks.count link := by
  have change := slotSum_set (fun endpoint => endpoint.routes.sessionLinks.count link)
    (endpoint?_eq_some.mp atId) new
  rw [count_bindings, count_bindings]
  simp only at change ⊢
  omega

end Mesh

end DaemonMesh
