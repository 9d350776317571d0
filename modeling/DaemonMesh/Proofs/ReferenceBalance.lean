import DaemonMesh.Proofs.Changes

namespace DaemonMesh

namespace Mesh

/-- What holds of tables and counts between any two changes. -/
structure Accounted (mesh : Mesh) : Prop where
  numbered : mesh.Numbered
  valid : ∀ table ∈ mesh.liveTables, table.Valid
  opened : ∀ table ∈ mesh.liveTables, ∀ link ∈ table.directLinks, link ∈ mesh.links
  balanced : mesh.Owing []
  covered : mesh.overdrawn = []

variable {mesh next : Mesh} {id : Nat} {link : Link}

/-- Nothing is bound, so nothing is counted. -/
theorem accounted_empty : empty.Accounted where
  numbered := ⟨rfl, by simp [empty]⟩
  valid := by simp [liveTables, empty]
  opened := by simp [liveTables, empty]
  balanced := by simp [Owing, empty]
  covered := rfl

theorem Accounted.sessionLinks_opened (accounted : mesh.Accounted) {table : RouteTable}
    (alive : table ∈ mesh.liveTables) (member : link ∈ table.sessionLinks) : link ∈ mesh.links :=
  accounted.opened table alive link ((accounted.valid table alive).sessionLinks_direct member)

/-- Every binding is on a link that was opened, and has therefore a count of its own. -/
theorem Accounted.bindings_opened (accounted : mesh.Accounted) (member : link ∈ mesh.bindings) :
    link ∈ mesh.links := by
  obtain ⟨table, alive, bound⟩ := List.mem_flatMap.mp member
  exact accounted.sessionLinks_opened alive bound

/-- The tables of registered endpoints are among the live ones. -/
theorem Accounted.valid_of_lookup (accounted : mesh.Accounted) {router : Router} {name : String}
    {target : Nat} {endpoint : Endpoint}
    (present : mesh.lookup router name = some (target, endpoint)) : endpoint.routes.Valid :=
  accounted.valid _ (mem_liveTables_iff.mpr
    (Or.inr ⟨target, endpoint, (lookup_eq_some.mp present).2, rfl⟩))

/-- A new link has a number that no other has and a count of zero, like its bindings. -/
theorem Accounted.openLink (accounted : mesh.Accounted) (name : String) (guid : Guid) :
    (mesh.openLink name guid).2.Accounted := by
  have length := accounted.numbered.counted
  refine ⟨⟨?_, ?_⟩, accounted.valid, ?_, ?_, accounted.covered⟩
  · simp [Mesh.openLink, length]
  · intro place link found
    simp only [Mesh.openLink, List.getElem?_append] at found
    split at found
    · exact accounted.numbered.placed place link found
    · next beyond =>
      obtain ⟨bound, atPlace⟩ := List.getElem?_eq_some_iff.mp found
      simp only [List.length_singleton] at bound
      simp only [List.getElem_singleton] at atPlace
      rw [← atPlace]
      show mesh.links.length = place
      omega
  · intro table alive link member
    exact List.mem_append_left _ (accounted.opened table alive link member)
  · intro link member
    have sameBindings : (mesh.openLink name guid).2.bindings = mesh.bindings := rfl
    rw [sameBindings]
    rcases List.mem_append.mp member with old | new
    · rw [← accounted.balanced link old]
      have bound := accounted.numbered.number_lt old
      simp [count, Mesh.openLink, List.getElem?_append_left bound]
    · have number : link.number = mesh.counts.length := by
        rw [List.mem_singleton.mp new, length]
      have unbound : mesh.bindings.count link = 0 := by
        refine List.count_eq_zero.mpr fun bound => ?_
        have below := accounted.numbered.number_lt (accounted.bindings_opened bound)
        omega
      rw [unbound]
      simp [count, Mesh.openLink, number]

/-- A live table was live before or is the one that was put in. -/
theorem mem_liveTables_setTable {new : Option RouteTable} {other : RouteTable}
    (member : other ∈ ({ mesh with tables := mesh.tables.set id new } : Mesh).liveTables) :
    new = some other ∨ other ∈ mesh.liveTables := by
  rcases List.mem_append.mp member with bare | held
  · exact (mem_filledSlots_set bare).imp_right (List.mem_append_left _)
  · exact Or.inr (List.mem_append_right _ held)

theorem mem_liveTables_setEndpoint {new : Option Endpoint} {other : RouteTable}
    (member : other ∈ ({ mesh with endpoints := mesh.endpoints.set id new } : Mesh).liveTables) :
    new.map Endpoint.routes = some other ∨ other ∈ mesh.liveTables := by
  rcases List.mem_append.mp member with bare | held
  · exact Or.inr (List.mem_append_left _ bare)
  · obtain ⟨holder, inSlots, same⟩ := List.mem_map.mp held
    rcases mem_filledSlots_set inSlots with fresh | old
    · exact Or.inl (by rw [fresh, Option.map_some, same])
    · exact Or.inr (List.mem_append_right _ (List.mem_map.mpr ⟨holder, old, same⟩))

/-- Tables and endpoints may be exchanged for others, and references taken and given back, as long
as the bindings change by just these references. -/
theorem Accounted.exchange (accounted : mesh.Accounted) (taken freed : List Link)
    (tables : List (Option RouteTable)) (endpoints : List (Option Endpoint))
    (live : ∀ table ∈ ({ mesh with tables, endpoints } : Mesh).liveTables,
      table.Valid ∧ ∀ link ∈ table.directLinks, link ∈ mesh.links)
    (bindings : ∀ link,
      ({ mesh with tables, endpoints } : Mesh).bindings.count link + freed.count link =
      mesh.bindings.count link + taken.count link)
    (takenKnown : ∀ link ∈ taken, link ∈ mesh.links)
    (freedKnown : ∀ link ∈ freed, link ∈ mesh.links) :
    ({ mesh.acquireAll taken with tables, endpoints }.releaseAll freed).Accounted := by
  obtain ⟨counts, frame, length⟩ := mesh.acquireAll_frame taken
  have numbered : ({ mesh.acquireAll taken with tables, endpoints } : Mesh).Numbered := by
    refine accounted.numbered.of_frame ?_ ?_
    · rw [frame]
    · rw [frame]
      exact length
  -- Between taking and giving back, the counts are ahead of the bindings by just what is owed.
  have owing : ({ mesh.acquireAll taken with tables, endpoints } : Mesh).Owing (freed ++ []) := by
    intro link opened
    have known : link ∈ mesh.links := by
      rw [frame] at opened
      exact opened
    have sameBindings : ({ mesh.acquireAll taken with tables, endpoints } : Mesh).bindings =
        ({ mesh with tables, endpoints } : Mesh).bindings := rfl
    have counted := accounted.numbered.count_acquireAll takenKnown known
    have before := accounted.balanced link known
    have change := bindings link
    show (mesh.acquireAll taken).count link = _
    rw [sameBindings, counted, before, List.append_nil]
    simp only [List.count_nil]
    omega
  have links : ({ mesh.acquireAll taken with tables, endpoints } : Mesh).links = mesh.links := by
    rw [frame]
  obtain ⟨balanced, noted⟩ := owing.releaseAll numbered (by rw [links]; exact freedKnown)
  obtain ⟨counts', overdrawn, after, length'⟩ :=
    ({ mesh.acquireAll taken with tables, endpoints } : Mesh).releaseAll_frame freed
  refine ⟨?_, ?_, ?_, balanced, noted.trans ?_⟩
  · rw [after]
    exact numbered.of_frame rfl length'
  · rw [after]
    exact fun table member => (live table member).1
  · rw [after]
    intro table member link direct
    show link ∈ ({ mesh.acquireAll taken with tables, endpoints } : Mesh).links
    rw [links]
    exact (live table member).2 link direct
  · rw [frame]
    exact accounted.covered

/-- What is known of a live table at once: it is valid, and its paths are opened links. -/
theorem Accounted.live (accounted : mesh.Accounted) {table : RouteTable}
    (member : table ∈ mesh.liveTables) :
    table.Valid ∧ ∀ link ∈ table.directLinks, link ∈ mesh.links :=
  ⟨accounted.valid table member, accounted.opened table member⟩

/-- A table that takes a step takes and frees as many references as it gains and loses bindings. -/
theorem Accounted.stepTable (accounted : mesh.Accounted) {table after : RouteTable}
    {taken freed : List Link} (atId : mesh.table? id = some table)
    (step : RouteTable.Step (· ∈ mesh.links) table taken freed after) :
    (((mesh.acquireAll taken).setTable id after).releaseAll freed).Accounted := by
  obtain ⟨valid, opened⟩ := accounted.live (mem_liveTables_iff.mpr (Or.inl ⟨id, atId⟩))
  obtain ⟨takenDirect, freedDirect⟩ := step.references_direct valid
  have exchanged := accounted.exchange taken freed (mesh.tables.set id (some after))
    mesh.endpoints ?_ ?_
    (fun link member => opened link (takenDirect link member))
    (fun link member => opened link (freedDirect link member))
  · obtain ⟨counts, frame, _⟩ := mesh.acquireAll_frame taken
    rw [frame] at exchanged ⊢
    exact exchanged
  · intro other member
    rcases mem_liveTables_setTable member with new | old
    · rw [← Option.some.inj new]
      exact ⟨step.valid valid, step.known valid opened⟩
    · exact accounted.live old
  · intro link
    have change := count_bindings_tables atId (some after) link
    have settled := step.settles valid link
    simp only [Option.elim_some] at change
    omega

/-- The same for the table of an endpoint. -/
theorem Accounted.stepEndpoint (accounted : mesh.Accounted) {endpoint after : Endpoint}
    {taken freed : List Link} (atId : mesh.endpoint? id = some endpoint)
    (step : Endpoint.Step (· ∈ mesh.links) endpoint taken freed after) :
    (((mesh.acquireAll taken).setEndpoint id after).releaseAll freed).Accounted := by
  obtain ⟨valid, opened⟩ :=
    accounted.live (mem_liveTables_iff.mpr (Or.inr ⟨id, endpoint, atId, rfl⟩))
  obtain ⟨takenDirect, freedDirect⟩ := step.routes.references_direct valid
  have exchanged := accounted.exchange taken freed mesh.tables
    (mesh.endpoints.set id (some after)) ?_ ?_
    (fun link member => opened link (takenDirect link member))
    (fun link member => opened link (freedDirect link member))
  · obtain ⟨counts, frame, _⟩ := mesh.acquireAll_frame taken
    rw [frame] at exchanged ⊢
    exact exchanged
  · intro other member
    rcases mem_liveTables_setEndpoint member with new | old
    · rw [← Option.some.inj new]
      exact ⟨step.routes.valid valid, step.routes.known valid opened⟩
    · exact accounted.live old
  · intro link
    have change := count_bindings_endpoints atId (some after) link
    have settled := step.routes.settles valid link
    simp only [Option.elim_some] at change
    omega

/-- A table that goes releases a reference for each of its bindings. -/
theorem Accounted.dropTable (accounted : mesh.Accounted) {table : RouteTable}
    (atId : mesh.table? id = some table) :
    ({ mesh with tables := mesh.tables.set id none }.releaseAll table.sessionLinks).Accounted := by
  have alive := mem_liveTables_iff.mpr (Or.inl ⟨id, atId⟩)
  refine accounted.exchange [] _ (mesh.tables.set id none) mesh.endpoints ?_ ?_ (by simp) ?_
  · intro other member
    exact accounted.live ((mem_liveTables_setTable member).resolve_left (by simp))
  · intro link
    have change := count_bindings_tables atId none link
    simpa using change
  · exact fun link member => accounted.sessionLinks_opened alive member

/-- And so does an endpoint. Releases never come short here, because each stands for a binding that
was counted. -/
theorem Accounted.dropEndpoint (accounted : mesh.Accounted) {endpoint : Endpoint}
    (atId : mesh.endpoint? id = some endpoint) :
    ({ mesh with endpoints := mesh.endpoints.set id none }.releaseAll
      endpoint.routes.sessionLinks).Accounted := by
  have alive := mem_liveTables_iff.mpr (Or.inr ⟨id, endpoint, atId, rfl⟩)
  refine accounted.exchange [] _ mesh.tables (mesh.endpoints.set id none) ?_ ?_ (by simp) ?_
  · intro other member
    exact accounted.live ((mem_liveTables_setEndpoint member).resolve_left (by simp))
  · intro link
    have change := count_bindings_endpoints atId none link
    simpa using change
  · exact fun link member => accounted.sessionLinks_opened alive member

/-- A fresh table is valid, binds no session and starts from known links. -/
theorem fresh_table {known : Link → Prop} {table : RouteTable}
    (fresh : table = .empty ∨ ∃ link, known link ∧ table = .withDirect link) :
    table.Valid ∧ (∀ link ∈ table.directLinks, known link) ∧ table.sessionLinks = [] := by
  rcases fresh with rfl | ⟨link, opened, rfl⟩
  · refine ⟨RouteTable.valid_empty, ?_, rfl⟩
    simp [RouteTable.directLinks, RouteTable.candidates_empty]
  · refine ⟨RouteTable.valid_withDirect link, ?_, rfl⟩
    simpa [RouteTable.directLinks, RouteTable.candidates_withDirect] using opened

/-- A table that begins with a direct path holds no reference, since only sessions do. -/
theorem Accounted.addTable (accounted : mesh.Accounted) {table : RouteTable}
    (fresh : table = .empty ∨ ∃ link ∈ mesh.links, table = .withDirect link) :
    (mesh.addTable table).2.Accounted := by
  obtain ⟨valid, opened, unbound⟩ := fresh_table fresh
  refine accounted.exchange [] [] (mesh.tables ++ [some table]) mesh.endpoints ?_ ?_ (by simp)
    (by simp)
  · intro other member
    have origin : other = table ∨ other ∈ mesh.liveTables := by
      simp only [liveTables, List.filterMap_append, List.mem_append] at member ⊢
      simp at member ⊢
      tauto
    rcases origin with rfl | old
    · exact ⟨valid, opened⟩
    · exact accounted.live old
  · intro link
    simp [count_bindings, slotSum, unbound]

theorem Accounted.addEndpoint (accounted : mesh.Accounted) (opened : link ∈ mesh.links)
    (name : String) (selector : Selector) :
    (mesh.addEndpoint (.reachedBy name link selector)).2.Accounted := by
  obtain ⟨valid, known, unbound⟩ :=
    fresh_table (Or.inr ⟨link, (opened : link ∈ mesh.links), rfl⟩)
  refine accounted.exchange [] [] mesh.tables
    (mesh.endpoints ++ [some (.reachedBy name link selector)]) ?_ ?_ (by simp) (by simp)
  · intro other member
    have origin : other = .withDirect link ∨ other ∈ mesh.liveTables := by
      simp only [liveTables, List.filterMap_append, List.mem_append] at member ⊢
      simp [Endpoint.reachedBy] at member ⊢
      tauto
    rcases origin with rfl | old
    · exact ⟨valid, known⟩
    · exact accounted.live old
  · intro other
    simp [count_bindings, slotSum, Endpoint.reachedBy, unbound]

/-- Whatever change is made, counts and bindings go along with one another. -/
theorem Change.accounted {free : Prop} (change : Change free mesh next)
    (accounted : mesh.Accounted) :
    next.Accounted := by
  cases change with
  | openLink name guid => exact accounted.openLink name guid
  | addTable fresh => exact accounted.addTable fresh
  | addEndpoint opened name selector => exact accounted.addEndpoint opened name selector
  | stepTable atId step => exact accounted.stepTable atId step
  | stepEndpoint atId step _ => exact accounted.stepEndpoint atId step
  | dropTable atId => exact accounted.dropTable atId
  | dropEndpoint _ atId => exact accounted.dropEndpoint atId
  | @register _ router _ _ _ opened name =>
    have added := accounted.addEndpoint opened name router.selector
    exact ⟨added.numbered.of_frame rfl rfl, added.valid, added.opened, added.balanced,
      added.covered⟩
  | addRouter | unregister | dropRouter | rearrange =>
    exact ⟨accounted.numbered.of_frame rfl rfl, accounted.valid, accounted.opened,
      accounted.balanced, accounted.covered⟩

/-- Then so they do over any number of changes. -/
theorem Changes.accounted {free : Prop} (changes : Changes free mesh next)
    (accounted : mesh.Accounted) :
    next.Accounted := by
  induction changes with
  | refl => exact accounted
  | tail _ change ih => exact change.accounted ih

/-- And therefore wherever moves lead. -/
theorem Reach.accounted {handles : Prop} (reach : Reach handles mesh) : mesh.Accounted := by
  induction reach with
  | start => exact accounted_empty
  | next _ move ih => exact move.changes.accounted ih

end Mesh

end DaemonMesh
