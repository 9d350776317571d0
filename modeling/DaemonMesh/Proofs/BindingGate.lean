import DaemonMesh.Proofs.TableReferences

namespace DaemonMesh

namespace RouteTable

/-- One operation on a table, with the references that it takes and gives back. Direct paths come
from the links that are known. -/
inductive Step (known : Link → Prop) : RouteTable → List Link → List Link → RouteTable → Prop
  | insertDirect {table : RouteTable} {link : Link} (isKnown : known link) :
      Step known table [] [] (table.insertDirect link).2
  | bind {table next : RouteTable} {session : SessionId} {link : Link} (nonzero : session ≠ .direct)
      (bound : table.bind? session link = some next) : Step known table [link] [] next
  | unbind {table next : RouteTable} {session : SessionId} {link : Link}
      (nonzero : session ≠ .direct) (unbound : table.unbind? session = some (link, next)) :
      Step known table [] [link] next
  | removeLink {table : RouteTable} (link : Link) :
      Step known table [] ((table.removeLink link).1.sessions.map fun _ => link)
        (table.removeLink link).2

/-- What every operation on a table keeps up: the map of buckets is in order and holds no empty one,
no direct path is listed twice, and bindings ride on direct paths. -/
structure Valid (table : RouteTable) : Prop where
  ascending : table.buckets.Ascending
  filled : ∀ bucket ∈ table.buckets.entries, bucket.2 ≠ []
  distinct : table.directLinks.Nodup
  gate : ∀ session, ∀ link ∈ table.candidates session, link ∈ table.directLinks

variable {table next : RouteTable} {session : SessionId} {link : Link}

theorem valid_empty : empty.Valid where
  ascending := OrderedMap.ascending_empty
  filled := by simp [empty, OrderedMap.empty]
  distinct := List.nodup_nil
  gate := by simp [candidates_empty]

/-- A link may be appended to the direct paths if it is not among them yet, and to another session
if it is. -/
theorem Valid.append (valid : table.Valid) (fresh : session = .direct → link ∉ table.directLinks)
    (bound : session ≠ .direct → link ∈ table.directLinks) : (table.append session link).Valid := by
  refine ⟨valid.ascending.insert _ _, ?_, ?_, ?_⟩
  · intro bucket member
    rcases OrderedMap.mem_setEntry member with new | old
    · rw [new]
      simp
    · exact valid.filled bucket old
  · rw [directLinks_append]
    split
    · next same =>
      refine List.nodup_append.mpr ⟨valid.distinct, by simp, ?_⟩
      intro old member new single equal
      rw [List.mem_singleton.mp single] at equal
      exact fresh same (by rwa [← equal])
    · exact valid.distinct
  · intro other taken member
    rw [candidates_append] at member
    rw [directLinks_append]
    by_cases same : session = .direct
    · simp only [same, if_true] at member ⊢
      split at member
      · exact member
      · exact List.mem_append_left _ (valid.gate other taken member)
    · simp only [same, if_false]
      split at member
      · rcases List.mem_append.mp member with old | new
        · exact valid.gate session taken old
        · rw [List.mem_singleton.mp new]
          exact bound same
      · exact valid.gate other taken member

theorem valid_withDirect (link : Link) : (withDirect link).Valid :=
  valid_empty.append (fun _ => List.not_mem_nil) fun different => (different rfl).elim

theorem Valid.insertDirect (valid : table.Valid) (link : Link) :
    (table.insertDirect link).2.Valid := by
  unfold RouteTable.insertDirect
  split
  · exact valid
  · next absent =>
    exact valid.append (fun _ member => absent (hasDirect_iff.mpr member)) fun different =>
      (different rfl).elim

theorem Valid.unbind (valid : table.Valid) (nonzero : session ≠ .direct)
    (unbound : table.unbind? session = some (link, next)) : next.Valid := by
  obtain ⟨atSession, elsewhere⟩ := candidates_of_unbind? unbound
  have direct : next.directLinks = table.directLinks := elsewhere .direct (Ne.symm nonzero)
  have shape : next.buckets.Ascending ∧ ∀ bucket ∈ next.buckets.entries, bucket.2 ≠ [] := by
    unfold unbind? at unbound
    split at unbound
    · simp at unbound
    · obtain ⟨rfl, rfl⟩ := Prod.mk.inj (Option.some.inj unbound)
      exact ⟨valid.ascending.erase _, fun bucket member =>
        valid.filled bucket (List.mem_filter.mp member).1⟩
    · next first rest nonempty _ =>
      obtain ⟨rfl, rfl⟩ := Prod.mk.inj (Option.some.inj unbound)
      refine ⟨valid.ascending.insert _ _, fun bucket member => ?_⟩
      rcases OrderedMap.mem_setEntry member with new | old
      · rw [new]
        exact nonempty
      · exact valid.filled bucket old
  refine ⟨shape.1, shape.2, ?_, ?_⟩
  · rw [direct]
    exact valid.distinct
  · intro other taken member
    rw [direct]
    by_cases same : other = session
    · subst same
      exact valid.gate other taken (by rw [atSession]; exact List.mem_cons_of_mem _ member)
    · rw [elsewhere other same] at member
      exact valid.gate other taken member

theorem Valid.without (valid : table.Valid) (gone : Link → Bool) : (table.without gone).Valid := by
  have kept := candidates_without valid.ascending gone
  refine ⟨without_ascending valid.ascending gone, ?_, ?_, ?_⟩
  · intro bucket member
    simpa using (List.mem_filter.mp member).2
  · unfold directLinks
    rw [kept]
    exact valid.distinct.sublist List.filter_sublist
  · intro session link member
    unfold directLinks
    rw [kept] at member ⊢
    obtain ⟨old, stays⟩ := List.mem_filter.mp member
    exact List.mem_filter.mpr ⟨valid.gate session link old, stays⟩

theorem Valid.removeLink (valid : table.Valid) (link : Link) : (table.removeLink link).2.Valid := by
  rw [removeLink_eq_without]
  exact valid.without _

theorem bind?_some (bound : table.bind? session link = some next) :
    link ∈ table.directLinks ∧ next = table.append session link := by
  unfold bind? at bound
  split at bound
  · next direct => exact ⟨hasDirect_iff.mp direct, (Option.some.inj bound).symm⟩
  · simp at bound

theorem Step.valid {known : Link → Prop} {taken freed : List Link}
    (step : Step known table taken freed next) (valid : table.Valid) : next.Valid := by
  cases step with
  | insertDirect => exact valid.insertDirect _
  | bind nonzero bound =>
    obtain ⟨direct, rfl⟩ := bind?_some bound
    exact valid.append (fun same => (nonzero same).elim) fun _ => direct
  | unbind nonzero unbound => exact valid.unbind nonzero unbound
  | removeLink link => exact valid.removeLink link

/-- The bindings before and the references taken are the bindings after and the references given
back. -/
theorem Step.settles {known : Link → Prop} {taken freed : List Link}
    (step : Step known table taken freed next) (valid : table.Valid) (other : Link) :
    table.sessionLinks.count other + taken.count other =
      next.sessionLinks.count other + freed.count other := by
  cases step with
  | insertDirect =>
    unfold RouteTable.insertDirect
    split
    · rfl
    · rw [count_sessionLinks_append valid.ascending]
      rfl
  | bind nonzero bound =>
    obtain ⟨_, rfl⟩ := bind?_some bound
    rw [count_sessionLinks_append valid.ascending, SessionId.not_isDirect_iff.mpr nonzero]
    rfl
  | unbind nonzero unbound =>
    rw [count_sessionLinks_unbind? valid.ascending nonzero unbound]
    rfl
  | removeLink link =>
    rw [releases_removeLink, count_sessionLinks_removeLink table link other]
    rfl

/-- No operation brings in links but known ones. -/
theorem Step.known {known : Link → Prop} {taken freed : List Link}
    (step : Step known table taken freed next) (valid : table.Valid)
    (before : ∀ other ∈ table.directLinks, known other) :
    ∀ other ∈ next.directLinks, known other := by
  intro other member
  unfold directLinks at member
  cases step with
  | insertDirect isKnown =>
    unfold RouteTable.insertDirect at member
    split at member
    · exact before other member
    · rw [candidates_append, if_pos rfl] at member
      rcases List.mem_append.mp member with old | new
      · exact before other old
      · rw [List.mem_singleton.mp new]
        exact isKnown
  | bind nonzero bound =>
    obtain ⟨_, rfl⟩ := bind?_some bound
    rw [candidates_append, if_neg (Ne.symm nonzero)] at member
    exact before other member
  | unbind nonzero unbound =>
    rw [(candidates_of_unbind? unbound).2 .direct (Ne.symm nonzero)] at member
    exact before other member
  | removeLink link =>
    rw [candidates_removeLink valid.ascending] at member
    exact before other (List.mem_filter.mp member).1

/-- What is taken or given back is a direct path of the table. -/
theorem Step.references_direct {known : Link → Prop} {taken freed : List Link}
    (step : Step known table taken freed next) (valid : table.Valid) :
    (∀ other ∈ taken, other ∈ table.directLinks) ∧ ∀ other ∈ freed, other ∈ table.directLinks := by
  have held (other : Link) (count : 0 < table.sessionLinks.count other) :
      other ∈ table.directLinks := by
    obtain ⟨session, _, member⟩ :=
      (mem_sessionLinks_iff valid.ascending).mp (List.count_pos_iff.mp count)
    exact valid.gate session other member
  have balance := step.settles valid
  cases step with
  | insertDirect => simp
  | bind nonzero bound =>
    obtain ⟨direct, _⟩ := bind?_some bound
    simpa using direct
  | unbind =>
    refine ⟨by simp, fun other member => held other ?_⟩
    have given := List.count_pos_iff.mpr member
    have equal := balance other
    simp only [List.count_nil] at equal
    omega
  | removeLink =>
    refine ⟨by simp, fun other member => held other ?_⟩
    have given := List.count_pos_iff.mpr member
    have equal := balance other
    simp only [List.count_nil] at equal
    omega

end RouteTable

end DaemonMesh
