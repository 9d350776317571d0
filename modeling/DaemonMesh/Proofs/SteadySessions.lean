import DaemonMesh.Proofs.DirectPaths

namespace DaemonMesh

namespace RouteTable

/-- All bindings of a session ride on the same link. -/
def Steady (table : RouteTable) : Prop :=
  ∀ session, session ≠ .direct → ∀ link ∈ table.candidates session,
    ∀ other ∈ table.candidates session, other = link

variable {table next : RouteTable} {session : SessionId} {link : Link}

/-- A table stays steady when each session keeps no more than some of the links it had. -/
theorem Steady.of_subsets (steady : table.Steady)
    (kept : ∀ session, session ≠ .direct →
      next.candidates session ⊆ table.candidates session) : next.Steady :=
  fun session nonzero link bound other alsoBound =>
    steady session nonzero link (kept session nonzero bound) other (kept session nonzero alsoBound)

theorem steady_withDirect (link : Link) : (withDirect link).Steady := by
  intro session nonzero bound member
  rw [candidates_withDirect, if_neg nonzero] at member
  exact (List.not_mem_nil member).elim

/-- Direct paths have an entry list of their own, and no session sees it. -/
theorem candidates_insertDirect (table : RouteTable) (link : Link) (nonzero : session ≠ .direct) :
    (table.insertDirect link).2.candidates session = table.candidates session := by
  unfold insertDirect
  split
  · rfl
  · simp [nonzero]

theorem Steady.insertDirect (steady : table.Steady) (link : Link) :
    (table.insertDirect link).2.Steady :=
  steady.of_subsets fun _ nonzero => by
    rw [candidates_insertDirect table link nonzero]
    exact List.Subset.refl _

/-- A binding that ends leaves fewer entries, hence no second link. -/
theorem Steady.unbind (steady : table.Steady)
    (unbound : table.unbind? session = some (link, next)) : next.Steady := by
  obtain ⟨atSession, elsewhere⟩ := candidates_of_unbind? unbound
  refine steady.of_subsets fun other _ => ?_
  by_cases same : other = session
  · rw [same, atSession]
    exact List.subset_cons_self ..
  · rw [elsewhere other same]
    exact List.Subset.refl _

/-- The default selector stays with the link that carries the session already. -/
theorem Steady.append (steady : table.Steady)
    (chosen : Selector.chooseFirst table session = some link) :
    (table.append session link).Steady := by
  have rides : ∀ bound ∈ table.candidates session, session ≠ .direct → bound = link := by
    intro bound member nonzero
    cases first : (table.candidates session).head? with
    | none =>
      rw [List.head?_eq_none_iff.mp first] at member
      exact (List.not_mem_nil member).elim
    | some head =>
      unfold Selector.chooseFirst firstBound at chosen
      rw [first] at chosen
      rw [← Option.some.inj chosen]
      exact steady session nonzero head (List.mem_of_head? first) bound member
  intro other nonzero one bound another alsoBound
  rw [candidates_append] at bound alsoBound
  by_cases same : other = session
  · rw [if_pos same, List.mem_append, List.mem_singleton] at bound alsoBound
    have onLink : ∀ taken, taken ∈ table.candidates session ∨ taken = link → taken = link :=
      fun taken member => member.elim (fun old => rides taken old (same ▸ nonzero)) id
    rw [onLink one bound, onLink another alsoBound]
  · rw [if_neg same] at bound alsoBound
    exact steady other nonzero one bound another alsoBound

/-- If the link was the one of the session then nothing is left of it, and otherwise everything. -/
theorem Steady.removeLink (steady : table.Steady) (ascending : table.buckets.Ascending)
    (link : Link) : (table.removeLink link).2.Steady :=
  steady.of_subsets fun session _ => by
    rw [candidates_removeLink ascending]
    exact List.filter_subset_self _

/-- With a link, a session loses all of its bindings or none. -/
theorem Steady.removed (steady : table.Steady) (nonzero : session ≠ .direct) (link : Link) :
    ((table.candidates session).filter fun other => other ≠ link) =
      if link ∈ table.candidates session then [] else table.candidates session := by
  split
  · next bound =>
    rw [List.filter_eq_nil_iff]
    intro other member
    simpa using steady session nonzero link bound other member
  · next unbound =>
    rw [List.filter_eq_self]
    intro other member
    refine decide_eq_true fun same => ?_
    rw [same] at member
    exact unbound member

/-- A session loses all of its bindings or none of them, as all of them go to one link. -/
theorem Steady.length_removed (steady : table.Steady) (nonzero : session ≠ .direct) (link : Link) :
    ((table.candidates session).filter fun other => other ≠ link).length =
      if link ∈ table.candidates session then 0 else (table.candidates session).length := by
  rw [steady.removed nonzero link]
  split <;> rfl

end RouteTable

end DaemonMesh
