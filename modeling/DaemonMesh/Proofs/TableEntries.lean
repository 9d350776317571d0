import DaemonMesh.Proofs.AscendingMap
import DaemonMesh.RouteTable
import Mathlib.Tactic.Common

namespace DaemonMesh

instance : IsStrictTotalOrder SessionId (· < ·) where
  irrefl session := UInt32.lt_irrefl session.number
  trans _ _ _ := UInt32.lt_trans
  trichotomous a b notBelow notAbove := by
    have same : a.number = b.number :=
      UInt32.le_antisymm (UInt32.not_lt.mp notAbove) (UInt32.not_lt.mp notBelow)
    cases a
    cases b
    exact congrArg SessionId.mk same

@[simp] theorem SessionId.isDirect_iff {session : SessionId} :
    session.isDirect = true ↔ session = .direct := by
  cases session
  simp [isDirect, direct]

@[simp] theorem SessionId.not_isDirect_iff {session : SessionId} :
    session.isDirect = false ↔ session ≠ .direct := by
  rw [Ne, ← isDirect_iff, Bool.not_eq_true]

namespace RouteTable

variable {table next : RouteTable} {session other : SessionId} {link : Link}

/-- A link is a direct path just if it is among the candidates of session 0. -/
@[simp] theorem hasDirect_iff : table.hasDirect link = true ↔ link ∈ table.directLinks := by
  simp [hasDirect]

@[simp] theorem not_hasDirect_iff : table.hasDirect link = false ↔ link ∉ table.directLinks := by
  rw [← Bool.not_eq_true, hasDirect_iff]

@[simp] theorem candidates_empty (session : SessionId) : empty.candidates session = [] := rfl

@[simp] theorem candidates_withDirect (link : Link) (session : SessionId) :
    (withDirect link).candidates session = if session = .direct then [link] else [] := by
  by_cases same : session = .direct <;> simp [withDirect, candidates, same]

/-- An entry goes to the end of the candidates of its session and is no concern of the others. -/
@[simp] theorem candidates_append (table : RouteTable) (session other : SessionId) (link : Link) :
    (table.append session link).candidates other =
      if other = session then table.candidates session ++ [link] else table.candidates other := by
  by_cases same : other = session <;> simp [append, candidates, same]

@[simp] theorem directLinks_append (table : RouteTable) (session : SessionId) (link : Link) :
    (table.append session link).directLinks =
      if session = .direct then table.directLinks ++ [link] else table.directLinks := by
  by_cases zero : session = .direct <;> simp [directLinks, zero, eq_comm]

/-- What is left of every session after the oldest binding of one was taken away. -/
theorem candidates_of_unbind? (unbound : table.unbind? session = some (link, next)) :
    table.candidates session = link :: next.candidates session ∧
      ∀ other, other ≠ session → next.candidates other = table.candidates other := by
  unfold unbind? at unbound
  split at unbound
  · simp at unbound
  · next only atSession =>
    obtain ⟨rfl, rfl⟩ := Prod.mk.inj (Option.some.inj unbound)
    refine ⟨?_, ?_⟩
    · rw [atSession]
      simp [candidates]
    · intro other different
      simp [candidates, different]
  · next first rest _ atSession =>
    obtain ⟨rfl, rfl⟩ := Prod.mk.inj (Option.some.inj unbound)
    refine ⟨?_, ?_⟩
    · rw [atSession]
      simp [candidates]
    · intro other different
      simp [candidates, different]

/-- A binding can be taken away as long as there is one. -/
@[simp] theorem unbind?_isSome (table : RouteTable) (session : SessionId) :
    (table.unbind? session).isSome = true ↔ 0 < (table.candidates session).length := by
  unfold unbind?
  split <;> simp_all

/-- The entries of the buckets, as they are under the sessions. -/
theorem mem_entries_iff (ascending : table.buckets.Ascending) {bucket : List Link} :
    (session, bucket) ∈ table.buckets.entries ↔ table.buckets.find? session = some bucket :=
  ascending.mem_entries_iff

/-- Here the order of the buckets counts: in a list with a session twice, the second bucket would
not be found. -/
theorem mem_links_iff (ascending : table.buckets.Ascending) :
    link ∈ table.links ↔ ∃ session, link ∈ table.candidates session := by
  unfold links candidates
  simp only [List.mem_flatMap, Prod.exists, mem_entries_iff ascending]
  constructor
  · rintro ⟨session, bucket, atSession, member⟩
    exact ⟨session, by simpa [atSession] using member⟩
  · rintro ⟨session, member⟩
    cases atSession : table.buckets.find? session with
    | none => simp [atSession] at member
    | some bucket => exact ⟨session, bucket, atSession, by simpa [atSession] using member⟩

/-- A link has a reference from a table as long as some session is bound to it there. -/
theorem mem_sessionLinks_iff (ascending : table.buckets.Ascending) :
    link ∈ table.sessionLinks ↔ ∃ session, session ≠ .direct ∧ link ∈ table.candidates session := by
  unfold sessionLinks sessionBuckets candidates
  simp only [List.mem_flatMap, List.mem_filter, Prod.exists, mem_entries_iff ascending,
    Bool.not_eq_true', SessionId.not_isDirect_iff]
  constructor
  · rintro ⟨session, bucket, ⟨atSession, bound⟩, member⟩
    exact ⟨session, bound, by simpa [atSession] using member⟩
  · rintro ⟨session, bound, member⟩
    cases atSession : table.buckets.find? session with
    | none => simp [atSession] at member
    | some bucket => exact ⟨session, bucket, ⟨atSession, bound⟩, by simpa [atSession] using member⟩

/-- What is left of a table when the entries of some links are taken away, and with them the buckets
that run empty. -/
def without (table : RouteTable) (gone : Link → Bool) : RouteTable :=
  ⟨⟨(table.buckets.entries.map fun bucket => (bucket.1, bucket.2.filter fun link => !gone link))
    |>.filter fun bucket => !bucket.2.isEmpty⟩⟩

theorem without_ascending (ascending : table.buckets.Ascending) (gone : Link → Bool) :
    (table.without gone).buckets.Ascending :=
  ascending.filter_map (fun bucket => bucket.2.filter fun link => !gone link) _

/-- The links that are left stay in their order under every session. -/
theorem candidates_without (ascending : table.buckets.Ascending) (gone : Link → Bool)
    (session : SessionId) : (table.without gone).candidates session =
      (table.candidates session).filter fun link => !gone link := by
  have kept := without_ascending ascending gone
  unfold candidates
  cases after : (table.without gone).buckets.find? session with
  | some bucket =>
    have member := (mem_entries_iff kept).mpr after
    simp only [without, List.mem_filter, List.mem_map] at member
    obtain ⟨⟨⟨s, before⟩, inTable, same⟩, _⟩ := member
    obtain ⟨rfl, rfl⟩ := Prod.mk.inj same
    rw [(mem_entries_iff ascending).mp inTable]
    rfl
  | none =>
    cases before : table.buckets.find? session with
    | none => rfl
    | some bucket =>
      by_contra rest
      have member : (session, bucket.filter fun link => !gone link) ∈
          (table.without gone).buckets.entries := by
        simp only [without, List.mem_filter, List.mem_map]
        refine ⟨⟨(session, bucket), (mem_entries_iff ascending).mpr before, rfl⟩, ?_⟩
        cases remains : bucket.filter fun link => !gone link with
        | nil => exact (rest (by simpa using remains.symm)).elim
        | cons => rfl
      rw [(mem_entries_iff kept).mp member] at after
      simp at after

/-- The removal of one link is a case of the removal of any set of links, which is what losses one
after the other come to. -/
theorem removeLink_eq_without (table : RouteTable) (link : Link) :
    (table.removeLink link).2 = table.without fun other => other == link := by
  have same : (fun other : Link => decide (other ≠ link)) = fun other => !(other == link) := by
    funext other
    by_cases equal : other = link <;> simp [equal]
  unfold removeLink without
  rw [same]

/-- A link that is taken away goes from every session, and the others stay in their order. -/
theorem candidates_removeLink (ascending : table.buckets.Ascending) (link : Link)
    (session : SessionId) :
    (table.removeLink link).2.candidates session =
      (table.candidates session).filter fun other => other ≠ link := by
  rw [removeLink_eq_without, candidates_without ascending]
  exact List.filter_congr fun other _ => by by_cases equal : other = link <;> simp [equal]

end RouteTable

end DaemonMesh
