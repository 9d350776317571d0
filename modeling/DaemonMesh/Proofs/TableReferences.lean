import DaemonMesh.Proofs.TableEntries

namespace DaemonMesh

namespace RouteTable

variable {table next : RouteTable} {session : SessionId} {link other : Link}

/-- What a bucket adds to the references on a link. Direct paths take none. -/
def weigh (link : Link) (bucket : SessionId × List Link) : Nat :=
  if bucket.1.isDirect then 0 else bucket.2.count link

/-- The bindings to a link are counted bucket by bucket, so that a change of one bucket is a change
of one summand. -/
theorem count_sessionLinks (table : RouteTable) (link : Link) :
    table.sessionLinks.count link = (table.buckets.entries.map (weigh link)).sum := by
  unfold sessionLinks sessionBuckets
  induction table.buckets.entries with
  | nil => rfl
  | cons bucket rest ih =>
    simp only [List.filter_cons, List.map_cons, List.sum_cons]
    by_cases direct : bucket.1.isDirect
    · simpa [direct, weigh] using ih
    · simp [direct, weigh, ih]

/-- A session without a bucket weighs nothing, just as one with an empty bucket. -/
theorem weigh_candidates (table : RouteTable) (session : SessionId) (link : Link) :
    ((table.buckets.find? session).elim 0 fun old => weigh link (session, old)) =
      weigh link (session, table.candidates session) := by
  unfold candidates
  cases table.buckets.find? session with
  | none => simp [weigh]
  | some bucket => rfl

/-- One more binding is one more reference, and a direct path is none. -/
theorem count_sessionLinks_append (ascending : table.buckets.Ascending) (session : SessionId)
    (link other : Link) :
    (table.append session link).sessionLinks.count other =
      table.sessionLinks.count other + if session.isDirect then 0 else [link].count other := by
  have change := ascending.sum_insert (weigh other) session (table.candidates session ++ [link])
  rw [weigh_candidates, ← count_sessionLinks, ← count_sessionLinks] at change
  unfold append
  simp only [weigh, List.count_append] at change
  split at change
  · next direct =>
    rw [if_pos direct]
    omega
  · next bound =>
    rw [if_neg bound]
    omega

/-- Whichever link is freed, its count is one less and every other count is the same. -/
theorem count_sessionLinks_unbind? (ascending : table.buckets.Ascending)
    (nonzero : session ≠ .direct) (unbound : table.unbind? session = some (link, next))
    (other : Link) :
    table.sessionLinks.count other = next.sessionLinks.count other + [link].count other := by
  have bound := SessionId.not_isDirect_iff.mpr nonzero
  unfold unbind? at unbound
  split at unbound
  · simp at unbound
  · next only atSession =>
    obtain ⟨rfl, rfl⟩ := Prod.mk.inj (Option.some.inj unbound)
    have change := ascending.sum_erase (weigh other) session
    rw [weigh_candidates, ← count_sessionLinks, ← count_sessionLinks, atSession] at change
    simp only [weigh, bound, Bool.false_eq_true, if_false] at change
    omega
  · next first rest _ atSession =>
    obtain ⟨rfl, rfl⟩ := Prod.mk.inj (Option.some.inj unbound)
    have change := ascending.sum_insert (weigh other) session rest
    rw [weigh_candidates, ← count_sessionLinks, ← count_sessionLinks, atSession,
      ← List.singleton_append] at change
    simp only [weigh, bound, Bool.false_eq_true, if_false, List.count_append] at change
    omega

/-- The bindings that are left are bindings to the links that are left, in their order. -/
theorem sessionLinks_without (table : RouteTable) (gone : Link → Bool) :
    (table.without gone).sessionLinks = table.sessionLinks.filter fun link => !gone link := by
  unfold sessionLinks sessionBuckets without
  induction table.buckets.entries with
  | nil => rfl
  | cons bucket rest ih =>
    simp only [List.map_cons, List.filter_cons]
    by_cases emptied : (bucket.2.filter fun link => !gone link) = []
    · by_cases direct : bucket.1.isDirect
      · simpa only [emptied, direct, List.isEmpty_nil, Bool.not_true, Bool.false_eq_true, if_false]
          using ih
      · simpa only [emptied, direct, List.isEmpty_nil, Bool.not_true, Bool.not_false,
          Bool.false_eq_true, if_false, if_true, List.flatMap_cons, List.filter_append,
          List.nil_append] using ih
    · have kept : (!(bucket.2.filter fun link => !gone link).isEmpty) = true := by
        simpa using emptied
      by_cases direct : bucket.1.isDirect
      · simpa only [kept, direct, Bool.not_true, Bool.false_eq_true, if_false, if_true,
          List.filter_cons] using ih
      · simpa only [kept, direct, Bool.not_false, if_true, List.filter_cons,
          List.flatMap_cons, List.filter_append, List.append_cancel_left_eq] using ih

theorem sessionLinks_removeLink (table : RouteTable) (link : Link) :
    (table.removeLink link).2.sessionLinks =
      table.sessionLinks.filter fun other => other ≠ link := by
  rw [removeLink_eq_without, sessionLinks_without]
  exact List.filter_congr fun other _ => by by_cases equal : other = link <;> simp [equal]

theorem length_bindingsTo (table : RouteTable) (link : Link) :
    (table.bindingsTo link).length = table.sessionLinks.count link := by
  rw [count_sessionLinks]
  unfold bindingsTo
  induction table.buckets.entries with
  | nil => rfl
  | cons bucket rest ih =>
    simp only [List.flatMap_cons, List.length_append, List.map_cons, List.sum_cons, ih, weigh]
    split <;> simp

/-- The removal of a link gives one release for every binding to it. -/
theorem releases_removeLink (table : RouteTable) (link : Link) :
    (table.removeLink link).1.sessions.map (fun _ => link) =
      List.replicate (table.sessionLinks.count link) link := by
  rw [List.map_const', ← length_bindingsTo]
  rfl

/-- All bindings to the link go together, so as many references are given back as it had. -/
theorem count_sessionLinks_removeLink (table : RouteTable) (link other : Link) :
    table.sessionLinks.count other =
      (table.removeLink link).2.sessionLinks.count other
        + (List.replicate (table.sessionLinks.count link) link).count other := by
  rw [sessionLinks_removeLink]
  by_cases same : other = link
  · subst same
    have none :
        (table.sessionLinks.filter fun taken => decide (taken ≠ other)).count other = 0 := by
      refine List.count_eq_zero.mpr fun member => ?_
      simpa using (List.mem_filter.mp member).2
    rw [none, List.count_replicate_self]
    omega
  · rw [List.count_filter (by simpa using same), List.count_replicate]
    simp [Ne.symm same]

end RouteTable

end DaemonMesh
