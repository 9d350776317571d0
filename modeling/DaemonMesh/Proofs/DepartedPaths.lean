import DaemonMesh.Proofs.LossFates
import Mathlib.Data.List.Induction

namespace DaemonMesh

namespace RouteTable

variable {table : RouteTable} {gone : Link → Bool}

theorem without_without (table : RouteTable) (first second : Link → Bool) :
    (table.without first).without second = table.without fun link => first link || second link := by
  unfold without
  generalize table.buckets.entries = entries
  congr 2
  induction entries with
  | nil => rfl
  | cons bucket rest ih =>
    have both : (bucket.2.filter fun link => !first link).filter (fun link => !second link) =
        bucket.2.filter fun link => !(first link || second link) := by
      rw [List.filter_filter]
      exact List.filter_congr fun link _ => by rw [Bool.not_or, Bool.and_comm]
    simp only [List.map_cons, List.filter_cons] at ih ⊢
    by_cases emptied : (bucket.2.filter fun link => !first link) = []
    · rw [emptied, List.filter_nil] at both
      simpa only [emptied, ← both, List.isEmpty_nil, Bool.not_true, Bool.false_eq_true, if_false]
        using ih
    · have kept : (!(bucket.2.filter fun link => !first link).isEmpty) = true := by
        simpa using emptied
      simp only [kept, if_true, List.map_cons, List.filter_cons, both, ih]

/-- Only the links of the table count. -/
theorem without_congr {other : Link → Bool} (agree : ∀ link ∈ table.links, gone link = other link) :
    table.without gone = table.without other := by
  unfold without
  congr 3
  refine List.map_congr_left fun bucket member => ?_
  refine congrArg (Prod.mk bucket.1) (List.filter_congr fun link inBucket => ?_)
  rw [agree link (List.mem_flatMap.mpr ⟨bucket, member, inBucket⟩)]

theorem Valid.without_none (valid : table.Valid) (none : ∀ link ∈ table.links, gone link = false) :
    table.without gone = table := by
  have entries : (table.without fun _ => false).buckets.entries = table.buckets.entries := by
    unfold RouteTable.without
    simp only [Bool.not_false, List.filter_true, List.map_id', Prod.mk.eta]
    refine List.filter_eq_self.mpr fun bucket member => ?_
    simpa using valid.filled bucket member
  rw [without_congr none]
  exact congrArg (fun entries => RouteTable.mk ⟨entries⟩) entries

theorem Valid.mem_directLinks_without (valid : table.Valid) {lost : List Link} {link : Link} :
    link ∈ (table.without lost.contains).directLinks ↔ link ∈ table.directLinks ∧ link ∉ lost := by
  unfold directLinks
  rw [candidates_without valid.ascending, List.mem_filter, Bool.not_eq_true', ← Bool.not_eq_true,
    List.contains_iff_mem]

theorem mem_sessionLinks_without {lost : List Link} {link : Link} :
    link ∈ (table.without lost.contains).sessionLinks ↔
      link ∈ table.sessionLinks ∧ link ∉ lost := by
  rw [sessionLinks_without, List.mem_filter, Bool.not_eq_true', ← Bool.not_eq_true,
    List.contains_iff_mem]

end RouteTable

namespace Endpoint

/-- Whether the departure of a daemon leaves the endpoint without a usable route: it has a path to
that daemon, and either no other path, or sessions were bound and none rides on a link to another
daemon. -/
def FallsWith (endpoint : Endpoint) (guid : Guid) : Prop :=
  (∃ link ∈ endpoint.routes.candidates .direct, link.guid = guid) ∧
    ((∀ link ∈ endpoint.routes.candidates .direct, link.guid = guid) ∨
      endpoint.everBound = true ∧
        ∀ session ≠ .direct, ∀ link ∈ endpoint.routes.candidates session, link.guid = guid)

/-- Whether all paths of the endpoint to a daemon are among the given links. -/
def CutOff (endpoint : Endpoint) (guid : Guid) (lost : List Link) : Prop :=
  ∀ link ∈ endpoint.routes.candidates .direct, link.guid = guid → link ∈ lost

variable {endpoint : Endpoint} {guid : Guid} {lost : List Link} {link : Link}

theorem reaches_without_iff (valid : endpoint.routes.Valid) :
    (endpoint.routes.without lost.contains).reaches guid = false ↔ endpoint.CutOff guid lost := by
  rw [← Bool.not_eq_true, (valid.without lost.contains).reaches_iff]
  constructor
  · intro unreached other member same
    by_contra remains
    exact unreached ⟨other, valid.mem_directLinks_without.mpr ⟨member, remains⟩, same⟩
  · rintro cut ⟨other, member, same⟩
    obtain ⟨before, remains⟩ := valid.mem_directLinks_without.mp member
    exact remains (cut other before same)

section ToGuid

variable (valid : endpoint.routes.Valid) (toGuid : ∀ other ∈ lost, other.guid = guid)
include valid toGuid

theorem isEmpty_without_iff : (endpoint.routes.without lost.contains).isEmpty = true ↔
    (∀ link ∈ endpoint.routes.candidates .direct, link.guid = guid) ∧
      endpoint.CutOff guid lost := by
  rw [(valid.without lost.contains).isEmpty_iff, List.eq_nil_iff_forall_not_mem]
  constructor
  · intro none
    have gone : ∀ other ∈ endpoint.routes.directLinks, other ∈ lost := by
      intro other member
      by_contra remains
      exact none other (valid.mem_directLinks_without.mpr ⟨member, remains⟩)
    exact ⟨fun other member => toGuid other (gone other member),
      fun other member _ => gone other member⟩
  · rintro ⟨only, cut⟩ other member
    obtain ⟨before, remains⟩ := valid.mem_directLinks_without.mp member
    exact remains (cut other before (only other before))

theorem hasSessionRoutes_without_iff (cut : endpoint.CutOff guid lost) :
    (endpoint.routes.without lost.contains).hasSessionRoutes = false ↔
      ∀ session ≠ .direct, ∀ link ∈ endpoint.routes.candidates session, link.guid = guid := by
  rw [← Bool.not_eq_true, (valid.without lost.contains).hasSessionRoutes_iff, not_not,
    List.eq_nil_iff_forall_not_mem]
  constructor
  · intro none session nonzero other bound
    by_contra foreign
    have remains : other ∉ lost := fun gone => foreign (toGuid other gone)
    have held := (RouteTable.mem_sessionLinks_iff valid.ascending).mpr ⟨session, nonzero, bound⟩
    exact none other (RouteTable.mem_sessionLinks_without.mpr ⟨held, remains⟩)
  · intro riding other held
    obtain ⟨bound, remains⟩ := RouteTable.mem_sessionLinks_without.mp held
    obtain ⟨session, nonzero, taken⟩ :=
      (RouteTable.mem_sessionLinks_iff valid.ascending).mp bound
    exact remains
      (cut other (valid.sessionLinks_direct bound) (riding session nonzero other taken))

/-- What the emptiness rule says once links to a daemon are lost, the last of them a direct path. -/
theorem leftEmpty_without_iff (direct : link ∈ endpoint.routes.directLinks)
    (leads : link.guid = guid) :
    leftEmpty endpoint.everBound (endpoint.routes.without lost.contains) link = true ↔
      endpoint.FallsWith guid ∧ endpoint.CutOff guid lost := by
  unfold leftEmpty FallsWith
  cases endpoint.everBound with
  | false =>
    rw [if_neg Bool.false_ne_true, isEmpty_without_iff valid toGuid]
    constructor
    · rintro ⟨only, cut⟩
      exact ⟨⟨⟨link, direct, leads⟩, Or.inl only⟩, cut⟩
    · rintro ⟨⟨_, falls⟩, cut⟩
      exact ⟨falls.resolve_right fun bound => Bool.false_ne_true bound.1, cut⟩
  | true =>
    rw [if_pos rfl, Bool.and_eq_true_iff, Bool.not_eq_true', Bool.not_eq_true', leads,
      reaches_without_iff valid]
    constructor
    · rintro ⟨unbound, cut⟩
      have riding := (hasSessionRoutes_without_iff valid toGuid cut).mp unbound
      exact ⟨⟨⟨link, direct, leads⟩, Or.inr ⟨rfl, riding⟩⟩, cut⟩
    · rintro ⟨⟨_, falls⟩, cut⟩
      refine ⟨(hasSessionRoutes_without_iff valid toGuid cut).mpr ?_, cut⟩
      rcases falls with only | ⟨_, riding⟩
      · exact fun session _ other bound => only other (valid.gate session other bound)
      · exact riding

end ToGuid

/-- A link that the endpoint does not have, or has lost before, is no loss. -/
theorem idle_loss (valid : endpoint.routes.Valid) {guid : Guid}
    (known : link ∈ endpoint.routes.directLinks → link ∈ lost) :
    endpoint.routes.without (lost ++ [link]).contains = endpoint.routes.without lost.contains ∧
      (endpoint.CutOff guid (lost ++ [link]) ↔ endpoint.CutOff guid lost) := by
  refine ⟨RouteTable.without_congr fun other member => ?_, fun cut other member same => ?_,
    fun cut other member same => List.mem_append_left _ (cut other member same)⟩
  · have direct := valid.mem_links_iff.mp member
    rw [Bool.eq_iff_iff, List.contains_iff_mem, List.contains_iff_mem, List.mem_append,
      List.mem_singleton]
    refine ⟨fun gone => gone.elim id fun same => ?_, Or.inl⟩
    rw [same] at direct ⊢
    exact known direct
  · rcases List.mem_append.mp (cut other member same) with before | last
    · exact before
    · rw [List.mem_singleton.mp last] at member ⊢
      exact known member

end Endpoint

namespace Standing

/-- How an endpoint stands after losses of links to one daemon: it has lost their entries, and it is
off the router if it falls with the daemon and has lost all its paths to it. -/
structure After (standing : Standing) (endpoint : Endpoint) (guid : Guid) (lost : List Link) :
    Prop where
  left : standing.endpoint =
    { endpoint with
      routes := endpoint.routes.without lost.contains
      state := if standing.registered then endpoint.state else .stopping }
  fallen : standing.registered = false ↔ endpoint.FallsWith guid ∧ endpoint.CutOff guid lost

variable {standing : Standing} {endpoint : Endpoint} {guid : Guid} {lost : List Link} {link : Link}

theorem after_nothing (valid : endpoint.routes.Valid) (guid : Guid) :
    After ⟨endpoint, true⟩ endpoint guid [] where
  left := by
    have whole : endpoint.routes.without ([] : List Link).contains = endpoint.routes :=
      valid.without_none fun _ _ => rfl
    rw [whole]
    rfl
  fallen := by
    refine ⟨fun off => (by cases off), ?_⟩
    rintro ⟨⟨⟨link, direct, leads⟩, _⟩, cut⟩
    exact (List.not_mem_nil (cut link direct leads)).elim

theorem After.idle (after : standing.After endpoint guid lost) (valid : endpoint.routes.Valid)
    (known : link ∈ endpoint.routes.directLinks → link ∈ lost) :
    standing.After endpoint guid (lost ++ [link]) := by
  obtain ⟨same, cut⟩ := Endpoint.idle_loss valid known
  refine ⟨?_, ?_⟩
  · rw [same]
    exact after.left
  · rw [cut]
    exact after.fallen

theorem After.lose (after : standing.After endpoint guid lost) (valid : endpoint.routes.Valid)
    (toGuid : ∀ other ∈ lost ++ [link], other.guid = guid) :
    (standing.lose link).After endpoint guid (lost ++ [link]) := by
  have leads := toGuid link (List.mem_append_right _ (List.mem_singleton_self _))
  obtain ⟨current, registered⟩ := standing
  obtain ⟨left, fallen⟩ := after
  dsimp only at left fallen
  cases registered with
  | false =>
    -- An endpoint that has fallen has no path left that this loss could take.
    have idle : After ⟨current, false⟩ endpoint guid lost := ⟨left, fallen⟩
    exact idle.idle valid fun direct => (fallen.mp rfl).2 link direct leads
  | true =>
    have routes : current.routes = endpoint.routes.without lost.contains := by rw [left]
    by_cases hit : link ∈ current.routes.directLinks
    · have direct : link ∈ endpoint.routes.directLinks := by
        rw [routes] at hit
        exact (valid.mem_directLinks_without.mp hit).1
      have removed : (current.routes.removeLink link).2 =
          endpoint.routes.without (lost ++ [link]).contains := by
        rw [routes, RouteTable.removeLink_eq_without, RouteTable.without_without]
        refine RouteTable.without_congr fun other _ => ?_
        rw [Bool.eq_iff_iff, Bool.or_eq_true, List.contains_iff_mem, List.contains_iff_mem,
          List.mem_append, List.mem_singleton, beq_iff_eq]
      -- Whether it falls now can be read off the endpoint at the start and all losses together.
      have emptied : (current.removeLink link).2.1 = Endpoint.leftEmpty endpoint.everBound
          (endpoint.routes.without (lost ++ [link]).contains) link := by
        rw [← removed, left]
        rfl
      have shape : (current.removeLink link).2.2 =
          { endpoint with
            routes := endpoint.routes.without (lost ++ [link]).contains
            state := if (current.removeLink link).2.1 then .stopping else endpoint.state } := by
        rw [← removed, left]
        rfl
      rw [lose_direct hit, shape]
      generalize (current.removeLink link).2.1 = stops at emptied ⊢
      refine ⟨by cases stops <;> rfl, ?_⟩
      rw [← Endpoint.leftEmpty_without_iff valid toGuid direct leads, ← emptied]
      cases stops <;> simp
    · have idle : After ⟨current, true⟩ endpoint guid lost := ⟨left, fallen⟩
      rw [lose_spared hit]
      refine idle.idle valid fun direct => ?_
      by_contra remains
      refine hit ?_
      rw [routes]
      exact valid.mem_directLinks_without.mpr ⟨direct, remains⟩

/-- The order of the losses does not matter. -/
theorem after_losses (valid : endpoint.routes.Valid) (toGuid : ∀ link ∈ lost, link.guid = guid) :
    (endpoint.losing lost).After endpoint guid lost := by
  induction lost using List.reverseRecOn with
  | nil => exact after_nothing valid guid
  | append_singleton lost link ih =>
    have before := ih fun other member => toGuid other (List.mem_append_left _ member)
    rw [Endpoint.losing_concat]
    exact before.lose valid toGuid

end Standing

end DaemonMesh
