import DaemonMesh.Proofs.TableEntries
import Mathlib.Data.List.Dedup

namespace DaemonMesh

namespace SessionId

/-- Insertion loses no session and makes up none. -/
theorem insertSorted_perm (session : SessionId) (sessions : List SessionId) :
    (insertSorted session sessions).Perm (session :: sessions) := by
  induction sessions with
  | nil => exact List.Perm.refl _
  | cons first rest ih =>
    unfold insertSorted
    split
    · exact (ih.cons first).trans (List.Perm.swap session first rest)
    · exact List.Perm.refl _

theorem sort_perm (sessions : List SessionId) : (sort sessions).Perm sessions := by
  induction sessions with
  | nil => exact List.Perm.refl _
  | cons first rest ih => exact (insertSorted_perm first (sort rest)).trans (ih.cons first)

theorem lt_iff {first second : SessionId} :
    first < second ↔ first.number.toNat < second.number.toNat := UInt32.lt_iff_toNat_lt

/-- The induction is on the list, and the new session goes before the first one that is not below
it. -/
theorem insertSorted_ascending {session : SessionId} {sessions : List SessionId}
    (ascending : sessions.Pairwise fun first second => ¬second < first) :
    (insertSorted session sessions).Pairwise fun first second => ¬second < first := by
  induction sessions with
  | nil => exact List.pairwise_singleton _ _
  | cons first rest ih =>
    obtain ⟨above, sorted⟩ := List.pairwise_cons.mp ascending
    unfold insertSorted
    split
    · next below =>
      refine List.pairwise_cons.mpr ⟨fun other member => ?_, ih sorted⟩
      rcases List.mem_cons.mp ((insertSorted_perm session rest).mem_iff.mp member) with rfl | later
      · rw [lt_iff] at below ⊢
        omega
      · exact above other later
    · next notBelow =>
      refine List.pairwise_cons.mpr ⟨fun other member => ?_, ascending⟩
      rcases List.mem_cons.mp member with rfl | later
      · exact notBelow
      · have behind := above other later
        rw [lt_iff] at notBelow behind ⊢
        omega

theorem sort_ascending (sessions : List SessionId) :
    (sort sessions).Pairwise fun first second => ¬second < first := by
  induction sessions with
  | nil => exact List.Pairwise.nil
  | cons first rest ih => exact insertSorted_ascending ih

/-- The same sessions stand in ascending order in one way only. -/
theorem eq_of_ascending {first second : List SessionId}
    (ascending : first.Pairwise fun one other => ¬other < one)
    (alsoAscending : second.Pairwise fun one other => ¬other < one) (same : first.Perm second) :
    first = second := by
  refine List.Perm.eq_of_pairwise ?_ ascending alsoAscending same
  intro one other _ _ notAbove notBelow
  exact Std.Trichotomous.trichotomous _ _ notBelow notAbove

end SessionId

/-- Taking the entries key by key takes each of them once. -/
theorem flatMap_filter_perm {κ α : Type} [DecidableEq κ] {keys : List κ} (distinct : keys.Nodup)
    {entries : List (κ × α)} (covered : ∀ entry ∈ entries, entry.1 ∈ keys) :
    (keys.flatMap fun key => entries.filter fun entry => entry.1 = key).Perm entries := by
  induction keys generalizing entries with
  | nil =>
    have none : entries = [] :=
      List.eq_nil_iff_forall_not_mem.mpr fun entry member =>
        List.not_mem_nil (covered entry member)
    rw [none]
    exact List.Perm.refl _
  | cons key rest ih =>
    obtain ⟨fresh, apart⟩ := List.nodup_cons.mp distinct
    have others : ∀ entry ∈ entries.filter (fun entry => !decide (entry.1 = key)),
        entry.1 ∈ rest := by
      intro entry member
      obtain ⟨inEntries, different⟩ := List.mem_filter.mp member
      refine (List.mem_cons.mp (covered entry inEntries)).resolve_left fun same => ?_
      simp [same] at different
    have later : (rest.flatMap fun other =>
        (entries.filter fun entry => !decide (entry.1 = key)).filter fun entry =>
          entry.1 = other) =
        rest.flatMap fun other => entries.filter fun entry => entry.1 = other := by
      refine List.flatMap_congr fun other member => ?_
      rw [List.filter_filter]
      refine List.filter_congr fun entry _ => ?_
      by_cases same : entry.1 = other
      · have different : other ≠ key := fun equal => fresh (equal ▸ member)
        simp [same, different]
      · simp [same]
    have tail := ih apart others
    rw [later] at tail
    rw [List.flatMap_cons]
    exact (tail.append_left _).trans (List.filter_append_perm _ entries)

/-- The entries of a table in a single list, each under its session, in the order they came. -/
structure FlatTable where
  entries : List (SessionId × Link)

namespace FlatTable

def empty : FlatTable := ⟨[]⟩

def withDirect (link : Link) : FlatTable := ⟨[(.direct, link)]⟩

def candidates (flat : FlatTable) (session : SessionId) : List Link :=
  (flat.entries.filter fun entry => entry.1 = session).map Prod.snd

def hasDirect (flat : FlatTable) (link : Link) : Bool := flat.entries.contains (.direct, link)

def append (flat : FlatTable) (session : SessionId) (link : Link) : FlatTable :=
  ⟨flat.entries ++ [(session, link)]⟩

/-- The oldest entry of a session, and how many it has. -/
def firstBound (flat : FlatTable) (session : SessionId) : Option Link × Nat :=
  ((flat.entries.find? fun entry => entry.1 = session).map Prod.snd,
    flat.entries.countP fun entry => entry.1 = session)

/-- Erases the oldest entry of a session. -/
def unbind (flat : FlatTable) (session : SessionId) : Option Link × FlatTable :=
  ((flat.firstBound session).1, ⟨flat.entries.eraseP fun entry => entry.1 = session⟩)

/-- The sessions that a link is bound to, ascending, once for every binding. -/
def bindingsTo (flat : FlatTable) (link : Link) : List SessionId :=
  SessionId.sort
    ((flat.entries.filter fun entry => !entry.1.isDirect && entry.2 = link).map Prod.fst)

/-- Erases all entries of a link. -/
def removeLink (flat : FlatTable) (link : Link) : RemovedRoutes × FlatTable :=
  (⟨flat.entries.count (.direct, link), flat.bindingsTo link⟩,
    ⟨flat.entries.filter fun entry => entry.2 ≠ link⟩)

variable {flat : FlatTable} {session other : SessionId} {link : Link}

@[simp]
theorem mem_candidates_iff : link ∈ flat.candidates session ↔ (session, link) ∈ flat.entries := by
  simp [candidates]

@[simp] theorem hasDirect_iff : flat.hasDirect link = true ↔ link ∈ flat.candidates .direct := by
  rw [mem_candidates_iff, hasDirect, List.contains_iff_mem]

/-- The flat list is read session by session, and one more entry is seen by its own session only, at
the end. -/
@[simp] theorem candidates_append (flat : FlatTable) (session other : SessionId) (link : Link) :
    (flat.append session link).candidates other =
      if other = session then flat.candidates session ++ [link] else flat.candidates other := by
  unfold append candidates
  rw [List.filter_append, List.map_append]
  by_cases same : other = session
  · subst same
    simp
  · simp [same, Ne.symm same]

theorem firstBound_eq (flat : FlatTable) (session : SessionId) :
    flat.firstBound session =
      ((flat.candidates session).head?, (flat.candidates session).length) := by
  unfold firstBound candidates
  rw [List.head?_map, List.head?_filter, List.length_map, List.countP_eq_length_filter]

/-- The first entry of a session is its oldest. The entries of the other sessions may lie around it
and keep their order. -/
theorem candidates_unbind (flat : FlatTable) (session other : SessionId) :
    (flat.unbind session).2.candidates other =
      if other = session then (flat.candidates session).tail else flat.candidates other := by
  unfold unbind candidates
  dsimp only
  induction flat.entries with
  | nil => simp
  | cons entry rest ih =>
    by_cases hit : entry.1 = session
    · by_cases same : other = session
      · subst same
        simp [hit]
      · simp [hit, same, Ne.symm same]
    · by_cases same : other = session
      · subst same
        simpa [hit] using ih
      · by_cases here : entry.1 = other
        · simpa [hit, same, here] using ih
        · simpa [hit, same, here] using ih

/-- A link goes from all sessions at once, and what each of them has besides stays in order. -/
@[simp] theorem candidates_removeLink (flat : FlatTable) (link : Link) (session : SessionId) :
    (flat.removeLink link).2.candidates session =
      (flat.candidates session).filter fun other => other ≠ link := by
  unfold removeLink candidates
  dsimp only
  rw [List.filter_map, List.filter_filter, List.filter_filter]
  exact congrArg (List.map Prod.snd) (List.filter_congr fun entry _ => Bool.and_comm _ _)

theorem count_candidates (flat : FlatTable) (session : SessionId) (link : Link) :
    (flat.candidates session).count link = flat.entries.count (session, link) := by
  unfold candidates
  rw [List.count_eq_countP, List.count_eq_countP, List.countP_map, List.countP_filter]
  refine List.countP_congr fun entry _ => ?_
  obtain ⟨key, value⟩ := entry
  simp [and_comm]

/-- The candidates of a session are its entries with the session left out. -/
theorem map_candidates (flat : FlatTable) (session : SessionId) :
    (flat.candidates session).map (Prod.mk session) =
      flat.entries.filter fun entry => entry.1 = session := by
  unfold candidates
  rw [List.map_map]
  refine (List.map_congr_left fun entry member => ?_).trans (List.map_id _)
  have atSession := (List.mem_filter.mp member).2
  exact Prod.ext (of_decide_eq_true atSession).symm rfl

theorem mem_bindingsTo_iff :
    session ∈ flat.bindingsTo link ↔ session ≠ .direct ∧ link ∈ flat.candidates session := by
  unfold bindingsTo
  rw [(SessionId.sort_perm _).mem_iff, mem_candidates_iff]
  simp only [List.mem_map, List.mem_filter, Bool.and_eq_true, decide_eq_true_eq,
    Bool.not_eq_true', SessionId.not_isDirect_iff]
  constructor
  · rintro ⟨entry, ⟨member, bound, rfl⟩, rfl⟩
    exact ⟨bound, member⟩
  · rintro ⟨bound, member⟩
    exact ⟨(session, link), ⟨member, bound, rfl⟩, rfl⟩

/-- What the removal of a link reports is what it takes out. -/
theorem total_removeLink (flat : FlatTable) (link : Link) :
    (flat.removeLink link).1.total + (flat.removeLink link).2.entries.length =
      flat.entries.length := by
  have direct : flat.entries.count (.direct, link) =
      (flat.entries.filter fun entry => entry.2 = link).countP fun entry => entry.1.isDirect := by
    rw [List.countP_filter, List.count_eq_countP]
    refine List.countP_congr fun entry _ => ?_
    simp [Prod.ext_iff]
  have bound : (flat.entries.filter fun entry => !entry.1.isDirect && entry.2 = link).length =
      (flat.entries.filter fun entry => entry.2 = link).countP
        fun entry => ¬entry.1.isDirect = true := by
    rw [List.countP_filter, List.countP_eq_length_filter]
    simp only [decide_not, Bool.decide_eq_true]
  have taken := (flat.entries.filter fun entry => entry.2 = link).length_eq_countP_add_countP
    fun entry => entry.1.isDirect
  have left := flat.entries.length_eq_length_filter_add fun entry => decide (entry.2 = link)
  unfold removeLink bindingsTo RemovedRoutes.total
  dsimp only
  rw [(SessionId.sort_perm _).length_eq, List.length_map, direct, bound, ← taken, left]
  simp

end FlatTable

end DaemonMesh
