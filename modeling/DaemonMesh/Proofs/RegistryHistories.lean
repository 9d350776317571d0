import DaemonMesh.Subscription

namespace DaemonMesh

namespace Registry

/-- What subscribing and unsubscribing make of a registry. -/
inductive Evolves (start : Registry) : Registry → Prop
  | start : Evolves start start
  | subscribe {registry : Registry} (before : Evolves start registry) (subscriber : Nat) :
      Evolves start (registry.subscribe subscriber).2
  | unsubscribe {registry : Registry} (before : Evolves start registry) (handle : Nat) :
      Evolves start (registry.unsubscribe handle)

/-- The numbers given so far went to one subscription each, in the order they came. -/
structure Numbered (registry : Registry) : Prop where
  ascending : registry.subscriptions.Pairwise fun first second => first.handle < second.handle
  below : ∀ entry ∈ registry.subscriptions, entry.handle < registry.nextHandle

variable {first second third : Registry} {entry : Subscription}

theorem Evolves.trans (earlier : first.Evolves second) (later : second.Evolves third) :
    first.Evolves third := by
  induction later with
  | start => exact earlier
  | subscribe _ subscriber ih => exact ih.subscribe subscriber
  | unsubscribe _ handle ih => exact ih.unsubscribe handle

theorem numbered_empty : empty.Numbered where
  ascending := .nil
  below := nofun

/-- The next handle is above every handle so far, and it is the one given. -/
theorem Numbered.subscribe (numbered : first.Numbered) (subscriber : Nat) :
    (first.subscribe subscriber).2.Numbered where
  ascending := by
    refine List.pairwise_append.mpr ⟨numbered.ascending, List.pairwise_singleton _ _, ?_⟩
    intro entry member new single
    rw [List.mem_singleton.mp single]
    exact numbered.below entry member
  below entry member := by
    rcases List.mem_append.mp member with old | new
    · exact Nat.lt_succ_of_lt (numbered.below entry old)
    · rw [List.mem_singleton.mp new]
      exact Nat.lt_succ_self _

/-- What is left keeps its order, and the handle taken away will not be given again. -/
theorem Numbered.unsubscribe (numbered : first.Numbered) (handle : Nat) :
    (first.unsubscribe handle).Numbered where
  ascending := numbered.ascending.filter _
  below entry member := numbered.below entry (List.mem_filter.mp member).1

/-- The induction is on the history, and either kind of call keeps the numbering. -/
theorem Evolves.numbered (evolves : first.Evolves second) (numbered : first.Numbered) :
    second.Numbered := by
  induction evolves with
  | start => exact numbered
  | subscribe _ subscriber ih => exact ih.subscribe subscriber
  | unsubscribe _ handle ih => exact ih.unsubscribe handle

/-- Whoever is subscribed was subscribed before, or has been given a number since. -/
theorem Evolves.origin (evolves : first.Evolves second) : first.nextHandle ≤ second.nextHandle ∧
    ∀ entry ∈ second.subscriptions,
      entry ∈ first.subscriptions ∨ first.nextHandle ≤ entry.handle := by
  induction evolves with
  | start => exact ⟨Nat.le_refl _, fun entry member => Or.inl member⟩
  | subscribe _ subscriber ih =>
    refine ⟨Nat.le_succ_of_le ih.1, fun entry member => ?_⟩
    rcases List.mem_append.mp member with old | new
    · exact ih.2 entry old
    · rw [List.mem_singleton.mp new]
      exact Or.inr ih.1
  | unsubscribe _ handle ih =>
    exact ⟨ih.1, fun entry member => ih.2 entry (List.mem_filter.mp member).1⟩

/-- Nobody comes back under an old number. -/
theorem Evolves.gone (earlier : first.Evolves second) (later : second.Evolves third)
    (numbered : first.Numbered) (was : entry ∈ first.subscriptions)
    (left : entry ∉ second.subscriptions) : entry ∉ third.subscriptions := by
  intro back
  rcases later.origin.2 entry back with still | fresh
  · exact left still
  · have old := numbered.below entry was
    have grown := earlier.origin.1
    omega

theorem Numbered.nodup (numbered : first.Numbered) : first.subscriptions.Nodup :=
  numbered.ascending.imp fun below same => by
    rw [same] at below
    exact Nat.lt_irrefl _ below

end Registry

end DaemonMesh
