import DaemonMesh.OrderedMap
import Mathlib.Algebra.GroupWithZero.Nat
import Mathlib.Order.Defs.Unbundled

namespace DaemonMesh

namespace OrderedMap

variable {κ α : Type}

/-- Erasing takes every entry of a key, and so it is right for maps that are not in order, too. -/
@[simp] theorem find?_erase [DecidableEq κ] (map : OrderedMap κ α) (key other : κ) :
    (map.erase key).find? other = if other = key then none else map.find? other := by
  unfold erase find?
  generalize map.entries = entries
  induction entries with
  | nil => simp
  | cons entry rest ih =>
    obtain ⟨k, v⟩ := entry
    by_cases same : k = key
    · subst same
      by_cases hit : other = k
      · simpa [hit] using ih
      · simpa [hit, List.lookup_cons, beq_eq_false_iff_ne.mpr hit] using ih
    · by_cases hit : other = k
      · subst hit
        simp [same]
      · simpa [same, List.lookup_cons, beq_eq_false_iff_ne.mpr hit] using ih

theorem mem_of_lookup [DecidableEq κ] {key : κ} {value : α} {entries : List (κ × α)}
    (found : entries.lookup key = some value) : (key, value) ∈ entries := by
  induction entries with
  | nil => simp at found
  | cons entry rest ih =>
    obtain ⟨k, v⟩ := entry
    by_cases same : key = k
    · subst same
      have value_eq : v = value := by simpa using found
      rw [value_eq]
      exact List.mem_cons_self
    · rw [List.lookup_cons, beq_eq_false_iff_ne.mpr same] at found
      exact List.mem_cons_of_mem _ (ih found)

variable [LT κ]

/-- An update makes up no entries. -/
theorem mem_setEntry [DecidableLT κ] [DecidableEq κ] {key : κ} {value : α} {entry : κ × α}
    {entries : List (κ × α)} (member : entry ∈ setEntry key value entries) :
      entry = (key, value) ∨ entry ∈ entries := by
  induction entries with
  | nil => exact Or.inl (by simpa [setEntry] using member)
  | cons first rest ih =>
    obtain ⟨k, v⟩ := first
    simp only [setEntry] at member
    split at member
    · exact List.mem_cons.mp member
    · split at member
      · rcases List.mem_cons.mp member with here | later
        · exact Or.inl here
        · exact Or.inr (List.mem_cons_of_mem _ later)
      · rcases List.mem_cons.mp member with here | later
        · exact Or.inr (by rw [here]; exact List.mem_cons_self)
        · exact (ih later).imp_right (List.mem_cons_of_mem _)

/-- The keys go up strictly, so that no key comes twice. -/
def Ascending (map : OrderedMap κ α) : Prop := map.entries.Pairwise fun a b => a.1 < b.1

theorem ascending_empty : (empty : OrderedMap κ α).Ascending := List.Pairwise.nil

theorem Ascending.erase [DecidableEq κ] {map : OrderedMap κ α} (ascending : map.Ascending)
    (key : κ) :
    (map.erase key).Ascending :=
  List.Pairwise.sublist List.filter_sublist ascending

/-- Changing values where they stand leaves the keys in order, and so does leaving entries out. -/
theorem Ascending.filter_map {map : OrderedMap κ α} (ascending : map.Ascending) (change : κ × α → α)
    (keep : κ × α → Bool) :
    Ascending ⟨(map.entries.map fun entry => (entry.1, change entry)).filter keep⟩ := by
  refine List.Pairwise.sublist List.filter_sublist ?_
  exact List.Pairwise.map _ (fun _ _ below => below) ascending

theorem Ascending.keys_ascending {map : OrderedMap κ α} (ascending : map.Ascending) :
    map.keys.Pairwise (· < ·) :=
  List.Pairwise.map _ (fun _ _ below => below) ascending

variable [IsStrictTotalOrder κ (· < ·)]

/-- Keys that ascend are distinct. -/
theorem Ascending.keys_nodup {map : OrderedMap κ α} (ascending : map.Ascending) :
    map.keys.Nodup := by
  refine ascending.keys_ascending.imp ?_
  rintro key _ below rfl
  exact Std.Irrefl.irrefl _ below

variable [DecidableEq κ]

/-- Only here does the order matter: with a key listed twice, the second entry would not be found.
-/
theorem Ascending.mem_entries_iff {map : OrderedMap κ α} (ascending : map.Ascending) {key : κ}
    {value : α} : (key, value) ∈ map.entries ↔ map.find? key = some value := by
  refine ⟨?_, mem_of_lookup⟩
  unfold Ascending at ascending
  unfold find?
  generalize map.entries = entries at *
  induction entries with
  | nil => simp
  | cons entry rest ih =>
    intro member
    obtain ⟨above, sorted⟩ := List.pairwise_cons.mp ascending
    rcases List.mem_cons.mp member with here | later
    · subst here
      simp
    · have different : key ≠ entry.1 := by
        intro same
        have below := above _ later
        rw [same] at below
        exact Std.Irrefl.irrefl _ below
      rw [List.lookup_cons, beq_eq_false_iff_ne.mpr different]
      exact ih sorted later

theorem Ascending.mem_keys_iff {map : OrderedMap κ α} (ascending : map.Ascending) {key : κ} :
    key ∈ map.keys ↔ (map.find? key).isSome = true := by
  rw [Option.isSome_iff_exists]
  simp [← ascending.mem_entries_iff, keys]

/-- Two maps with the same keys list them alike, whatever values they hold, as there is one
ascending order. -/
theorem Ascending.keys_ext {β : Type} {first : OrderedMap κ α} {second : OrderedMap κ β}
    (ascending : first.Ascending) (alsoAscending : second.Ascending)
    (same : ∀ key, (first.find? key).isSome = (second.find? key).isSome) :
    first.keys = second.keys := by
  have members (key : κ) : key ∈ first.keys ↔ key ∈ second.keys := by
    rw [ascending.mem_keys_iff, alsoAscending.mem_keys_iff, same]
  have permuted := (List.perm_ext_iff_of_nodup ascending.keys_nodup
    alsoAscending.keys_nodup).mpr members
  refine List.Perm.eq_of_pairwise ?_ ascending.keys_ascending alsoAscending.keys_ascending permuted
  intro one other _ _ below above
  exact (Std.Irrefl.irrefl _ (IsTrans.trans _ _ _ below above)).elim

/-- Only what is found under the keys counts. -/
theorem Ascending.ext {first second : OrderedMap κ α} (ascending : first.Ascending)
    (alsoAscending : second.Ascending) (same : ∀ key, first.find? key = second.find? key) :
    first = second := by
  have distinct {map : OrderedMap κ α} (ascending : map.Ascending) : map.entries.Nodup := by
    refine List.Pairwise.imp ?_ ascending
    rintro entry _ below rfl
    exact Std.Irrefl.irrefl _ below
  have members (entry : κ × α) : entry ∈ first.entries ↔ entry ∈ second.entries := by
    rw [ascending.mem_entries_iff, alsoAscending.mem_entries_iff, same]
  have permuted := (List.perm_ext_iff_of_nodup (distinct ascending)
    (distinct alsoAscending)).mpr members
  have equal : first.entries = second.entries := by
    refine List.Perm.eq_of_pairwise ?_ ascending alsoAscending permuted
    intro one other _ _ below above
    exact (Std.Irrefl.irrefl _ (IsTrans.trans _ _ _ below above)).elim
  cases first
  cases second
  exact congrArg OrderedMap.mk equal

/-- A sum over the entries loses the summand of the key erased, which is nothing where the key was
missing. -/
theorem Ascending.sum_erase {map : OrderedMap κ α} (ascending : map.Ascending)
    (weigh : κ × α → Nat) (key : κ) :
    ((map.erase key).entries.map weigh).sum
        + ((map.find? key).elim 0 fun old => weigh (key, old)) =
      (map.entries.map weigh).sum := by
  unfold Ascending at ascending
  unfold OrderedMap.erase find?
  generalize map.entries = entries at *
  induction entries with
  | nil => simp
  | cons first rest ih =>
    obtain ⟨k, v⟩ := first
    obtain ⟨above, sorted⟩ := List.pairwise_cons.mp ascending
    by_cases same : k = key
    · subst same
      have kept : rest.filter (fun entry => decide (entry.1 ≠ k)) = rest := by
        refine List.filter_eq_self.mpr fun entry later => decide_eq_true fun equal => ?_
        have below := above entry later
        rw [equal] at below
        exact Std.Irrefl.irrefl _ below
      simp only [List.filter_cons, ne_eq, not_true_eq_false, decide_false, Bool.false_eq_true,
        if_false, List.lookup_cons_self, Option.elim_some, List.map_cons, List.sum_cons]
      simp only [ne_eq] at kept
      rw [kept]
      omega
    · have tail := ih sorted
      rw [List.lookup_cons, beq_eq_false_iff_ne.mpr (Ne.symm same)]
      simp only [List.filter_cons, ne_eq, same, not_false_eq_true, decide_true, if_true,
        List.map_cons, List.sum_cons] at tail ⊢
      omega

variable [DecidableLT κ]

theorem Ascending.insert {map : OrderedMap κ α} (ascending : map.Ascending) (key : κ) (value : α) :
    (map.insert key value).Ascending := by
  unfold Ascending OrderedMap.insert at *
  generalize map.entries = entries at *
  induction entries with
  | nil => simp [setEntry]
  | cons first rest ih =>
    obtain ⟨k, v⟩ := first
    obtain ⟨above, sorted⟩ := List.pairwise_cons.mp ascending
    simp only [setEntry]
    split
    · next below =>
      refine List.pairwise_cons.mpr ⟨?_, ascending⟩
      intro entry member
      rcases List.mem_cons.mp member with here | later
      · rw [here]
        exact below
      · exact IsTrans.trans _ _ _ below (above entry later)
    · next notBelow =>
      split
      · next same =>
        subst same
        exact List.pairwise_cons.mpr ⟨above, sorted⟩
      · next different =>
        refine List.pairwise_cons.mpr ⟨?_, ih sorted⟩
        intro entry member
        rcases mem_setEntry member with new | old
        · rw [new]
          exact Decidable.byContradiction fun notAbove =>
            different (Std.Trichotomous.trichotomous _ _ notBelow notAbove)
        · exact above entry old

/-- A key above all others comes last. -/
theorem setEntry_last {key : κ} (value : α) {entries : List (κ × α)}
    (above : ∀ entry ∈ entries, entry.1 < key) :
    setEntry key value entries = entries ++ [(key, value)] := by
  induction entries with
  | nil => rfl
  | cons first rest ih =>
    obtain ⟨k, v⟩ := first
    have below : k < key := above (k, v) List.mem_cons_self
    have different : key ≠ k := fun same => Std.Irrefl.irrefl _ (same ▸ below)
    have notAbove : ¬key < k := fun under =>
      Std.Irrefl.irrefl _ (IsTrans.trans _ _ _ under below)
    simp only [setEntry, if_neg notAbove, if_neg different, List.cons_append]
    rw [ih fun entry member => above entry (List.mem_cons_of_mem _ member)]

/-- A sum over all entries changes with an insertion by what the new entry weighs and what the
replaced one, if there was one, weighed. -/
theorem Ascending.sum_insert {map : OrderedMap κ α} (ascending : map.Ascending)
    (weigh : κ × α → Nat) (key : κ) (value : α) :
    ((map.insert key value).entries.map weigh).sum
        + ((map.find? key).elim 0 fun old => weigh (key, old)) =
      (map.entries.map weigh).sum + weigh (key, value) := by
  unfold Ascending at ascending
  unfold OrderedMap.insert find?
  generalize map.entries = entries at *
  induction entries with
  | nil => simp [setEntry]
  | cons first rest ih =>
    obtain ⟨k, v⟩ := first
    obtain ⟨above, sorted⟩ := List.pairwise_cons.mp ascending
    simp only [setEntry]
    split
    · next below =>
      have absent : ((k, v) :: rest).lookup key = none := by
        refine List.lookup_eq_none_iff.mpr ?_
        intro entry member
        refine bne_iff_ne.mpr fun same => ?_
        have after : key < entry.1 := by
          rcases List.mem_cons.mp member with here | later
          · rw [here]
            exact below
          · exact IsTrans.trans _ _ _ below (above entry later)
        rw [same] at after
        exact Std.Irrefl.irrefl _ after
      rw [absent]
      simp only [List.map_cons, List.sum_cons, Option.elim_none]
      omega
    · split
      · next same =>
        subst same
        simp only [List.map_cons, List.sum_cons, List.lookup_cons_self, Option.elim_some]
        omega
      · next different =>
        have tail := ih sorted
        rw [List.lookup_cons, beq_eq_false_iff_ne.mpr different]
        simp only [List.map_cons, List.sum_cons] at tail ⊢
        omega

end OrderedMap

end DaemonMesh
