namespace DaemonMesh

/-- A map whose entries stand in ascending order of their keys, so that walking
the entries is walking the keys in order. -/
structure OrderedMap (κ α : Type) where
  entries : List (κ × α)

namespace OrderedMap

variable {κ α : Type}

def empty : OrderedMap κ α := ⟨[]⟩

def find? [DecidableEq κ] (map : OrderedMap κ α) (key : κ) : Option α :=
  map.entries.lookup key

def keys (map : OrderedMap κ α) : List κ := map.entries.map Prod.fst

def values (map : OrderedMap κ α) : List α := map.entries.map Prod.snd

/-- Sets one entry in a single pass: an equal key is replaced where it stands. -/
def setEntry [LT κ] [DecidableLT κ] [DecidableEq κ] (key : κ) (value : α) :
    List (κ × α) → List (κ × α)
  | [] => [(key, value)]
  | (k, v) :: rest =>
    if key < k then (key, value) :: (k, v) :: rest
    else if key = k then (key, value) :: rest
    else (k, v) :: setEntry key value rest

def insert [LT κ] [DecidableLT κ] [DecidableEq κ] (map : OrderedMap κ α) (key : κ) (value : α) :
    OrderedMap κ α :=
  ⟨setEntry key value map.entries⟩

def erase [DecidableEq κ] (map : OrderedMap κ α) (key : κ) : OrderedMap κ α :=
  ⟨map.entries.filter fun entry => entry.1 ≠ key⟩

/-- The first key, in order, that leads to a value with the property. -/
def keyWhere? (map : OrderedMap κ α) (holds : α → Bool) : Option κ :=
  (map.entries.find? fun entry => holds entry.2).map Prod.fst

theorem lookup_setEntry_self [LT κ] [DecidableLT κ] [DecidableEq κ] (key : κ) (value : α)
    (entries : List (κ × α)) : (setEntry key value entries).lookup key = some value := by
  induction entries with
  | nil => simp [setEntry]
  | cons entry rest ih =>
    obtain ⟨k, v⟩ := entry
    simp only [setEntry]
    split
    · simp
    · split
      · simp
      · next different => simp [List.lookup_cons, beq_eq_false_iff_ne.mpr different, ih]

theorem lookup_setEntry_ne [LT κ] [DecidableLT κ] [DecidableEq κ] {key other : κ} (value : α)
    (different : other ≠ key) (entries : List (κ × α)) :
    (setEntry key value entries).lookup other = entries.lookup other := by
  induction entries with
  | nil => simp [setEntry, List.lookup_cons, beq_eq_false_iff_ne.mpr different]
  | cons entry rest ih =>
    obtain ⟨k, v⟩ := entry
    simp only [setEntry]
    split
    · simp [List.lookup_cons, beq_eq_false_iff_ne.mpr different]
    · split
      · next same => subst same; simp [List.lookup_cons, beq_eq_false_iff_ne.mpr different]
      · simp only [List.lookup_cons, ih]

@[simp] theorem find?_empty [DecidableEq κ] (key : κ) :
    (empty : OrderedMap κ α).find? key = none := rfl

@[simp]
theorem find?_insert_self [LT κ] [DecidableLT κ] [DecidableEq κ] (map : OrderedMap κ α) (key : κ)
    (value : α) : (map.insert key value).find? key = some value :=
  lookup_setEntry_self key value map.entries

@[simp] theorem find?_insert_ne [LT κ] [DecidableLT κ] [DecidableEq κ] (map : OrderedMap κ α)
    {key other : κ} (value : α) (different : other ≠ key) :
    (map.insert key value).find? other = map.find? other :=
  lookup_setEntry_ne value different map.entries

end OrderedMap

end DaemonMesh
