import DaemonMesh.Config.FileTree

namespace DaemonMesh

namespace FileTree

variable {tree after : FileTree} {path : String} {place target : List String} {node : FileNode}
  {content : ByteArray}

theorem lookup_filter_ne {nodes : List (List String × FileNode)} (different : place ≠ target) :
    (nodes.filter fun entry => entry.1 ≠ target).lookup place = nodes.lookup place := by
  induction nodes with
  | nil => rfl
  | cons entry rest ih =>
    obtain ⟨key, node⟩ := entry
    by_cases here : key = target
    · have other : (place == key) = false := beq_false_of_ne fun same => different (same.trans here)
      rw [List.filter_cons_of_neg (by simp [here]), ih, List.lookup_cons, other]
    · rw [List.filter_cons_of_pos (by simp [here]), List.lookup_cons, List.lookup_cons, ih]

theorem node?_set_self (below : target ≠ []) (node : FileNode) :
    (tree.set target node).node? target = some node := by
  unfold node? set
  rw [if_neg below, List.lookup_cons_self]

theorem node?_set_ne (different : place ≠ target) (node : FileNode) :
    (tree.set target node).node? place = tree.node? place := by
  unfold node? set
  split
  · rfl
  · rw [List.lookup_cons, beq_false_of_ne different]
    exact lookup_filter_ne different

/-- A way leads over directories, so it does not lead over a place where there is none. -/
theorem walkStep_set {step : String} {next : List String} (node : FileNode)
    (free : tree.node? target ≠ some .directory) (walked : tree.walkStep place step = .ok next) :
    (tree.set target node).walkStep place step = .ok next := by
  have elsewhere : place ≠ target := by
    rintro rfl
    unfold walkStep at walked
    split at walked
    · cases walked
    · cases walked
    · next directory => exact free directory
  unfold walkStep at walked ⊢
  rw [node?_set_ne elsewhere]
  exact walked

theorem foldlM_walkStep_set {steps : List String} {last : List String} (node : FileNode)
    (free : tree.node? target ≠ some .directory)
    (walked : steps.foldlM tree.walkStep place = .ok last) :
    steps.foldlM (tree.set target node).walkStep place = .ok last := by
  induction steps generalizing place with
  | nil => exact walked
  | cons step rest ih =>
    rw [List.foldlM_cons] at walked ⊢
    cases first : tree.walkStep place step with
    | error error =>
      rw [first] at walked
      cases walked
    | ok next =>
      rw [first] at walked
      rw [walkStep_set node free first]
      exact ih walked

theorem follow_set (node : FileNode) (free : tree.node? target ≠ some .directory)
    (followed : tree.follow path = .ok place) : (tree.set target node).follow path = .ok place := by
  unfold follow at followed ⊢
  split at followed
  · cases followed
  · next short =>
    rw [if_neg short]
    exact foldlM_walkStep_set node free followed

/-- Whether a path may lead to a file depends on where it leads, not on what is written. -/
theorem write_ok (written : tree.write path content = .ok after) :
    ∃ place, tree.follow path = .ok place ∧ tree.node? place ≠ some .directory ∧
      ∀ other, tree.write path other = .ok (tree.set place (.file other)) := by
  unfold write at written
  split at written
  iterate 4 cases written
  next ended =>
  cases followed : tree.follow path with
  | error error =>
    rw [followed] at written
    cases written
  | ok place =>
    rw [followed] at written
    dsimp only [bind, Except.bind] at written
    split at written
    · cases written
    · next free =>
      refine ⟨place, rfl, free, fun other => ?_⟩
      simp only [write, ended, followed, bind, Except.bind]

/-- A file is read back from where it was written to. -/
theorem read_set (followed : tree.follow path = .ok place)
    (free : tree.node? place ≠ some .directory) (content : ByteArray) :
    (tree.set place (.file content)).read path = .ok content := by
  have below : place ≠ [] := fun root => free (by rw [root]; rfl)
  unfold read
  rw [follow_set _ free followed]
  dsimp only [bind, Except.bind]
  rw [node?_set_self below]

/-- Something can be written there. -/
def Writable (tree : FileTree) (path : String) : Prop :=
  ∃ content after, tree.place path content = .ok after

/-- Where something can be written, anything can, and it is read back. -/
theorem Writable.read_place (writable : tree.Writable path) (content : ByteArray) :
    ∃ after, tree.place path content = .ok after ∧ after.read path = .ok content := by
  obtain ⟨old, stored, placed⟩ := writable
  unfold place at placed ⊢
  cases made : tree.makeDirectories (steps path).dropLast with
  | error error =>
    rw [made] at placed
    cases placed
  | ok ready =>
    rw [made] at placed
    obtain ⟨target, followed, free, write⟩ := write_ok placed
    exact ⟨_, write content, read_set followed free content⟩

end FileTree

/-- A bare name leads into the workplace. -/
theorem writable_bareName : FileTree.empty.Writable "c" := by
  have steps : FileTree.steps "c" = ["c"] := by
    unfold FileTree.steps String.splitOn
    rw [String.splitOnAux, String.splitOnAux]
    rfl
  refine ⟨.empty, FileTree.empty.set ["", "c"] (.file .empty), ?_⟩
  unfold FileTree.place FileTree.makeDirectories FileTree.write FileTree.follow
  rw [steps]
  rfl

end DaemonMesh
