import DaemonMesh.Config.Store
import DaemonMesh.Proofs.StoredFiles
import DaemonMesh.Proofs.WrittenDocuments
import Mathlib.Tactic.Common

namespace DaemonMesh

theorem Json.text?_reread (value : String) : (Json.text value).reread.text? = some value :=
  (pieceText?_reread _).trans (pieceText?_textPieces value)

/-- Members keep their names when they are written and read. -/
theorem Json.namedMembers?_reread (entries : List (String × Json)) :
    namedMembers? (rereadMembers (entries.map fun entry => (textPieces entry.1, entry.2))) =
      some (entries.map fun entry => (entry.1, entry.2.reread)) := by
  unfold namedMembers?
  induction entries with
  | nil => rfl
  | cons entry rest ih =>
    rw [List.map_cons, rereadMembers, List.mapM_cons, ih, pieceText?_reread, pieceText?_textPieces]
    rfl

namespace RouterConfig

variable (config : RouterConfig)

theorem fields?_toJson : config.toJson.reread.fields? fieldNames = some
    [some (.natural config.queueCapacity.toNat), some (Json.text config.logFilter).reread] := by
  show (Json.namedMembers? (Json.rereadMembers (List.map _ _))).bind _ = _
  rw [Json.namedMembers?_reread]
  rfl

theorem ofJson?_reread : ofJson? config.toJson.reread = some config := by
  have capacity :
      (Json.natural config.queueCapacity.toNat).naturalBelow? UInt64.size =
        some config.queueCapacity.toNat := if_pos config.queueCapacity.toNat_lt
  unfold ofJson?
  rw [fields?_toJson]
  show (UInt64.ofNat <$> Json.naturalBelow? _ _).bind
    (fun capacity => Option.bind (Json.text? _) _) = _
  rw [capacity, Json.text?_reread]
  show some (RouterConfig.mk (UInt64.ofNat config.queueCapacity.toNat) config.logFilter) = _
  rw [UInt64.ofNat_toNat]

theorem whole_toJson : config.toJson.Whole := ⟨trivial, trivial, trivial⟩

/-- What is written for a configuration is read as that configuration, whatever its values are. -/
theorem read?_written : read? config.written = some config := by
  unfold read? written
  rw [read?_indented config.whole_toJson]
  exact ofJson?_reread config

theorem capacityInBounds_iff : config.capacityInBounds = true ↔
    1 ≤ config.queueCapacity.toNat ∧ config.queueCapacity.toNat ≤ maxQueueCapacity := by
  simp [capacityInBounds, Nat.succ_le_iff]

theorem isBlankText_eq_false {text : String} :
    isBlankText text = false ↔ ∃ c ∈ text.toList, isBlank c = false := by
  simp [isBlankText]

theorem validate_ok_iff : config.validate = .ok () ↔
    (1 ≤ config.queueCapacity.toNat ∧ config.queueCapacity.toNat ≤ maxQueueCapacity) ∧
      ∃ c ∈ config.logFilter.toList, isBlank c = false := by
  rw [← capacityInBounds_iff, ← isBlankText_eq_false]
  unfold validate
  cases config.capacityInBounds <;> cases isBlankText config.logFilter <;> simp

/-- A configuration is refused for its capacity if that is out of bounds, whatever its filter is,
and else for its filter. -/
theorem validate_error {error : ConfigError} (refused : config.validate = .error error) :
    error = if 1 ≤ config.queueCapacity.toNat ∧ config.queueCapacity.toNat ≤ maxQueueCapacity then
        .invalidValue "log_filter" "must not be empty"
      else .invalidValue "link_queue_capacity" (toString config.queueCapacity.toNat ++
        " is outside 1..=" ++ toString maxQueueCapacity) := by
  have bounds := config.capacityInBounds_iff
  unfold validate at refused
  cases inside : config.capacityInBounds with
  | false =>
    rw [inside] at refused
    rw [if_neg fun both => Bool.false_ne_true (inside.symm.trans (bounds.mpr both))]
    exact (Except.error.inj refused).symm
  | true =>
    rw [inside] at refused
    rw [if_pos (bounds.mp inside)]
    split at refused
    · next outside => cases outside
    · split at refused
      · exact (Except.error.inj refused).symm
      · cases refused

theorem validate_cases : config.validate = .ok () ∨ ∃ field reason,
      config.validate = .error (.invalidValue field reason) := by
  unfold validate
  split
  · exact Or.inr ⟨_, _, rfl⟩
  · split
    · exact Or.inr ⟨_, _, rfl⟩
    · exact Or.inl rfl

theorem validate_invalid_iff {field : String} :
    (∃ reason, config.validate = .error (.invalidValue field reason)) ↔
      field = "link_queue_capacity" ∧
          ¬(1 ≤ config.queueCapacity.toNat ∧ config.queueCapacity.toNat ≤ maxQueueCapacity) ∨
        field = "log_filter" ∧
          (1 ≤ config.queueCapacity.toNat ∧ config.queueCapacity.toNat ≤ maxQueueCapacity) ∧
            ∀ c ∈ config.logFilter.toList, isBlank c = true := by
  constructor
  · rintro ⟨reason, refused⟩
    have named := config.validate_error refused
    split at named
    · next inside =>
      cases named
      refine Or.inr ⟨rfl, inside, fun c among => ?_⟩
      by_contra seen
      have usable := config.validate_ok_iff.mpr ⟨inside, c, among, Bool.eq_false_iff.mpr seen⟩
      cases usable.symm.trans refused
    · next outside =>
      cases named
      exact Or.inl ⟨rfl, outside⟩
  · intro wrong
    have unusable : config.validate ≠ .ok () := by
      intro usable
      obtain ⟨inside, c, among, seen⟩ := config.validate_ok_iff.mp usable
      rcases wrong with ⟨_, outside⟩ | ⟨_, _, blank⟩
      · exact outside inside
      · exact absurd (seen.symm.trans (blank c among)) (by decide)
    obtain ⟨other, reason, refused⟩ := config.validate_cases.resolve_left unusable
    have named := config.validate_error refused
    rcases wrong with ⟨rfl, outside⟩ | ⟨rfl, inside, _⟩
    · rw [if_neg outside] at named
      exact ⟨_, refused.trans (congrArg Except.error named)⟩
    · rw [if_pos inside] at named
      exact ⟨_, refused.trans (congrArg Except.error named)⟩

/-- A configuration that was written is checked when it is read, and nothing else is. -/
theorem load_written : load config.written = (fun _ => config) <$> config.validate := by
  unfold load
  rw [read?_written]

/-- A stored configuration is read back if it can be used, and else complained about. -/
theorem loadFile_save {tree : FileTree} {path : String} (writable : tree.Writable path) :
    ∃ stored, save tree path config = .ok stored ∧
      loadFile stored path = match config.validate with
        | .ok () => .ok config
        | .error error => .error (.config error) := by
  obtain ⟨stored, placed, read⟩ := writable.read_place config.written.toUTF8
  refine ⟨stored, ?_, ?_⟩
  · unfold save
    rw [placed]
  · have decoded : String.fromUTF8? config.written.toUTF8 = some config.written :=
      dif_pos config.written.isValidUTF8
    unfold loadFile
    rw [read]
    dsimp only
    rw [decoded]
    dsimp only
    rw [load_written]
    cases config.validate <;> rfl

/-- Whatever a file holds, what is read from it can be used. -/
theorem validate_of_loadFile {tree : FileTree} {path : String} {config : RouterConfig}
    (loaded : loadFile tree path = .ok config) : config.validate = .ok () := by
  unfold loadFile at loaded
  split at loaded
  · cases loaded
  · split at loaded
    · cases loaded
    · split at loaded
      · cases loaded
      · next found read =>
        obtain rfl := Except.ok.inj loaded
        unfold load at read
        split at read
        · cases read
        · next other _ =>
          cases checked : other.validate with
          | error error =>
            rw [checked] at read
            cases read
          | ok =>
            rw [checked] at read
            rw [← Except.ok.inj read]
            exact checked

end RouterConfig

end DaemonMesh
