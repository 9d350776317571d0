import DaemonMesh.Proofs.ConfigFields
import DaemonMesh.Proofs.StoredConfigs
import Mathlib.Algebra.Group.Nat.Defs

namespace DaemonMesh

/-- A file that holds an object with these members, in which no key and no filter has half of a
surrogate pair alone. -/
structure FileTree.HoldsObject (tree : FileTree) (path : String)
    (members : List (List StringPiece × Json)) : Prop where
  held : ∃ text : String, tree.read path = .ok text.toUTF8 ∧
    Spelled (Json.object members).tokens text.toList
  keys : ∀ member ∈ members, ¬LoneSurrogate member.1
  filters : ∀ pieces, .string pieces ∈ Json.given members "log_filter" → ¬LoneSurrogate pieces

namespace FileTree.HoldsObject

open RouterConfig

variable {tree : FileTree} {path : String} {members : List (List StringPiece × Json)}

/-- Once the file is known to hold an object, only the object decides what comes of loading it. -/
theorem loadFile_eq (holds : tree.HoldsObject path members) :
    loadFile tree path = match ofJson? (.object members) with
      | none => .error (.config (.serializationFailed "the text is no configuration"))
      | some config => match config.validate with
        | .ok () => .ok config
        | .error error => .error (.config error) := by
  obtain ⟨text, content, spelled⟩ := holds.held
  have decoded : String.fromUTF8? text.toUTF8 = some text := dif_pos text.isValidUTF8
  have read : read? text = ofJson? (.object members) := by
    unfold read?
    rw [Json.read?_eq_some_iff.mpr spelled]
    rfl
  unfold loadFile load
  simp only [content, decoded, read]
  cases ofJson? (.object members) with
  | none => rfl
  | some config =>
    dsimp only
    cases config.validate <;> rfl

/-- A file is loaded just if its object is a configuration that passes its check. -/
theorem loadFile_ok_iff (holds : tree.HoldsObject path members) {config : RouterConfig} :
    loadFile tree path = .ok config ↔
      ofJson? (.object members) = some config ∧ config.validate = .ok () := by
  rw [holds.loadFile_eq]
  cases ofJson? (.object members) with
  | none => simp
  | some read =>
    rcases read.validate_cases with usable | ⟨field, reason, refused⟩
    · simp only [usable, Except.ok.injEq, Option.some.injEq]
      constructor
      · rintro rfl
        exact ⟨rfl, usable⟩
      · exact And.left
    · simp only [refused, reduceCtorEq, Option.some.injEq, false_iff]
      rintro ⟨rfl, usable⟩
      cases usable.symm.trans refused

/-- A bad value is complained about only in an object that is a configuration otherwise. -/
theorem loadFile_invalid_iff (holds : tree.HoldsObject path members) {field reason : String} :
    loadFile tree path = .error (.config (.invalidValue field reason)) ↔
      ∃ config, ofJson? (.object members) = some config ∧
        config.validate = .error (.invalidValue field reason) := by
  rw [holds.loadFile_eq]
  cases ofJson? (.object members) with
  | none => simp
  | some read => cases checked : read.validate <;> simp [checked]

/-- The text is called no configuration just if the object is none. -/
theorem loadFile_failed_iff (holds : tree.HoldsObject path members) :
    (∃ reason, loadFile tree path = .error (.config (.serializationFailed reason))) ↔
      ofJson? (.object members) = none := by
  rw [holds.loadFile_eq]
  cases ofJson? (.object members) with
  | none => simp
  | some read =>
    rcases read.validate_cases with usable | ⟨field, reason, refused⟩
    · simp [usable]
    · simp [refused]

/-- Both values can be read just when each is given at most once and has its type. -/
theorem ofJson?_eq_none_iff (holds : tree.HoldsObject path members) :
    ofJson? (.object members) = none ↔
      ¬((Json.given members "link_queue_capacity" = [] ∨
          ∃ number < 2 ^ 64, Json.given members "link_queue_capacity" = [.natural number]) ∧
        (Json.given members "log_filter" = [] ∨
          ∃ pieces, Json.given members "log_filter" = [.string pieces])) := by
  have capacity : (∃ capacity, AsksCapacity members capacity) ↔
      Json.given members "link_queue_capacity" = [] ∨
        ∃ number < 2 ^ 64, Json.given members "link_queue_capacity" = [.natural number] := by
    constructor
    · rintro ⟨capacity, ⟨absent, _⟩ | given⟩
      · exact Or.inl absent
      · exact Or.inr ⟨capacity.toNat, capacity.toNat_lt, given⟩
    · rintro (absent | ⟨number, fits, given⟩)
      · exact ⟨256, Or.inl ⟨absent, rfl⟩⟩
      · refine ⟨UInt64.ofNat number, Or.inr ?_⟩
        rw [UInt64.toNat_ofNat_of_lt' fits]
        exact given
  have filter : (∃ filter, AsksFilter members filter) ↔
      Json.given members "log_filter" = [] ∨
        ∃ pieces, Json.given members "log_filter" = [.string pieces] := by
    constructor
    · rintro ⟨filter, ⟨absent, _⟩ | ⟨pieces, given, _⟩⟩
      · exact Or.inl absent
      · exact Or.inr ⟨pieces, given⟩
    · rintro (absent | ⟨pieces, given⟩)
      · exact ⟨_, Or.inl ⟨absent, rfl⟩⟩
      · have whole := holds.filters pieces (by rw [given]; exact List.mem_singleton_self _)
        obtain ⟨filter, spelled⟩ :=
          Option.ne_none_iff_exists'.mp (mt (pieceText?_eq_none_iff pieces).mp whole)
        exact ⟨filter, Or.inr ⟨pieces, given, spelled⟩⟩
  rw [← capacity, ← filter, Option.eq_none_iff_forall_ne_some]
  constructor
  · rintro nothing ⟨⟨capacity, asksCapacity⟩, filter, asksFilter⟩
    exact nothing ⟨capacity, filter⟩
      ((ofJson?_eq_some_iff holds.keys).mpr ⟨asksCapacity, asksFilter⟩)
  · rintro nothing config read
    obtain ⟨asksCapacity, asksFilter⟩ := (ofJson?_eq_some_iff holds.keys).mp read
    exact nothing ⟨⟨_, asksCapacity⟩, _, asksFilter⟩

end FileTree.HoldsObject

open RouterConfig in
/-- A configuration file is accepted just when its object names each field at most once, with a
value of its type that can be used; everything else in it is passed over. -/
theorem config_file_format {tree : FileTree} {path : String}
    {members : List (List StringPiece × Json)} (holds : tree.HoldsObject path members) :
    (∀ config, loadFile tree path = .ok config ↔
      AsksCapacity members config.queueCapacity ∧ AsksFilter members config.logFilter ∧
        (1 ≤ config.queueCapacity.toNat ∧ config.queueCapacity.toNat ≤ 2 ^ 20) ∧
          ∃ c ∈ config.logFilter.toList, isBlank c = false) ∧
      (∀ field, (∃ reason, loadFile tree path = .error (.config (.invalidValue field reason))) ↔
        ∃ capacity filter, AsksCapacity members capacity ∧ AsksFilter members filter ∧
          (field = "link_queue_capacity" ∧ ¬(1 ≤ capacity.toNat ∧ capacity.toNat ≤ 2 ^ 20) ∨
            field = "log_filter" ∧ (1 ≤ capacity.toNat ∧ capacity.toNat ≤ 2 ^ 20) ∧
              ∀ c ∈ filter.toList, isBlank c = true)) ∧
      ((∃ reason, loadFile tree path = .error (.config (.serializationFailed reason))) ↔
        ¬((Json.given members "link_queue_capacity" = [] ∨
            ∃ number < 2 ^ 64, Json.given members "link_queue_capacity" = [.natural number]) ∧
          (Json.given members "log_filter" = [] ∨
            ∃ pieces, Json.given members "log_filter" = [.string pieces]))) ∧
      ∀ otherTree otherPath others, FileTree.HoldsObject otherTree otherPath others →
        (others.filter knows).Perm (members.filter knows) →
        (∀ config, loadFile otherTree otherPath = .ok config ↔ loadFile tree path = .ok config) ∧
          (∀ field reason,
            loadFile otherTree otherPath = .error (.config (.invalidValue field reason)) ↔
              loadFile tree path = .error (.config (.invalidValue field reason))) ∧
          ((∃ reason,
            loadFile otherTree otherPath = .error (.config (.serializationFailed reason))) ↔
              ∃ reason, loadFile tree path = .error (.config (.serializationFailed reason))) := by
  refine ⟨fun config => ?_, fun field => ?_, ?_, fun otherTree otherPath others also same => ?_⟩
  · rw [holds.loadFile_ok_iff, ofJson?_eq_some_iff holds.keys, config.validate_ok_iff, and_assoc]
    rfl
  · constructor
    · rintro ⟨reason, outcome⟩
      obtain ⟨config, read, refused⟩ := holds.loadFile_invalid_iff.mp outcome
      obtain ⟨asksCapacity, asksFilter⟩ := (ofJson?_eq_some_iff holds.keys).mp read
      exact ⟨_, _, asksCapacity, asksFilter, config.validate_invalid_iff.mp ⟨reason, refused⟩⟩
    · rintro ⟨capacity, filter, asksCapacity, asksFilter, wrong⟩
      have read := (@ofJson?_eq_some_iff _ holds.keys ⟨capacity, filter⟩).mpr
        ⟨asksCapacity, asksFilter⟩
      obtain ⟨reason, refused⟩ := (RouterConfig.validate_invalid_iff ⟨capacity, filter⟩).mpr wrong
      exact ⟨reason, holds.loadFile_invalid_iff.mpr ⟨_, read, refused⟩⟩
  · rw [holds.loadFile_failed_iff, holds.ofJson?_eq_none_iff]
  · -- The fields are read by name, so all that is said above is the same for both files.
    have read := ofJson?_reordered same holds.keys also.keys
    refine ⟨fun config => ?_, fun field reason => ?_, ?_⟩
    · rw [also.loadFile_ok_iff, holds.loadFile_ok_iff, read]
    · rw [also.loadFile_invalid_iff, holds.loadFile_invalid_iff, read]
    · rw [also.loadFile_failed_iff, holds.loadFile_failed_iff, read]

/-- A capacity under an escaped key, between members that mean nothing. -/
def spacedText : String := "\x7b \"a\": [\x7b\x7d, -1.50], \"link\\u005fqueue_capacity\": 8 \x7d"

def spacedMembers : List (List StringPiece × Json) :=
  [(textPieces "a", .array [.object [], .number "-1.50"]),
    (textPieces "link" ++ .unit 0x5f :: textPieces "queue_capacity", .natural 8)]

/-- Blanks around the tokens make no difference, and here they stand nearly everywhere. -/
theorem spelled_spacedText : Spelled (Json.object spacedMembers).tokens spacedText.toList :=
  Json.read?_eq_some_iff.mp rfl

theorem config_file_format_spaced : ∃ tree : FileTree, tree.HoldsObject "c" spacedMembers ∧
    RouterConfig.loadFile tree "c" = .ok ⟨8, "busroute=info"⟩ := by
  obtain ⟨tree, _, read⟩ := writable_bareName.read_place spacedText.toUTF8
  have whole : ∀ member ∈ spacedMembers, pieceText? member.1 ≠ none := by decide
  have capacity : Json.given spacedMembers "link_queue_capacity" = [.natural 8] := rfl
  have filter : Json.given spacedMembers "log_filter" = [] := rfl
  have holds : tree.HoldsObject "c" spacedMembers := by
    refine ⟨⟨spacedText, read, spelled_spacedText⟩, fun member among lone => ?_, ?_⟩
    · exact whole member among ((pieceText?_eq_none_iff member.1).mpr lone)
    · rw [filter]
      exact nofun
  exact ⟨tree, holds, ((config_file_format holds).1 ⟨8, "busroute=info"⟩).mpr
    ⟨Or.inr capacity, Or.inl ⟨filter, rfl⟩, by decide, 'b', by decide, rfl⟩⟩

end DaemonMesh
