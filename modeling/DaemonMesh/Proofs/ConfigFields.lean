import DaemonMesh.Config.Store
import DaemonMesh.Proofs.LoneSurrogates
import Mathlib.Tactic.Common

namespace DaemonMesh

namespace Json

/-- The values that an object gives under a name, however its keys are escaped. -/
def given (members : List (List StringPiece × Json)) (name : String) : List Json :=
  (members.filter fun member => pieceText? member.1 = some name).map Prod.snd

variable {members : List (List StringPiece × Json)}

/-- Names without lone surrogates can all be read, and then the values under a name are those that
were given for it. -/
theorem namedMembers?_isSome (texts : ∀ member ∈ members, ¬LoneSurrogate member.1) :
    ∃ named, namedMembers? members = some named ∧
      ∀ name, valuesOf name named = given members name := by
  induction members with
  | nil => exact ⟨[], rfl, fun _ => rfl⟩
  | cons member rest ih =>
    obtain ⟨named, read, values⟩ := ih fun other later => texts other (List.mem_cons_of_mem _ later)
    obtain ⟨key, spelled⟩ := Option.ne_none_iff_exists'.mp
      (mt (pieceText?_eq_none_iff member.1).mp (texts member List.mem_cons_self))
    refine ⟨(key, member.2) :: named, ?_, fun name => ?_⟩
    · unfold namedMembers? at read ⊢
      rw [List.mapM_cons, read, spelled]
      rfl
    · have later := values name
      unfold valuesOf given at later ⊢
      rw [List.filter_cons, List.filter_cons]
      by_cases same : key = name
      · simp [same, spelled, later]
      · simp [same, spelled, later]

/-- A field is read if it is given at most once. -/
theorem field_read_iff {α : Type} {named : List (String × Json)} {name : String}
    {read : Option Json → Option α} {value : α} :
    (∃ field, field? named name = some field ∧ read field = some value) ↔
      valuesOf name named = [] ∧ read none = some value ∨
        ∃ json, valuesOf name named = [json] ∧ read (some json) = some value := by
  unfold field?
  match valuesOf name named with
  | [] | [json] | _ :: _ :: _ => simp

end Json

namespace RouterConfig

/-- The capacity that the members of an object ask for: a natural number of the machine's size that
is given once, or the default. -/
def AsksCapacity (members : List (List StringPiece × Json)) (capacity : UInt64) : Prop :=
  Json.given members "link_queue_capacity" = [] ∧ capacity.toNat = 256 ∨
    Json.given members "link_queue_capacity" = [.natural capacity.toNat]

/-- The filter that the members of an object ask for: a string that is given once, or the
default. -/
def AsksFilter (members : List (List StringPiece × Json)) (filter : String) : Prop :=
  Json.given members "log_filter" = [] ∧ filter = "busroute=info" ∨
    ∃ pieces, Json.given members "log_filter" = [.string pieces] ∧ pieceText? pieces = some filter

variable {members : List (List StringPiece × Json)}

/-- What a field for the capacity says; left out it says the default. -/
def capacityOf? : Option Json → Option UInt64
  | none => some default.queueCapacity
  | some value => UInt64.ofNat <$> value.naturalBelow? UInt64.size

def filterOf? : Option Json → Option String
  | none => some default.logFilter
  | some value => value.text?

/-- The fields are judged one after the other, each by itself. -/
theorem ofJson?_object {named : List (String × Json)}
    (read : Json.namedMembers? members = some named) :
    ofJson? (.object members) =
      (Json.field? named "link_queue_capacity").bind fun capacity =>
        (Json.field? named "log_filter").bind fun filter =>
          (capacityOf? capacity).bind fun queueCapacity =>
            (filterOf? filter).map fun logFilter => ⟨queueCapacity, logFilter⟩ := by
  have fields : (Json.object members).fields? fieldNames =
      (Json.field? named "link_queue_capacity").bind fun capacity =>
        (Json.field? named "log_filter").bind fun filter => some [capacity, filter] := by
    show (Json.namedMembers? members).bind _ = _
    rw [read]
    rfl
  unfold ofJson?
  rw [fields]
  cases Json.field? named "link_queue_capacity" with
  | none => rfl
  | some capacity =>
    cases Json.field? named "log_filter" with
    | none => rfl
    | some filter =>
      cases capacity <;> cases filter <;>
        simp only [capacityOf?, filterOf?, Option.bind_eq_bind, Option.bind_some,
          Option.map_eq_bind] <;> rfl

/-- A capacity that is given has to be a natural number that fits the machine word; nothing else is
taken for one. -/
theorem capacityOf?_some_iff {value : Json} {capacity : UInt64} :
    capacityOf? (some value) = some capacity ↔ value = .natural capacity.toNat := by
  unfold capacityOf? Json.naturalBelow?
  cases value with
  | natural number =>
    by_cases below : number < UInt64.size
    · have same : UInt64.ofNat number = capacity ↔ number = capacity.toNat := by
        rw [← UInt64.toNat_inj, UInt64.toNat_ofNat_of_lt' below]
      simpa [Json.natural?, below] using same
    · have other : number ≠ capacity.toNat := fun same => below (same ▸ capacity.toNat_lt)
      simpa [Json.natural?, below] using other
  | _ => simp [Json.natural?]

/-- A filter that is given has to be a string, and one that has a text. -/
theorem filterOf?_some_iff {value : Json} {filter : String} : filterOf? (some value) = some filter ↔
    ∃ pieces, value = .string pieces ∧ pieceText? pieces = some filter := by
  unfold filterOf?
  cases value <;> simp [Json.text?]

/-- Looking the capacity up under the names that were read comes to the same as looking at the
members themselves. -/
theorem asksCapacity_iff {named : List (String × Json)}
    (values : ∀ name, Json.valuesOf name named = Json.given members name) {capacity : UInt64} :
    (∃ field, Json.field? named "link_queue_capacity" = some field ∧
        capacityOf? field = some capacity) ↔ AsksCapacity members capacity := by
  have usual : capacityOf? none = some capacity ↔ capacity.toNat = 256 := by
    rw [capacityOf?, Option.some.injEq, ← UInt64.toNat_inj]
    exact eq_comm
  rw [Json.field_read_iff, values, usual]
  simp only [capacityOf?_some_iff, AsksCapacity, exists_eq_right]

/-- The same for the filter. -/
theorem asksFilter_iff {named : List (String × Json)}
    (values : ∀ name, Json.valuesOf name named = Json.given members name) {filter : String} :
    (∃ field, Json.field? named "log_filter" = some field ∧ filterOf? field = some filter) ↔
      AsksFilter members filter := by
  have usual : filterOf? none = some filter ↔ filter = "busroute=info" := by
    rw [filterOf?, Option.some.injEq]
    exact eq_comm
  rw [Json.field_read_iff, values, usual]
  simp only [filterOf?_some_iff, AsksFilter]
  constructor
  · rintro (left | ⟨_, given, pieces, rfl, spelled⟩)
    · exact Or.inl left
    · exact Or.inr ⟨pieces, given, spelled⟩
  · rintro (left | ⟨pieces, given, spelled⟩)
    · exact Or.inl left
    · exact Or.inr ⟨_, given, pieces, rfl, spelled⟩

/-- A document is read as a configuration just if it asks for both of its values, by giving a field
once or by leaving it out. -/
theorem ofJson?_eq_some_iff (texts : ∀ member ∈ members, ¬LoneSurrogate member.1)
    {config : RouterConfig} : ofJson? (.object members) = some config ↔
      AsksCapacity members config.queueCapacity ∧ AsksFilter members config.logFilter := by
  obtain ⟨named, read, values⟩ := Json.namedMembers?_isSome texts
  rw [ofJson?_object read, ← asksCapacity_iff values, ← asksFilter_iff values]
  simp only [Option.bind_eq_some_iff, Option.map_eq_some_iff]
  constructor
  · rintro ⟨capacity, ofCapacity, filter, ofFilter, _, readCapacity, _, readFilter, rfl⟩
    exact ⟨⟨capacity, ofCapacity, readCapacity⟩, ⟨filter, ofFilter, readFilter⟩⟩
  · rintro ⟨⟨capacity, ofCapacity, readCapacity⟩, ⟨filter, ofFilter, readFilter⟩⟩
    exact ⟨capacity, ofCapacity, filter, ofFilter, _, readCapacity, _, readFilter, rfl⟩

/-- Whether a member has a name that means something in a configuration. -/
def knows (member : List StringPiece × Json) : Bool :=
  fieldNames.any fun name => pieceText? member.1 = some name

/-- Leaving out members that nobody knows takes nothing from the fields. -/
theorem given_filter_knows (members : List (List StringPiece × Json)) {name : String}
    (known : name ∈ fieldNames) :
    Json.given (members.filter knows) name = Json.given members name := by
  unfold Json.given
  rw [List.filter_filter]
  refine congrArg (List.map Prod.snd) (List.filter_congr fun member _ => ?_)
  by_cases named : pieceText? member.1 = some name
  · have knows : knows member = true :=
      List.any_eq_true.mpr ⟨name, known, decide_eq_true named⟩
    rw [knows, Bool.and_true]
  · simp [named]

section Reordered

variable {members others : List (List StringPiece × Json)}
  (same : (others.filter knows).Perm (members.filter knows))
include same

/-- Documents with the same known members in another order give the same values for each field, up
to order. -/
theorem given_perm {name : String} (known : name ∈ fieldNames) :
    (Json.given others name).Perm (Json.given members name) := by
  rw [← given_filter_knows others known, ← given_filter_knows members known]
  exact (same.filter _).map _

/-- A field is left out of one such document just if it is left out of the other. -/
theorem given_nil_iff {name : String} (known : name ∈ fieldNames) :
    Json.given others name = [] ↔ Json.given members name = [] := by
  have given := given_perm same known
  constructor
  · intro absent
    rw [absent] at given
    exact List.nil_perm.mp given
  · intro absent
    rw [absent] at given
    exact List.perm_nil.mp given

/-- A field that is given once has nothing to be in another order with. -/
theorem given_single_iff {name : String} (known : name ∈ fieldNames) (value : Json) :
    Json.given others name = [value] ↔ Json.given members name = [value] := by
  have given := given_perm same known
  constructor
  · intro one
    rw [one] at given
    exact (List.singleton_perm.mp given).symm
  · intro one
    rw [one] at given
    exact List.perm_singleton.mp given

/-- Neither the order of the members nor any unknown member matters. -/
theorem ofJson?_reordered (texts : ∀ member ∈ members, ¬LoneSurrogate member.1)
    (otherTexts : ∀ member ∈ others, ¬LoneSurrogate member.1) :
    ofJson? (.object others) = ofJson? (.object members) := by
  have capacity : "link_queue_capacity" ∈ fieldNames := by decide
  have filter : "log_filter" ∈ fieldNames := by decide
  refine Option.ext fun config => ?_
  show ofJson? (.object others) = some config ↔ ofJson? (.object members) = some config
  rw [ofJson?_eq_some_iff texts, ofJson?_eq_some_iff otherTexts]
  simp only [AsksCapacity, AsksFilter, given_nil_iff same capacity, given_nil_iff same filter,
    given_single_iff same capacity, given_single_iff same filter]

end Reordered

end RouterConfig

end DaemonMesh
