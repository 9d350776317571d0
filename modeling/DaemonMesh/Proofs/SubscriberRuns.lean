import DaemonMesh.Proofs.RegistryHistories
import Mathlib.Data.List.Induction
import Mathlib.Data.List.Nodup
import Mathlib.Data.List.Pairwise

namespace DaemonMesh

namespace Registry

/-- What is done with a registry. Whoever subscribes is given a handle, and a dispatch calls
subscribers one after the other, each of which finishes or crashes. -/
inductive Act
  | subscribe (subscriber handle : Nat)
  | unsubscribe (handle : Nat)
  | dispatch (event : RouteEvent) (called : List (Subscription × Completion))

/-- An act, with the registry that it finds. -/
structure Note where
  found : Registry
  act : Act

/-- Who is at it: somebody who may do anything, or a dispatch that has subscribers left to call. It
takes down whom it calls and how that ends. -/
inductive Turn
  | free
  | telling (event : RouteEvent) (waiting : List Subscription)
      (called : List (Subscription × Completion))

/-- Runs on a registry, with their acts in the order in which they begin. A subscriber that is
called may do anything, dispatches of its own among it, as long as it comes to an end. -/
inductive Runs : Turn → Registry → List Note → Registry → Prop
  | done (registry : Registry) : Runs .free registry [] registry
  | subscribe {registry last : Registry} {notes : List Note} (subscriber : Nat)
      (rest : Runs .free (registry.subscribe subscriber).2 notes last) :
      Runs .free registry
        (⟨registry, .subscribe subscriber (registry.subscribe subscriber).1⟩ :: notes) last
  | unsubscribe {registry last : Registry} {notes : List Note} (handle : Nat)
      (rest : Runs .free (registry.unsubscribe handle) notes last) :
      Runs .free registry (⟨registry, .unsubscribe handle⟩ :: notes) last
  | dispatch {registry middle last : Registry} {notes later : List Note}
      {called : List (Subscription × Completion)} {event : RouteEvent}
      (told : Runs (.telling event registry.subscriptions called) registry notes middle)
      (rest : Runs .free middle later last) :
      Runs .free registry (⟨registry, .dispatch event called⟩ :: (notes ++ later)) last
  | nobody (event : RouteEvent) (registry : Registry) :
      Runs (.telling event [] []) registry [] registry
  | call {registry middle last : Registry} {notes later : List Note} {event : RouteEvent}
      {waiting : List Subscription} {called : List (Subscription × Completion)}
      {entry : Subscription} (completion : Completion)
      (handled : Runs .free registry notes middle)
      (rest : Runs (.telling event waiting called) middle later last) :
      Runs (.telling event (entry :: waiting) ((entry, completion) :: called)) registry
        (notes ++ later) last

namespace Act

/-- The handle that is given out. -/
def given : Act → Option Nat
  | subscribe _ handle => some handle
  | _ => none

/-- What the act itself makes of a registry. What called subscribers do are acts of their own. -/
def after (registry : Registry) : Act → Registry
  | subscribe subscriber _ => (registry.subscribe subscriber).2
  | unsubscribe handle => registry.unsubscribe handle
  | dispatch _ _ => registry

end Act

/-- A subscription that was made and not taken back since. -/
def Stands (acts : List Act) (entry : Subscription) : Prop :=
  ∃ early late, acts = early ++ .subscribe entry.subscriber entry.handle :: late ∧
    .unsubscribe entry.handle ∉ late

/-- The registry that the next act finds, or that is left when there is none. -/
def ahead (last : Registry) : List Note → Registry
  | [] => last
  | note :: _ => note.found

/-- What holds of all runs that start without subscribers. -/
structure Lawful (notes : List Note) (last : Registry) : Prop where
  /-- Handles are given out in order, so none is given twice. -/
  given : (notes.map Note.act).filterMap Act.given = List.range last.nextHandle
  numbered : ∀ earlier later, notes = earlier ++ later → (ahead last later).Numbered
  stands : ∀ earlier later, notes = earlier ++ later → ∀ entry,
    entry ∈ (ahead last later).subscriptions ↔ Stands (earlier.map Note.act) entry
  /-- Unsubscribing takes away who was given the handle, once and for all, and nobody else. -/
  removed : ∀ earlier found handle later subscriber,
    notes = earlier ++ ⟨found, .unsubscribe handle⟩ :: later →
      .subscribe subscriber handle ∈ earlier.map Note.act →
        (ahead last later).subscriptions = found.subscriptions.erase ⟨handle, subscriber⟩ ∧
          ∀ between rest, later = between ++ rest →
            ∀ entry ∈ (ahead last rest).subscriptions, entry.handle ≠ handle
  ignored : ∀ earlier found handle later,
    notes = earlier ++ ⟨found, .unsubscribe handle⟩ :: later →
      (∀ subscriber, .subscribe subscriber handle ∉ earlier.map Note.act) →
        ahead last later = found
  /-- A dispatch calls those who are there when it begins, oldest first and each once, however the
  calls end and whatever they do. -/
  called : ∀ earlier found event called later,
    notes = earlier ++ ⟨found, .dispatch event called⟩ :: later →
      (called.map fun call => call.1.handle).Pairwise (· < ·) ∧
        ∀ entry, entry ∈ called.map Prod.fst ↔ Stands (earlier.map Note.act) entry

/-- Notes that fit together: an act finds what the one before has left, is given the next handle,
and calls those subscribed. -/
inductive Chronicle : Registry → List Note → Registry → Prop
  | done (registry : Registry) : Chronicle registry [] registry
  | next {registry last : Registry} {notes : List Note} {act : Act}
      (hands : ∀ handle, act.given = some handle → handle = registry.nextHandle)
      (calls : ∀ event called, act = .dispatch event called →
        called.map Prod.fst = registry.subscriptions)
      (rest : Chronicle (act.after registry) notes last) :
      Chronicle registry (⟨registry, act⟩ :: notes) last

variable {registry middle last : Registry} {notes earlier later : List Note}

theorem Chronicle.append (first : Chronicle registry notes middle)
    (second : Chronicle middle later last) : Chronicle registry (notes ++ later) last := by
  induction first with
  | done => exact second
  | next hands calls _ ih => exact .next hands calls (ih second)

theorem Runs.chronicle {turn : Turn} (run : Runs turn registry notes last) :
    Chronicle registry notes last ∧ ∀ event waiting called,
      turn = .telling event waiting called → called.map Prod.fst = waiting := by
  induction run with
  | done registry => exact ⟨.done registry, nofun⟩
  | subscribe subscriber _ ih =>
    exact ⟨.next (fun _ given => (Option.some.inj given).symm) nofun ih.1, nofun⟩
  | unsubscribe handle _ ih => exact ⟨.next nofun nofun ih.1, nofun⟩
  | @dispatch registry middle last notes later called event _ _ toldOf restOf =>
    refine ⟨.next nofun (fun other answers same => ?_) (toldOf.1.append restOf.1), nofun⟩
    obtain ⟨rfl, rfl⟩ := Act.dispatch.inj same
    exact toldOf.2 event registry.subscriptions called rfl
  | nobody event registry =>
    refine ⟨.done registry, fun other waiting called same => ?_⟩
    obtain ⟨_, rfl, rfl⟩ := Turn.telling.inj same
    rfl
  | call completion _ _ handledOf restOf =>
    refine ⟨handledOf.1.append restOf.1, fun other waiting called same => ?_⟩
    obtain ⟨_, rfl, rfl⟩ := Turn.telling.inj same
    exact congrArg (List.cons _) (restOf.2 _ _ _ rfl)

theorem Chronicle.begins (chronicle : Chronicle registry notes last) :
    ahead last notes = registry := by
  cases chronicle <;> rfl

/-- A chronicle can be taken apart anywhere, with the registry of that moment in between. -/
theorem Chronicle.split (chronicle : Chronicle registry (earlier ++ later) last) :
    Chronicle registry earlier (ahead last later) ∧
      Chronicle (ahead last later) later last := by
  induction earlier generalizing registry with
  | nil =>
    rw [List.nil_append] at chronicle
    rw [chronicle.begins]
    exact ⟨.done registry, chronicle⟩
  | cons note earlier ih =>
    cases chronicle with
    | next hands calls rest => exact ⟨.next hands calls (ih rest).1, (ih rest).2⟩

/-- An act in the middle of a chronicle finds what led up to it and leaves what comes after it. -/
theorem Chronicle.around {found : Registry} {act : Act}
    (chronicle : Chronicle registry (earlier ++ ⟨found, act⟩ :: later) last) :
    Chronicle registry earlier found ∧
      (∀ handle, act.given = some handle → handle = found.nextHandle) ∧
      (∀ event called, act = .dispatch event called → called.map Prod.fst = found.subscriptions) ∧
      Chronicle (act.after found) later last := by
  obtain ⟨before, final⟩ := chronicle.split
  cases final with
  | next hands calls rest => exact ⟨before, hands, calls, rest⟩

theorem Chronicle.evolves (chronicle : Chronicle registry notes last) : registry.Evolves last := by
  induction chronicle with
  | done => exact .start
  | @next registry last notes act _ _ _ ih =>
    refine Evolves.trans ?_ ih
    cases act with
    | subscribe subscriber handle => exact .subscribe .start subscriber
    | unsubscribe handle => exact .unsubscribe .start handle
    | dispatch => exact .start

theorem Chronicle.given (chronicle : Chronicle registry notes last) :
    (notes.map Note.act).filterMap Act.given =
      List.range' registry.nextHandle (last.nextHandle - registry.nextHandle) := by
  induction chronicle with
  | done => simp
  | @next registry last notes act hands _ rest ih =>
    have grown := rest.evolves.origin.1
    cases act with
    | subscribe subscriber handle =>
      have width : last.nextHandle - registry.nextHandle =
          last.nextHandle - (registry.nextHandle + 1) + 1 := by
        have below : registry.nextHandle < last.nextHandle := grown
        omega
      rw [width, List.range'_succ, ← hands handle rfl]
      rw [hands handle rfl]
      exact congrArg (List.cons _) ih
    | unsubscribe handle => exact ih
    | dispatch event called => exact ih

theorem stands_concat_iff {acts : List Act} {act : Act} {entry : Subscription} :
    Stands (acts ++ [act]) entry ↔ act = .subscribe entry.subscriber entry.handle ∨
      Stands acts entry ∧ act ≠ .unsubscribe entry.handle := by
  constructor
  · rintro ⟨early, late, whole, standing⟩
    rcases List.eq_nil_or_concat late with rfl | ⟨rest, final, rfl⟩
    · exact Or.inl (List.singleton_inj.mp (List.append_inj' whole rfl).2)
    · rw [List.concat_eq_append, ← List.cons_append, ← List.append_assoc] at whole
      obtain ⟨before, same⟩ := List.append_inj' whole rfl
      rw [List.concat_eq_append] at standing
      refine Or.inr ⟨⟨early, rest, before, fun member => ?_⟩, ?_⟩
      · exact standing (List.mem_append_left _ member)
      · rw [List.singleton_inj.mp same]
        rintro rfl
        exact standing (List.mem_append_right _ (List.mem_singleton_self _))
  · rintro (rfl | ⟨⟨early, late, rfl, standing⟩, different⟩)
    · exact ⟨acts, [], rfl, List.not_mem_nil⟩
    · refine ⟨early, late ++ [act], by simp, fun member => ?_⟩
      rcases List.mem_append.mp member with old | new
      · exact standing old
      · exact different (List.mem_singleton.mp new).symm

/-- Who is subscribed can be read off the acts. -/
theorem Chronicle.stands (chronicle : Chronicle empty notes last) (entry : Subscription) :
    entry ∈ last.subscriptions ↔ Stands (notes.map Note.act) entry := by
  induction notes using List.reverseRecOn generalizing last with
  | nil =>
    cases chronicle
    refine ⟨nofun, ?_⟩
    rintro ⟨early, late, whole, _⟩
    cases early <;> cases whole
  | append_singleton earlier note ih =>
    obtain ⟨found, act⟩ := note
    obtain ⟨before, hands, _, rest⟩ := chronicle.around
    cases rest
    rw [List.map_append, List.map_singleton, stands_concat_iff, ← ih before]
    cases act with
    | subscribe subscriber handle =>
      have handed := hands handle rfl
      show entry ∈ found.subscriptions ++ [⟨found.nextHandle, subscriber⟩] ↔ _
      rw [← handed, List.mem_append, List.mem_singleton, or_comm]
      refine or_congr ⟨fun same => ?_, fun same => ?_⟩ ⟨fun old => ⟨old, nofun⟩, And.left⟩
      · rw [same]
      · obtain ⟨rfl, rfl⟩ := Act.subscribe.inj same
        rfl
    | unsubscribe handle =>
      show entry ∈ found.subscriptions.filter (fun other => other.handle ≠ handle) ↔ _
      rw [List.mem_filter, decide_eq_true_eq]
      refine ⟨fun kept => Or.inr ⟨kept.1, fun same => ?_⟩, fun kept => ?_⟩
      · exact kept.2 (Act.unsubscribe.inj same).symm
      · obtain ⟨old, different⟩ := kept.resolve_left nofun
        exact ⟨old, fun same => different (congrArg Act.unsubscribe same.symm)⟩
    | dispatch event called =>
      exact ⟨fun old => Or.inr ⟨old, nofun⟩, fun kept => (kept.resolve_left nofun).1⟩

theorem Chronicle.handed_below (chronicle : Chronicle empty notes last) {subscriber handle : Nat}
    (handed : .subscribe subscriber handle ∈ notes.map Note.act) : handle < last.nextHandle := by
  have given : handle ∈ (notes.map Note.act).filterMap Act.given :=
    List.mem_filterMap.mpr ⟨_, handed, rfl⟩
  rw [chronicle.given] at given
  obtain ⟨place, within, rfl⟩ := List.mem_range'.mp given
  show 0 + 1 * place < last.nextHandle
  have below : place < last.nextHandle - 0 := within
  omega

/-- A handle was given to one subscriber at most. -/
theorem Chronicle.handed_once (chronicle : Chronicle empty notes last)
    {subscriber other handle : Nat} (handed : .subscribe subscriber handle ∈ notes.map Note.act)
    (alsoHanded : .subscribe other handle ∈ notes.map Note.act) : other = subscriber := by
  have once : ((notes.map Note.act).filterMap Act.given).Nodup := by
    rw [chronicle.given]
    exact List.nodup_range'
  by_contra different
  have symmetric : Std.Symm fun first second : Act => ∀ given, first.given = some given →
      ∀ alsoGiven, second.given = some alsoGiven → given ≠ alsoGiven :=
    ⟨fun _ _ apart given left alsoGiven right same => apart alsoGiven right given left same.symm⟩
  exact (List.pairwise_filterMap.mp once).forall handed alsoHanded
    (fun same => different (Act.subscribe.inj same).1.symm) handle rfl handle rfl rfl

/-- Only the subscriber that was given a handle can stand under it. -/
theorem Chronicle.owner (chronicle : Chronicle empty notes last) {entry : Subscription}
    (member : entry ∈ last.subscriptions) :
    .subscribe entry.subscriber entry.handle ∈ notes.map Note.act := by
  obtain ⟨early, late, whole, _⟩ := (chronicle.stands entry).mp member
  rw [whole]
  exact List.mem_append_right _ List.mem_cons_self

theorem Chronicle.unsubscribe_handed (chronicle : Chronicle empty notes last)
    {subscriber handle : Nat} (handed : .subscribe subscriber handle ∈ notes.map Note.act) :
    (last.unsubscribe handle).subscriptions = last.subscriptions.erase ⟨handle, subscriber⟩ := by
  have numbered := chronicle.evolves.numbered numbered_empty
  rw [numbered.nodup.erase_eq_filter]
  refine List.filter_congr fun entry member => ?_
  rw [Bool.eq_iff_iff, decide_eq_true_eq, bne_iff_ne, not_iff_not]
  constructor
  · rintro rfl
    rw [chronicle.handed_once (chronicle.owner member) handed]
  · rintro rfl
    rfl

theorem Chronicle.unsubscribe_unknown (chronicle : Chronicle empty notes last) {handle : Nat}
    (unknown : ∀ subscriber, .subscribe subscriber handle ∉ notes.map Note.act) :
    last.unsubscribe handle = last := by
  have kept : last.subscriptions.filter (fun entry => entry.handle ≠ handle) =
      last.subscriptions := by
    refine List.filter_eq_self.mpr fun entry member => decide_eq_true fun same => ?_
    exact unknown entry.subscriber (same ▸ chronicle.owner member)
  unfold unsubscribe
  rw [kept]

theorem Chronicle.lawful (chronicle : Chronicle empty notes last) : Lawful notes last where
  given := by
    rw [chronicle.given, List.range_eq_range']
    rfl
  numbered := by
    rintro earlier later rfl
    exact chronicle.split.1.evolves.numbered numbered_empty
  stands := by
    rintro earlier later rfl
    exact chronicle.split.1.stands
  removed := by
    rintro earlier found handle later subscriber rfl handed
    obtain ⟨before, _, _, rest⟩ := chronicle.around
    rw [rest.begins]
    refine ⟨before.unsubscribe_handed handed, ?_⟩
    rintro between more rfl entry member same
    rcases rest.split.1.evolves.origin.2 entry member with old | fresh
    · exact of_decide_eq_true (List.mem_filter.mp old).2 same
    · have below := before.handed_below handed
      have above : found.nextHandle ≤ entry.handle := fresh
      omega
  ignored := by
    rintro earlier found handle later rfl unknown
    obtain ⟨before, _, _, rest⟩ := chronicle.around
    rw [rest.begins]
    exact before.unsubscribe_unknown unknown
  called := by
    rintro earlier found event called later rfl
    obtain ⟨before, _, calls, _⟩ := chronicle.around
    have listed : called.map Prod.fst = found.subscriptions := calls event called rfl
    have ascending := (before.evolves.numbered numbered_empty).ascending
    refine ⟨?_, fun entry => ?_⟩
    · rw [← listed] at ascending
      have inOrder := List.pairwise_map.mp ascending
      exact List.pairwise_map.mpr inOrder
    · rw [listed]
      exact before.stands entry

end Registry

end DaemonMesh
