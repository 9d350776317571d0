import DaemonMesh.Proofs.LossAnnouncements
import DaemonMesh.Proofs.SubscriberRuns

namespace DaemonMesh

namespace Registry

variable {first second last : Registry} {notes later : List Note}

theorem Runs.append (run : Runs .free first notes second) (rest : Runs .free second later last) :
    Runs .free first (notes ++ later) last := by
  generalize free : Turn.free = turn at run
  induction run with
  | done => exact rest
  | subscribe subscriber _ ih => exact .subscribe subscriber (ih rest free)
  | unsubscribe handle _ ih => exact .unsubscribe handle (ih rest free)
  | dispatch told _ _ ih =>
    rw [List.cons_append, List.append_assoc]
    exact .dispatch told (ih rest free)
  | nobody | call => cases free

/-- Every history of a registry is a run in which no event is dispatched, so the laws of runs hold
of it. -/
theorem Evolves.runs (evolves : first.Evolves second) : ∃ notes, Runs .free first notes second := by
  induction evolves with
  | start => exact ⟨[], .done first⟩
  | @subscribe registry _ subscriber ih =>
    obtain ⟨notes, run⟩ := ih
    exact ⟨_, run.append (.subscribe subscriber (.done _))⟩
  | unsubscribe _ handle ih =>
    obtain ⟨notes, run⟩ := ih
    exact ⟨_, run.append (.unsubscribe handle (.done _))⟩

end Registry

namespace World

/-- Whom a dispatch tells: all that are subscribed when it starts, each once and in their order, and
nobody else. -/
structure Dispatched (perform : Performer) (number : Nat) (world : World) (event : RouteEvent)
    (told : List Telling) : Prop where
  noted : announce (tell perform) event (world.mesh.registry number).subscriptions (world, []) =
    (dispatch perform number world event, told)
  tellings : told.map (fun telling => (telling.entry, telling.event)) =
    (world.mesh.registry number).subscriptions.map fun entry => (entry, event)
  linked : Linked perform world told (dispatch perform number world event)
  /-- To the registry, this is a dispatch like any other in its runs. -/
  runs : ∃ notes, Registry.Runs .free (world.mesh.registry number)
    (⟨world.mesh.registry number, .dispatch event
      (told.map fun telling => (telling.entry, (outcome perform telling).1))⟩ :: notes)
    ((dispatch perform number world event).mesh.registry number)

variable {perform : Performer}

/-- Calls one after the other make the calls of a dispatch in a run. -/
theorem Linked.runs (orderly : Orderly perform) (number : Nat) (event : RouteEvent)
    {told : List Telling} {world last : World} (linked : Linked perform world told last) :
    ∃ notes, Registry.Runs (.telling event (told.map Telling.entry)
      (told.map fun telling => (telling.entry, (outcome perform telling).1)))
        (world.mesh.registry number) notes (last.mesh.registry number) := by
  induction told generalizing world with
  | nil =>
    obtain rfl : world = last := linked
    exact ⟨[], .nobody event _⟩
  | cons telling rest ih =>
    obtain ⟨rfl, others⟩ := linked
    obtain ⟨notes, handled⟩ :=
      (heeds_notify orderly telling.found telling.entry telling.event number).runs
    obtain ⟨later, run⟩ := ih others
    exact ⟨notes ++ later, .call (outcome perform telling).1 handled run⟩

/-- A dispatch takes its snapshot when it starts and calls along it. The handlers may subscribe and
unsubscribe, as this changes the registry and not the snapshot. -/
theorem dispatched (orderly : Orderly perform) (number : Nat) (world : World)
    (event : RouteEvent) : ∃ told, Dispatched perform number world event told := by
  obtain ⟨told, noted, tellings, linked⟩ := @announce_tell perform event
    (world.mesh.registry number).subscriptions world []
  obtain ⟨notes, run⟩ := linked.runs orderly number event
  have entries : told.map Telling.entry = (world.mesh.registry number).subscriptions := by
    have firsts := congrArg (List.map Prod.fst) tellings
    simpa [Function.comp_def] using firsts
  rw [entries] at run
  exact ⟨told, noted, tellings, linked, _, .dispatch run (.done _)⟩

theorem registry_subscribe (world : World) {number : Nat}
    (known : number < world.mesh.registries.length) (subscriber : Subscriber) :
    (world.subscribe number subscriber).2.mesh.registry number =
      ((world.mesh.registry number).subscribe world.subscribers.length).2 := by
  show ((world.mesh.registries.set number _)[number]?.getD .empty) = _
  rw [List.getElem?_set_self known]
  rfl

end World

/-- Whatever subscribers do while they are called, and whether they crash or not, handles are given
out once, the list stays in order, and each dispatch calls just those subscribed when it started. -/
theorem subscriber_runs_lawful {handles : Prop} :
    (∀ notes last, Registry.Runs .free .empty notes last → Registry.Lawful notes last) ∧
      (∀ perform, World.Orderly perform → ∀ number world event,
        ∃ told, World.Dispatched perform number world event told) ∧
      (∀ (world : World) (number : Nat) (subscriber : Subscriber),
        number < world.mesh.registries.length → ∃ handle,
          (world.subscribe number subscriber).1 = .answer (.text (shownHandle handle)) ∧
            Registry.Runs .free (world.mesh.registry number)
              [⟨world.mesh.registry number, .subscribe world.subscribers.length handle⟩]
              ((world.subscribe number subscriber).2.mesh.registry number)) ∧
      (∀ depth, World.Orderly (World.performNested depth) ∧ ∀ world step number, ∃ notes,
        Registry.Runs .free (world.mesh.registry number) notes
          ((World.performNested depth world step).2.mesh.registry number)) ∧
      ∀ world, World.Run handles world → ∀ number, ∃ notes,
        Registry.Runs .free .empty notes (world.mesh.registry number) := by
  refine ⟨fun notes last run => run.chronicle.1.lawful,
    fun perform orderly number world event => World.dispatched orderly number world event,
    fun world number subscriber known => ⟨_, rfl, ?_⟩,
    fun depth => ⟨World.orderly_nested depth, fun world step number =>
      (World.orderly_nested depth world step number).runs⟩,
    fun world run number => (run.registries number).runs⟩
  rw [world.registry_subscribe known]
  exact .subscribe _ (.done _)

namespace Registry

/-- The elder of two subscribers takes itself off, brings in a third one and announces something of
its own, at which the younger crashes. The younger, called last, crashes as well. -/
def bustle : List Act :=
  [.subscribe 10 0, .subscribe 11 1,
    .dispatch (.retired ":b.5") [(⟨0, 10⟩, .finished), (⟨1, 11⟩, .crashed)],
    .unsubscribe 0, .subscribe 12 2,
    .dispatch (.retired ":b.6") [(⟨1, 11⟩, .crashed), (⟨2, 12⟩, .finished)],
    .unsubscribe 1]

theorem runs_bustle : ∃ notes, notes.map Note.act = bustle ∧
    Runs .free empty notes ⟨3, [⟨2, 12⟩]⟩ := by
  have inner : Runs (.telling (.retired ":b.6") [⟨1, 11⟩, ⟨2, 12⟩]
      [(⟨1, 11⟩, .crashed), (⟨2, 12⟩, .finished)]) ⟨3, [⟨1, 11⟩, ⟨2, 12⟩]⟩ []
        ⟨3, [⟨1, 11⟩, ⟨2, 12⟩]⟩ :=
    .call .crashed (.done _) (.call .finished (.done _) (.nobody _ _))
  have elder : Runs .free ⟨2, [⟨0, 10⟩, ⟨1, 11⟩]⟩ _ ⟨3, [⟨1, 11⟩, ⟨2, 12⟩]⟩ :=
    .unsubscribe 0 (.subscribe 12 (.dispatch inner (.done _)))
  have younger : Runs .free ⟨3, [⟨1, 11⟩, ⟨2, 12⟩]⟩ _ ⟨3, [⟨2, 12⟩]⟩ := .unsubscribe 1 (.done _)
  have outer : Runs (.telling (.retired ":b.5") [⟨0, 10⟩, ⟨1, 11⟩]
      [(⟨0, 10⟩, .finished), (⟨1, 11⟩, .crashed)]) ⟨2, [⟨0, 10⟩, ⟨1, 11⟩]⟩ _ ⟨3, [⟨2, 12⟩]⟩ :=
    .call .finished elder (.call .crashed younger (.nobody _ _))
  exact ⟨_, rfl, .subscribe 10 (.subscribe 11 (.dispatch outer (.done _)))⟩

end Registry

theorem subscriber_runs_lawful_bustle :
    (∃ notes, notes.map Registry.Note.act = Registry.bustle ∧
      Registry.Lawful notes ⟨3, [⟨2, 12⟩]⟩) ∧
    ∃ told, World.Dispatched (World.performNested 0) 0 World.restless (.retired ":b.5") told ∧
      told.map (fun telling => telling.entry.handle) = [0, 1] ∧
      ((World.dispatch (World.performNested 0) 0 World.restless
        (.retired ":b.5")).mesh.registry 0).subscriptions = [⟨0, 0⟩, ⟨2, 2⟩] := by
  obtain ⟨lawful, calls, _, nested, _⟩ := @subscriber_runs_lawful True
  obtain ⟨notes, acts, run⟩ := Registry.runs_bustle
  obtain ⟨told, dispatched⟩ := calls _ (nested 0).1 0 World.restless (.retired ":b.5")
  refine ⟨⟨notes, acts, lawful notes _ run⟩, told, dispatched, ?_, rfl⟩
  have entries := congrArg (List.map fun telling => telling.1.handle) dispatched.tellings
  rw [List.map_map] at entries
  exact entries

end DaemonMesh
