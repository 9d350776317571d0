import DaemonMesh.Proofs.StepEffects

namespace DaemonMesh

namespace Mesh

variable {mesh next later : Mesh}

/-- Registries change by subscribing and unsubscribing only. -/
def Heeds (mesh next : Mesh) : Prop := ∀ id, (mesh.registry id).Evolves (next.registry id)

theorem Heeds.trans (first : mesh.Heeds next) (second : next.Heeds later) : mesh.Heeds later :=
  fun id => (first id).trans (second id)

/-- A change that leaves the list of registries alone leaves every registry alone. -/
theorem registry_of_registries (same : next.registries = mesh.registries) (id : Nat) :
    next.registry id = mesh.registry id :=
  congrArg (fun registries => (registries[id]?.getD .empty : Registry)) same

/-- Routers share registries and do not own them. -/
theorem registries_letGoRouter (mesh : Mesh) (id : Nat) :
    (mesh.letGoRouter id).registries = mesh.registries := by
  have quiet : mesh.Quiet mesh := quiet_of_routers rfl rfl
  exact (quiet.letGoRouter id).registries

/-- A new registry gets the next number, so the old numbers still stand for what they stood for. -/
theorem heeds_addRegistry (mesh : Mesh) : mesh.Heeds mesh.addRegistry.2 := by
  intro id
  have same : mesh.addRegistry.2.registry id = mesh.registry id := by
    unfold registry addRegistry
    rw [List.getElem?_append]
    split
    · rfl
    · next beyond =>
      rw [List.getElem?_eq_none (Nat.le_of_not_lt beyond)]
      cases id - mesh.registries.length <;> rfl
  rw [same]
  exact .start

/-- A registry may be written to as long as what is written comes from the old one by subscribing
and unsubscribing. -/
theorem heeds_setRegistry (mesh : Mesh) (id : Nat) {registry : Registry}
    (evolves : (mesh.registry id).Evolves registry) :
    mesh.Heeds (mesh.setRegistry id registry) := by
  intro other
  show Registry.Evolves _ ((mesh.registries.set id registry)[other]?.getD .empty)
  rw [List.getElem?_set]
  split
  · next same =>
    subst same
    split
    · exact evolves
    · next beyond =>
      rw [Mesh.registry, List.getElem?_eq_none (Nat.le_of_not_lt beyond)]
      exact .start
  · exact .start

/-- Most effects concern queues and scripted links and never come near a registry. -/
theorem Effect.heeds (effect : mesh.Effect next) : mesh.Heeds next := by
  cases effect with
  | quiet quiet =>
    intro id
    rw [registry_of_registries quiet.registries]
    exact .start
  | addRegistry => exact mesh.heeds_addRegistry
  | subscribe id subscriber => exact mesh.heeds_setRegistry id (Registry.Evolves.start.subscribe _)
  | unsubscribe id handle => exact mesh.heeds_setRegistry id (Registry.Evolves.start.unsubscribe _)
  | addRouter router usable => exact fun _ => .start

theorem tracks_heeds : Tracks Heeds where
  trans := Heeds.trans
  effect := Effect.heeds

end Mesh

namespace World

/-- Whatever is done, registries change by subscribing and unsubscribing only. -/
def Orderly (perform : Performer) : Prop :=
  ∀ (world : World) (step : Step), world.mesh.Heeds (perform world step).2.mesh

variable {world : World} {perform : Performer}

/-- Of an effect on a world, the registries see what it does to the mesh. -/
theorem tracks_registries : Tracks fun world next : World => world.mesh.Heeds next.mesh :=
  tracks_mesh Mesh.tracks_heeds

theorem heeds_notify (orderly : Orderly perform) (world : World) (entry : Subscription)
    (event : RouteEvent) : world.mesh.Heeds (world.notify perform entry event).2.mesh :=
  keeps_notify tracks_registries orderly world entry event

theorem heeds_dispatchAll (orderly : Orderly perform) (registry : Nat) (events : List RouteEvent)
    (world : World) : world.mesh.Heeds (world.dispatchAll perform registry events).2.mesh :=
  keeps_dispatchAll tracks_registries orderly registry events world

/-- Steps keep registries in order, and so do all steps of the scripts that they set off. -/
theorem orderly_nested (depth : Nat) : Orderly (performNested depth) :=
  keeping_nested tracks_registries depth

/-- In all runs, registries are what subscribing and unsubscribing made of empty ones. -/
theorem Run.registries {handles : Prop} (run : Run handles world) (id : Nat) :
    Registry.empty.Evolves (world.mesh.registry id) := by
  induction run with
  | start => exact .start
  | @next before step _ _ _ ih =>
    exact ih.trans (orderly_nested _ { before with trace := [] } step id)

end World

end DaemonMesh
