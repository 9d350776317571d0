import DaemonMesh.Proofs.ReferenceBalance
import DaemonMesh.Proofs.ScenarioRuns

namespace DaemonMesh

namespace Mesh

/-- Every link, known by its number, has as many references as there are session bindings to it in
tables still alive, and none was ever given back that had not been taken. -/
structure Balanced (mesh : Mesh) : Prop where
  counted : ∀ link : Link,
    mesh.count link = mesh.bindings.countP fun other => other.number == link.number
  covered : mesh.overdrawn = []

variable {mesh : Mesh}

theorem Accounted.balance (accounted : mesh.Accounted) : mesh.Balanced := by
  refine ⟨fun link => ?_, accounted.covered⟩
  have numbered := accounted.numbered
  cases found : mesh.links[link.number]? with
  | none =>
    have beyond := List.getElem?_eq_none_iff.mp found
    have unbound : ∀ other ∈ mesh.bindings, ¬(other.number == link.number) = true := by
      intro other bound same
      have below := numbered.number_lt (accounted.bindings_opened bound)
      rw [eq_of_beq same, numbered.counted] at below
      omega
    rw [List.countP_eq_zero.mpr unbound, count, List.getElem?_eq_none]
    · rfl
    · rw [numbered.counted]
      exact beyond
  | some opened =>
    have number := numbered.placed _ opened found
    have known := List.mem_of_getElem? found
    have sameCount : mesh.count link = mesh.count opened := by
      unfold count
      rw [number]
    rw [sameCount, accounted.balanced opened known, List.count_nil, Nat.add_zero, List.count]
    refine List.countP_congr fun other bound => ?_
    rw [beq_iff_eq, beq_iff_eq]
    constructor
    · rintro rfl
      exact number
    · intro same
      by_contra different
      exact numbered.number_ne known (accounted.bindings_opened bound) different
        (same.trans number.symm)

def sampleLink : Link := ⟨0, ":b.1", .replicate 1⟩

/-- Another way to the same daemon. -/
def spareLink : Link := ⟨1, ":b.2", .replicate 1⟩

def sampleEndpoint : Endpoint :=
  ⟨":b.5", .started, true, ⟨⟨[(⟨0⟩, [sampleLink]), (⟨7⟩, [sampleLink, sampleLink])]⟩⟩,
    .firstAvailable⟩

def sampleRouter : Router := ⟨⟨[(":b.5", 0)]⟩, .firstAvailable, 0, .default⟩

/-- A daemon with one link, and on its router one endpoint that has session 7 bound twice. -/
def twiceBound : Mesh where
  links := [sampleLink]
  counts := [2]
  overdrawn := []
  tables := []
  endpoints := [some sampleEndpoint]
  endpointHandles := []
  routers := [some sampleRouter]
  routerHandles := [0]
  registries := [.empty]

theorem reach_twiceBound (handles : Prop) : Reach handles twiceBound := by
  have opened : Reach handles _ := .next .start (.openLink ":b.1" (.replicate 1))
  have shared : Reach handles _ := .next opened .newRegistry
  have made : Reach handles _ := .next shared (.newRouter .firstAvailable 0 .default)
  have held : Reach handles _ := .next made (.holdRouter 0)
  have known : sampleLink ∈ [sampleLink] := List.mem_singleton_self _
  have reached : Reach handles _ := .next held (@Move.reach _ _ 0 _ sampleLink rfl known ":b.5")
  have once : Reach handles _ := .next reached
    (@Move.bindSession _ _ _ 0 0 _ _ ":b.5" ⟨7⟩ (some sampleLink) _ rfl rfl rfl)
  exact .next once (@Move.bindSession _ _ _ 0 0 _ _ ":b.5" ⟨7⟩ (some sampleLink) _ rfl rfl rfl)

end Mesh

/-- References and bindings stay in balance after every step, be it a single move in whatever
interleaving or a step of a scenario with all the scripts that run inside it. -/
theorem references_balanced {handles : Prop} :
    (∀ mesh, Mesh.Reach handles mesh → mesh.Balanced) ∧
      ∀ world, World.Run handles world → world.mesh.Balanced :=
  ⟨fun _ reach => reach.accounted.balance, fun _ run => run.sound.reached.accounted.balance⟩

/-- The link in this run binds the session while it is handed a message. -/
theorem references_balanced_reentry :
    (∃ world, World.Run True world ∧ world.mesh.counts = [1] ∧ world.mesh.Balanced) ∧
      Mesh.Reach True Mesh.twiceBound ∧ Mesh.twiceBound.Balanced := by
  have made : World.Run True _ := @World.Run.next _ _
    (.scriptLink "l" ":b.1" (.replicate 1) .never .closed [[.endpoint "e" (.bind ⟨7⟩ "l")]])
    .start ⟨⟨trivial, trivial⟩, trivial⟩ ⟨none, none, none⟩
  have stood : World.Run True _ := @World.Run.next _ _
    (.endpoint "e" (.new ":b.5" "l" .firstAvailable)) made trivial ⟨none, none, none⟩
  have sent : World.Run True _ := @World.Run.next _ _
    (.endpoint "e" (.push (.methodCall 1 ":a.1" ":b.5" "Ping"))) stood trivial ⟨none, none, none⟩
  have reach := Mesh.reach_twiceBound True
  exact ⟨⟨_, sent, rfl, references_balanced.2 _ sent⟩, reach, references_balanced.1 _ reach⟩

end DaemonMesh
