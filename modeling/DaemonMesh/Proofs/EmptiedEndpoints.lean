import DaemonMesh.Proofs.ServedNames

namespace DaemonMesh

theorem LossReport.mem_events_retired_iff {report : LossReport} {reason : LossReason}
    {name : String} : .retired name ∈ report.events reason ↔ name ∈ report.retired := by
  simp [events]

namespace Mesh

variable {mesh after final : Mesh} {id target : Nat} {router : Router} {link : Link}
  {order : List Nat} {name : String} {endpoint : Endpoint}

/-- An endpoint without any route stands on the router under the name. -/
def Stranded (mesh : Mesh) (id : Nat) (name : String) (target : Nat) (endpoint : Endpoint) : Prop :=
  mesh.Registers id name target ∧ mesh.endpoint? target = some endpoint ∧
    endpoint.routes.isEmpty = true

/-- A loss passes by the endpoints that have no route, and leaves no others without one. -/
theorem LossFrame.stranded_iff (frame : LossFrame mesh id router link order after)
    (visits : Visits mesh router order) (registered : mesh.Registered)
    (atId : mesh.router? id = some router) (valid : ∀ table ∈ mesh.liveTables, table.Valid) :
    after.Stranded id name target endpoint ↔ mesh.Stranded id name target endpoint := by
  unfold Stranded
  rw [frame.registers_iff atId]
  constructor
  · rintro ⟨⟨registers, standing⟩, there, empty⟩
    have ⟨current, atCurrent, found⟩ := registers
    obtain ⟨before, was, _⟩ := registered.known id current name target atCurrent found
    have present := registers.lookup atId was
    have table := valid _ (mem_liveTables_iff.mpr (Or.inr ⟨target, before, was, rfl⟩))
    rcases frame.inside target before (visits.complete name target before present).1 was with
      ⟨_, same⟩ | ⟨direct, same | ⟨_, _, gone⟩⟩
    · rw [there] at same
      rw [Option.some.inj same]
      exact ⟨registers, was, Option.some.inj same ▸ empty⟩
    · rw [there] at same
      have remains : (before.removeLink link).2.1 = false :=
        Bool.eq_false_iff.mpr fun emptied =>
          standing (visits.retired_iff.mpr ⟨target, before, present, direct, emptied⟩)
      have left := table.removeLink link
      rw [Option.some.inj same] at empty
      exact (left.directLinks_of_not_leftEmpty remains (left.isEmpty_iff.mp empty)).elim
    · rw [there] at gone
      cases gone
  · rintro ⟨registers, there, empty⟩
    have present := registers.lookup atId there
    have table := valid _ (mem_liveTables_iff.mpr (Or.inr ⟨target, endpoint, there, rfl⟩))
    have pathless : link ∉ endpoint.routes.directLinks := by
      rw [table.isEmpty_iff.mp empty]
      exact List.not_mem_nil
    obtain ⟨still, standing⟩ := frame.spares visits name target endpoint present pathless
    exact ⟨⟨registers, standing⟩, still, empty⟩

/-- What becomes of the endpoints on a router that loses a link, in terms of the state before: none
but those that had no route at all stays behind without one, and those that leave are reported. -/
structure Emptying (mesh : Mesh) (id : Nat) (report : LossReport) (after : Mesh) : Prop where
  stranded : ∀ name target endpoint,
    after.Stranded id name target endpoint ↔ mesh.Stranded id name target endpoint
  retired : ∀ name target, mesh.Registers id name target →
    (name ∈ report.retired ↔ ∀ other, ¬after.Registers id name other)

theorem Reach.emptying {handles : Prop} (reach : Reach handles mesh)
    (atId : mesh.router? id = some router) (permuted : order.Perm router.endpoints.values)
    (link : Link) : Emptying mesh id (mesh.loseLinkIn order id link).1
      (mesh.loseLinkIn order id link).2 := by
  have accounted := reach.accounted
  have registered := reach.registered
  have visits := registered.visits atId permuted
  obtain ⟨report, frame⟩ := accounted.loseLinkIn registered atId permuted link
  refine ⟨fun name target endpoint => frame.stranded_iff visits registered atId accounted.valid,
    fun name target registers => ?_⟩
  simp only [frame.registers_iff atId, report, not_and, not_not]
  refine ⟨fun fallen _ _ => fallen, fun gone => gone target registers⟩

theorem Aside.emptying {report : LossReport} (aside : after.Aside final)
    (emptying : Emptying mesh id report after) : Emptying mesh id report final := by
  have registers (name : String) (target : Nat) :
      final.Registers id name target ↔ after.Registers id name target := by
    unfold Registers
    rw [aside.router?_eq]
  refine ⟨fun name target endpoint => ?_, fun name target before => ?_⟩
  · rw [← emptying.stranded, Stranded, registers, aside.endpoint?_eq]
    rfl
  · rw [emptying.retired name target before]
    exact forall_congr' fun other => not_congr (registers name other).symm

/-- Registered endpoints have a route as long as nothing happens behind the routers. -/
theorem Served.not_stranded (served : mesh.Served) (accounted : mesh.Accounted) :
    ¬mesh.Stranded id name target endpoint := by
  rintro ⟨registers, there, empty⟩
  obtain ⟨same, alsoThere, _, direct⟩ := served id name target registers
  rw [Option.some.inj (alsoThere.symm.trans there)] at direct
  have alive := mem_liveTables_iff.mpr (Or.inr ⟨target, endpoint, there, rfl⟩)
  exact direct ((accounted.valid _ alive).isEmpty_iff.mp empty)

end Mesh

/-- A lost link leaves no registered endpoint without routes but those that had none before it,
taken from them behind the router. Whatever leaves the router is reported, and told to everybody
subscribed. -/
theorem lost_link_retires_emptied {handles : Prop} {world : World} {id : Nat} {router : Router}
    (reach : Mesh.Reach handles world.mesh) (atId : world.mesh.router? id = some router)
    (link : Link) :
    (∀ order : List Nat, order.Perm router.endpoints.values →
      Mesh.Emptying world.mesh id (world.mesh.loseLinkIn order id link).1
        (world.mesh.loseLinkIn order id link).2) ∧
      (∀ (perform : Performer) (quiet : World → Prop) (reason : LossReason),
        id ∈ world.mesh.routerHandles → World.Quiet perform quiet →
          quiet (world.withMesh ((world.mesh.holdRouter id).loseLink id router link).2) →
            Mesh.Emptying world.mesh id (world.loseLink perform id router link reason).1
                (world.loseLink perform id router link reason).2.2.mesh ∧
              ((∀ told, quiet told → (told.mesh.registry router.registry).subscriptions ≠ []) →
                ∀ name, name ∈ (world.loseLink perform id router link reason).1.retired ↔
                  .retired name ∈ (world.loseLink perform id router link reason).2.1)) ∧
      (¬handles → ∀ name target endpoint, ¬world.mesh.Stranded id name target endpoint) := by
  refine ⟨fun order permuted => reach.emptying atId permuted link,
    fun perform quiet reason held closed start => ⟨?_, fun somebody name => ?_⟩,
    fun unruly name target endpoint => ?_⟩
  · have reachHeld := reach.next (.holdRouter id)
    have stillAt : (world.mesh.holdRouter id).router? id = some router := atId
    have effect := reachHeld.emptying stillAt (List.Perm.refl _) link
    exact (World.loseLink_aside reach atId held reason closed start).emptying
      ⟨effect.stranded, effect.retired⟩
  · have heard : (world.loseLink perform id router link reason).2.1 =
        (world.loseLink perform id router link reason).1.events reason :=
      World.dispatchAll_heard (fun world entry event calm => (closed world entry event calm).1)
        somebody _ start
    rw [heard, LossReport.mem_events_retired_iff]
  · rw [eq_false unruly] at reach
    exact reach.served.not_stranded reach.accounted

namespace Mesh

/-- The only path of this endpoint was taken from it while nobody asked the router. -/
def bareEndpoint : Endpoint := ⟨":b.5", .stopping, false, ⟨⟨[]⟩⟩, .firstAvailable⟩

def bared : Mesh where
  links := [sampleLink]
  counts := [0]
  overdrawn := []
  tables := []
  endpoints := [some bareEndpoint]
  endpointHandles := [0]
  routers := [some sampleRouter]
  routerHandles := [0]
  registries := [.empty]

theorem reach_bared : Reach True bared := by
  have opened : Reach True _ := .next .start (.openLink ":b.1" (.replicate 1))
  have shared : Reach True _ := .next opened .newRegistry
  have made : Reach True _ := .next shared (.newRouter .firstAvailable 0 .default)
  have held : Reach True _ := .next made (.holdRouter 0)
  have known : sampleLink ∈ [sampleLink] := List.mem_singleton_self _
  have reached : Reach True _ := .next held (@Move.reach _ _ 0 _ sampleLink rfl known ":b.5")
  have grasped : Reach True _ := .next reached (.holdEndpoint 0)
  have removed : Reach True _ := .next grasped (@Move.removeLink _ _ 0 _ trivial rfl sampleLink)
  exact removed

end Mesh

theorem lost_link_retires_emptied_bared :
    ∃ after : Mesh, Mesh.bared.Stranded 0 ":b.5" 0 Mesh.bareEndpoint ∧
      after.Stranded 0 ":b.5" 0 Mesh.bareEndpoint ∧ Mesh.Emptying Mesh.bared 0 .empty after := by
  have reach : Mesh.Reach True ({ World.empty with mesh := Mesh.bared } : World).mesh :=
    Mesh.reach_bared
  have stranded : Mesh.bared.Stranded 0 ":b.5" 0 Mesh.bareEndpoint :=
    ⟨⟨Mesh.sampleRouter, rfl, rfl⟩, rfl, rfl⟩
  obtain ⟨emptying, _⟩ := (lost_link_retires_emptied reach rfl Mesh.sampleLink).2.1 World.noScripts
    _ .linkTimeout List.mem_cons_self (World.quiet_of_scriptless World.noScripts) fun _ none => by
      cases none
  exact ⟨_, stranded, (emptying.stranded _ _ _).mpr stranded, emptying⟩

end DaemonMesh
