import DaemonMesh.Proofs.DaemonDeparture
import DaemonMesh.Proofs.LossAnnouncements

namespace DaemonMesh

attribute [ext] Mesh

/-- Two reports of the same losses that go through the endpoints in different orders. What they say
of one endpoint stays together, its sessions ascending. -/
structure LossReport.Reordered (first second : LossReport) : Prop where
  retired : first.retired.Perm second.retired
  lost : ∃ blocks others : List (String × List SessionId), blocks.Perm others ∧
    (blocks.map Prod.fst).Nodup ∧ (∀ block ∈ blocks, block.2.Pairwise (· < ·)) ∧
      first.lost = (blocks.flatMap fun block => block.2.map fun session => (block.1, session)) ∧
        second.lost = others.flatMap fun block => block.2.map fun session => (block.1, session)

namespace Mesh

variable {handles : Prop} {mesh first second : Mesh} {id : Nat} {router : Router} {link : Link}
  {order other : List Nat}

/-- Counts are kept by number, so two states that agree on all links have the same ones. -/
theorem Agrees.counts_eq (agrees : first.Agrees second)
    (size : first.counts.length = second.counts.length) : first.counts = second.counts := by
  refine List.ext_getElem size fun place within also => ?_
  have same := agrees.counts ⟨place, "", .replicate 0⟩
  unfold count at same
  rwa [List.getElem?_eq_getElem within, List.getElem?_eq_getElem also, Option.getD_some,
    Option.getD_some] at same

/-- Two outcomes of visits that agree are one state. -/
theorem Agrees.eq_of_touches (agrees : first.Agrees second) (touches : mesh.Touches first)
    (alsoTouches : mesh.Touches second) (accounted : first.Accounted)
    (alsoAccounted : second.Accounted) : first = second := by
  have links := touches.links.trans alsoTouches.links.symm
  have size : first.counts.length = second.counts.length := by
    rw [accounted.numbered.counted, alsoAccounted.numbered.counted, links]
  have routers := slots_ext (touches.routersSize.trans alsoTouches.routersSize.symm) agrees.routers
  exact Mesh.ext links (agrees.counts_eq size)
    (accounted.covered.trans alsoAccounted.covered.symm) agrees.tables agrees.endpoints
    (touches.endpointHandles.trans alsoTouches.endpointHandles.symm) routers
    (touches.routerHandles.trans alsoTouches.routerHandles.symm)
    (touches.registries.trans alsoTouches.registries.symm)

section TwoOrders

variable (reach : Reach handles mesh) (atId : mesh.router? id = some router)
  (permuted : order.Perm router.endpoints.values)
  (alsoPermuted : other.Perm router.endpoints.values)
include reach atId permuted alsoPermuted

/-- Each endpoint ends as its own standing says, which no other visit has a part in. -/
theorem Reach.loseLinkIn_agrees (link : Link) :
    (mesh.loseLinkIn order id link).2.Agrees (mesh.loseLinkIn other id link).2 := by
  have untouched := traced_start reach.registered atId
  have traced := untouched.lose reach.accounted reach.registered atId permuted link
  have alsoTraced := untouched.lose reach.accounted reach.registered atId alsoPermuted link
  exact traced.agrees alsoTraced reach (reach.next (.loseLink atId permuted link))
    (reach.next (.loseLink atId alsoPermuted link)) atId fun _ _ _ _ => rfl

theorem Reach.loseLinkIn_eq (link : Link) :
    (mesh.loseLinkIn order id link).2 = (mesh.loseLinkIn other id link).2 := by
  obtain ⟨touches, _⟩ := foldl_loseAt_touches id link order (.empty, mesh)
  obtain ⟨alsoTouches, _⟩ := foldl_loseAt_touches id link other (.empty, mesh)
  have reached : Reach handles _ := reach.next (.loseLink atId permuted link)
  have alsoReached : Reach handles _ := reach.next (.loseLink atId alsoPermuted link)
  exact (reach.loseLinkIn_agrees atId permuted alsoPermuted link).eq_of_touches touches alsoTouches
    reached.accounted alsoReached.accounted

theorem Reach.loseLinkIn_reordered (link : Link) :
    (mesh.loseLinkIn order id link).1.Reordered (mesh.loseLinkIn other id link).1 := by
  have accounted := reach.accounted
  have registered := reach.registered
  obtain ⟨report, _⟩ := accounted.loseLinkIn registered atId permuted link
  obtain ⟨alsoReport, _⟩ := accounted.loseLinkIn registered atId alsoPermuted link
  obtain ⟨names, sessions⟩ := (registered.visits atId permuted).blocks accounted.valid link
  have orders := permuted.trans alsoPermuted.symm
  rw [report, alsoReport]
  exact ⟨orders.filterMap _, _, _, orders.filterMap _, names, sessions, rfl, rfl⟩

end TwoOrders

end Mesh

namespace World

/-- Two calls that report the same loss, each with visits in an order of its own. -/
structure SameLoss (call another : LossCall) : Prop where
  report : call.report.Reordered another.report
  /-- Nothing of the order is left by the time that the first subscriber is told. -/
  lost : call.lost = another.lost
  begun : ∀ first, call.tellings.head? = some first → first.found = call.lost

theorem sameLoss {handles : Prop} {world : World} {id : Nat} {router : Router}
    {order other : List Nat} (reach : Mesh.Reach handles world.mesh)
    (atId : world.mesh.router? id = some router) (permuted : order.Perm router.endpoints.values)
    (alsoPermuted : other.Perm router.endpoints.values) (perform : Performer) (link : Link)
    (reason : LossReason) :
    SameLoss (world.loseLinkTold perform order id router link reason)
      (world.loseLinkTold perform other id router link reason) := by
  have held := reach.next (.holdRouter id)
  have stillAt : (world.mesh.holdRouter id).router? id = some router := atId
  have reordered := held.loseLinkIn_reordered stillAt permuted alsoPermuted link
  have same := held.loseLinkIn_eq stillAt permuted alsoPermuted link
  unfold loseLinkTold loseLinkBy
  generalize (world.mesh.holdRouter id).loseLinkIn order id link = ended at reordered same
  generalize (world.mesh.holdRouter id).loseLinkIn other id link = alsoEnded at reordered same
  obtain ⟨tellings, run, _, begun⟩ := @tellAll_eq perform router.registry
    (ended.1.events reason) (world.withMesh ended.2) []
  dsimp only
  rw [run, List.nil_append]
  exact ⟨reordered, congrArg world.withMesh same, begun⟩

end World

/-- In whatever order a lost link is taken from the endpoints, the first subscriber to hear of it
finds the same world, and the report says the same of each endpoint. -/
theorem link_loss_any_order {handles : Prop} :
    (∀ (world : World) (id : Nat) (router : Router) (order other : List Nat),
      Mesh.Reach handles world.mesh → world.mesh.router? id = some router →
        order.Perm router.endpoints.values → other.Perm router.endpoints.values →
          ∀ (perform : Performer) (link : Link) (reason : LossReason),
            World.SameLoss (world.loseLinkTold perform order id router link reason)
              (world.loseLinkTold perform other id router link reason)) ∧
      (∀ (world : World) (id : Nat) (router : Router) (perform : Performer) (link : Link)
          (reason : LossReason),
        (world.loseLink perform id router link reason).1 =
            (world.loseLinkTold perform router.endpoints.values id router link reason).report ∧
          (world.loseLink perform id router link reason).2.2 =
            (world.loseLinkTold perform router.endpoints.values id router link reason).after) ∧
        ∀ world, World.Run handles world → Mesh.Reach handles world.mesh :=
  ⟨fun _ _ _ _ _ reach atId permuted alsoPermuted perform link reason =>
      World.sameLoss reach atId permuted alsoPermuted perform link reason,
    fun world id router perform => world.loseLink_told perform id router,
    fun _ run => run.sound.reached⟩

namespace Mesh

def firstNeighbour : Endpoint :=
  ⟨":b.5", .started, true, ⟨⟨[(⟨0⟩, [sampleLink]), (⟨7⟩, [sampleLink]), (⟨8⟩, [sampleLink])]⟩⟩,
    .firstAvailable⟩

def secondNeighbour : Endpoint :=
  ⟨":b.6", .started, true, ⟨⟨[(⟨0⟩, [sampleLink]), (⟨9⟩, [sampleLink])]⟩⟩, .firstAvailable⟩

def neighboursRouter : Router := ⟨⟨[(":b.5", 0), (":b.6", 1)]⟩, .firstAvailable, 0, .default⟩

/-- Two endpoints behind the same daemon, both with sessions on its only link. The second one is
held outside. -/
def neighbours : Mesh where
  links := [sampleLink]
  counts := [3]
  overdrawn := []
  tables := []
  endpoints := [some firstNeighbour, some secondNeighbour]
  endpointHandles := [1]
  routers := [some neighboursRouter]
  routerHandles := [0]
  registries := [.empty]

theorem reach_neighbours (handles : Prop) : Reach handles neighbours := by
  have opened : Reach handles _ := .next .start (.openLink ":b.1" (.replicate 1))
  have shared : Reach handles _ := .next opened .newRegistry
  have made : Reach handles _ := .next shared (.newRouter .firstAvailable 0 .default)
  have held : Reach handles _ := .next made (.holdRouter 0)
  have known : sampleLink ∈ [sampleLink] := List.mem_singleton_self _
  have first : Reach handles _ := .next held (@Move.reach _ _ 0 _ sampleLink rfl known ":b.5")
  have second : Reach handles _ := .next first (@Move.reach _ _ 0 _ sampleLink rfl known ":b.6")
  have kept : Reach handles _ := .next second (.holdEndpoint 1)
  have seventh : Reach handles _ := .next kept
    (@Move.bindSession _ _ _ 0 0 _ _ ":b.5" ⟨7⟩ (some sampleLink) _ rfl rfl rfl)
  have eighth : Reach handles _ := .next seventh
    (@Move.bindSession _ _ _ 0 0 _ _ ":b.5" ⟨8⟩ (some sampleLink) _ rfl rfl rfl)
  exact .next eighth
    (@Move.bindSession _ _ _ 0 1 _ _ ":b.6" ⟨9⟩ (some sampleLink) _ rfl rfl rfl)

end Mesh

/-- The reports name the endpoints in different orders. -/
theorem link_loss_any_order_neighbours : ∃ call another : World.LossCall,
    World.SameLoss call another ∧
      call.report = ⟨[":b.5", ":b.6"], [(":b.5", ⟨7⟩), (":b.5", ⟨8⟩), (":b.6", ⟨9⟩)]⟩ ∧
      another.report = ⟨[":b.6", ":b.5"], [(":b.6", ⟨9⟩), (":b.5", ⟨7⟩), (":b.5", ⟨8⟩)]⟩ ∧
      call.lost.mesh.counts = [0] ∧
      call.lost.mesh.endpoints =
        [none, some ⟨":b.6", .stopping, true, ⟨⟨[]⟩⟩, .firstAvailable⟩] := by
  have reach : Mesh.Reach True ({ World.empty with mesh := Mesh.neighbours } : World).mesh :=
    Mesh.reach_neighbours True
  have same := link_loss_any_order.1 _ 0 Mesh.neighboursRouter [0, 1] [1, 0] reach rfl
    (List.Perm.refl _) (List.Perm.swap ..) World.noScripts Mesh.sampleLink .linkTimeout
  exact ⟨_, _, same, rfl, rfl, rfl, rfl⟩

end DaemonMesh
