import DaemonMesh.Proofs.LossEffect
import DaemonMesh.Proofs.RegistriesKept

namespace DaemonMesh

theorem LossReport.nodup_events (report : LossReport) (lostOnce : report.lost.Nodup)
    (retiredOnce : report.retired.Nodup) (reason : LossReason) : (report.events reason).Nodup := by
  refine List.nodup_append.mpr ⟨lostOnce.map ?_, retiredOnce.map ?_, ?_⟩
  · rintro ⟨name, session⟩ ⟨other, again⟩ same
    obtain ⟨rfl, rfl, _⟩ := RouteEvent.sessionLost.inj same
    rfl
  · exact fun name other same => RouteEvent.retired.inj same
  · intro event lost other retired same
    obtain ⟨_, _, rfl⟩ := List.mem_map.mp lost
    obtain ⟨_, _, rfl⟩ := List.mem_map.mp retired
    cases same

/-- A subscriber that is told of an event, and the world that it finds. -/
structure Telling where
  entry : Subscription
  event : RouteEvent
  found : World

/-- An event that goes out to the subscribers, and the world in which it starts to. -/
structure Moment where
  event : RouteEvent
  start : World

def Moment.subscribed (moment : Moment) (registry : Nat) : List Subscription :=
  (moment.start.mesh.registry registry).subscriptions

namespace World

variable (perform : Performer) (registry : Nat)

/-- How a subscriber took an event, and the world that it left. -/
def outcome (telling : Telling) : Completion × World :=
  notify perform telling.found telling.entry telling.event

/-- Each subscriber finds the world that the one before it has left, even if that one crashed. -/
def Linked : World → List Telling → World → Prop
  | world, [], last => world = last
  | world, telling :: rest, last =>
    telling.found = world ∧ Linked (outcome perform telling).2 rest last

/-- Tells a subscriber of an event and notes it down. Whatever the subscriber does meanwhile, be it
announcements of its own, goes by without a note. -/
def tell (state : World × List Telling) (entry : Subscription) (event : RouteEvent) :
    Completion × World × List Telling :=
  let (completion, next) := notify perform state.1 entry event
  (completion, next, state.2 ++ [⟨entry, event, state.1⟩])

/-- Tells events one after the other, each to the subscribers of its own moment, with notes. -/
def tellAll (events : List RouteEvent) (state : World × List Telling) : World × List Telling :=
  events.foldl (fun state event =>
    announce (tell perform) event (state.1.mesh.registry registry).subscriptions state) state

/-- When each of the events starts to go out. -/
def moments : List RouteEvent → World → List Moment
  | [], _ => []
  | event :: rest, world => ⟨event, world⟩ :: moments rest (dispatch perform registry world event)

variable {perform registry}

/-- Notes change nothing about an announcement. -/
theorem announce_tell (event : RouteEvent) (snapshot : List Subscription) (world : World)
    (past : List Telling) : ∃ told,
      announce (tell perform) event snapshot (world, past) =
          (announce (notify perform) event snapshot world, past ++ told) ∧
        told.map (fun telling => (telling.entry, telling.event)) =
          snapshot.map (fun entry => (entry, event)) ∧
        Linked perform world told (announce (notify perform) event snapshot world) := by
  induction snapshot generalizing world past with
  | nil => exact ⟨[], by simp [announce], rfl, rfl⟩
  | cons entry rest ih =>
    obtain ⟨told, same, listed, linked⟩ :=
      ih (notify perform world entry event).2 (past ++ [⟨entry, event, world⟩])
    refine ⟨⟨entry, event, world⟩ :: told, ?_, ?_, rfl, linked⟩
    · rw [List.append_assoc] at same
      exact same
    · rw [List.map_cons, List.map_cons, listed]

theorem tellAll_eq (events : List RouteEvent) (world : World) (past : List Telling) :
    ∃ told, tellAll perform registry events (world, past) =
          ((dispatchAll perform registry events world).2, past ++ told) ∧
        told.map (fun telling => (telling.entry, telling.event)) =
          (moments perform registry events world).flatMap (fun moment =>
            (moment.subscribed registry).map fun entry => (entry, moment.event)) ∧
        ∀ first, told.head? = some first → first.found = world := by
  induction events generalizing world past with
  | nil => exact ⟨[], by simp [tellAll, dispatchAll], rfl, nofun⟩
  | cons event rest ih =>
    obtain ⟨heard, same, listed, linked⟩ := @announce_tell perform event
      (world.mesh.registry registry).subscriptions world past
    obtain ⟨later, sameLater, listedLater, begunLater⟩ :=
      ih (dispatch perform registry world event) (past ++ heard)
    refine ⟨heard ++ later, ?_, ?_, ?_⟩
    · unfold tellAll at sameLater ⊢
      rw [List.foldl_cons, same, ← List.append_assoc]
      exact sameLater
    · rw [List.map_append, listed, listedLater]
      rfl
    · intro first head
      cases heard with
      | cons telling told =>
        rw [← Option.some.inj head]
        exact linked.1
      | nil =>
        -- Nobody was subscribed, so nothing has happened yet.
        have nobody : (world.mesh.registry registry).subscriptions = [] := by
          cases listing : (world.mesh.registry registry).subscriptions with
          | nil => rfl
          | cons entry others =>
            rw [listing] at listed
            cases listed
        have still : dispatch perform registry world event = world := by
          unfold dispatch
          rw [nobody]
          rfl
        rw [still] at begunLater
        exact begunLater first head

theorem moments_events (events : List RouteEvent) (world : World) :
    (moments perform registry events world).map Moment.event = events := by
  induction events generalizing world with
  | nil => rfl
  | cons event rest ih => exact congrArg (List.cons event) (ih _)

/-- An event counts as heard if there are subscribers when it starts to go out. -/
theorem heard_eq_moments (events : List RouteEvent) (world : World) :
    (dispatchAll perform registry events world).1 =
      ((moments perform registry events world).filter fun moment =>
        !(moment.subscribed registry).isEmpty).map Moment.event := by
  induction events generalizing world with
  | nil => rfl
  | cons event rest ih =>
    have later := ih (dispatch perform registry world event)
    rw [moments, List.filter_cons, dispatchAll]
    dsimp only [Moment.subscribed] at later ⊢
    rw [later]
    by_cases alone : (world.mesh.registry registry).subscriptions.isEmpty = true <;> simp [alone]

/-- So the events heard are those of which somebody is told. -/
theorem mem_heard_iff {events : List RouteEvent} {world : World} {event : RouteEvent} :
    event ∈ (dispatchAll perform registry events world).1 ↔
      ∃ telling ∈ (tellAll perform registry events (world, [])).2, telling.event = event := by
  obtain ⟨told, run, listed, _⟩ := @tellAll_eq perform registry events world []
  have said : told.map Telling.event = (moments perform registry events world).flatMap fun moment =>
      (moment.subscribed registry).map fun _ => moment.event := by
    have seconds := congrArg (List.map Prod.snd) listed
    simpa [List.map_flatMap, Function.comp_def] using seconds
  rw [run, List.nil_append, ← List.mem_map, said, heard_eq_moments]
  simp only [List.mem_map, List.mem_flatMap, List.mem_filter, Bool.not_eq_true',
    List.isEmpty_eq_false_iff_exists_mem]
  constructor
  · rintro ⟨moment, ⟨listed, entry, subscribed⟩, same⟩
    exact ⟨moment, listed, entry, subscribed, same⟩
  · rintro ⟨moment, listed, entry, subscribed, same⟩
    exact ⟨moment, ⟨listed, entry, subscribed⟩, same⟩

/-- How a registry stands in one world and in a later one. -/
def Follows (registry : Nat) (world next : World) : Prop :=
  (world.mesh.registry registry).Evolves (next.mesh.registry registry)

theorem moments_follow (orderly : Orderly perform) (events : List RouteEvent) (world : World) :
    (∀ moment ∈ moments perform registry events world, Follows registry world moment.start ∧
        Follows registry moment.start (dispatchAll perform registry events world).2) ∧
      (moments perform registry events world).Pairwise fun first second =>
        Follows registry first.start second.start := by
  induction events generalizing world with
  | nil => exact ⟨nofun, .nil⟩
  | cons event rest ih =>
    have first : Follows registry world (dispatch perform registry world event) :=
      heeds_dispatchAll orderly registry [event] world registry
    obtain ⟨within, ordered⟩ := ih (dispatch perform registry world event)
    have whole : Follows registry world (dispatchAll perform registry (event :: rest) world).2 :=
      heeds_dispatchAll orderly registry (event :: rest) world registry
    refine ⟨fun moment member => ?_, List.pairwise_cons.mpr ⟨fun moment member => ?_, ordered⟩⟩
    · rcases List.mem_cons.mp member with rfl | later
      · exact ⟨.start, whole⟩
      · exact ⟨first.trans (within moment later).1, (within moment later).2⟩
    · exact first.trans (within moment member).1

/-- A subscriber is told of the events that start to go out while it is subscribed, each once and in
their order, and of no others. -/
structure Hears (registry : Nat) (entry : Subscription) (told : List Telling)
    (early heard late : List Moment) : Prop where
  early : ∀ moment ∈ early, entry ∉ moment.subscribed registry
  subscribed : ∀ moment ∈ heard, entry ∈ moment.subscribed registry
  late : ∀ moment ∈ late, entry ∉ moment.subscribed registry
  told : (told.filter fun telling => telling.entry = entry).map Telling.event =
    heard.map Moment.event

variable {entry : Subscription} {start final : World} {events : List Moment}

/-- From the moment that a subscriber is gone it stays away. -/
theorem stays_away (ordered : events.Pairwise fun first second =>
      Follows registry first.start second.start)
    (follow : ∀ moment ∈ events, Follows registry start moment.start)
    (numbered : (start.mesh.registry registry).Numbered)
    (was : entry ∈ (start.mesh.registry registry).subscriptions) :
    ∃ heard late, events = heard ++ late ∧
      (∀ moment ∈ heard, entry ∈ moment.subscribed registry) ∧
        ∀ moment ∈ late, entry ∉ moment.subscribed registry := by
  induction events generalizing start with
  | nil => exact ⟨[], [], rfl, nofun, nofun⟩
  | cons moment rest ih =>
    obtain ⟨later, orderedRest⟩ := List.pairwise_cons.mp ordered
    have reached := follow moment List.mem_cons_self
    by_cases still : entry ∈ moment.subscribed registry
    · obtain ⟨heard, late, rfl, present, absent⟩ :=
        ih orderedRest later (reached.numbered numbered) still
      exact ⟨moment :: heard, late, rfl, List.forall_mem_cons.mpr ⟨still, present⟩, absent⟩
    · have gone : ∀ other ∈ rest, entry ∉ other.subscribed registry := fun other member =>
        reached.gone (later other member) numbered was still
      exact ⟨[], moment :: rest, rfl, nofun, List.forall_mem_cons.mpr ⟨still, gone⟩⟩

/-- Each subscriber is there for one stretch of the events, which may be all of them or none. -/
theorem one_stretch (ordered : events.Pairwise fun first second =>
      Follows registry first.start second.start)
    (follow : ∀ moment ∈ events, Follows registry start moment.start ∧
      Follows registry moment.start final)
    (numbered : (start.mesh.registry registry).Numbered) (entry : Subscription) :
    ∃ early heard late, events = early ++ heard ++ late ∧
      (∀ moment ∈ early, entry ∉ moment.subscribed registry) ∧
      (∀ moment ∈ heard, entry ∈ moment.subscribed registry) ∧
      (∀ moment ∈ late, entry ∉ moment.subscribed registry) ∧
      (entry ∈ (start.mesh.registry registry).subscriptions → early = []) ∧
      (entry ∈ (final.mesh.registry registry).subscriptions → late = []) := by
  have reach := fun moment member => (follow moment member).1
  -- A handle is not given twice, so who has left does not come back.
  have complete {late : List Moment} {present : World} (there : Follows registry start present)
      (was : entry ∈ (present.mesh.registry registry).subscriptions)
      (after : ∀ moment ∈ late, Follows registry present moment.start ∧
        Follows registry moment.start final)
      (absent : ∀ moment ∈ late, entry ∉ moment.subscribed registry)
      (back : entry ∈ (final.mesh.registry registry).subscriptions) : late = [] := by
    refine List.eq_nil_iff_forall_not_mem.mpr fun moment member => ?_
    obtain ⟨left, ended⟩ := after moment member
    exact left.gone ended (there.numbered numbered) was (absent moment member) back
  by_cases was : entry ∈ (start.mesh.registry registry).subscriptions
  · obtain ⟨heard, late, rfl, present, absent⟩ := stays_away ordered reach numbered was
    refine ⟨[], heard, late, rfl, nofun, present, absent, fun _ => rfl, ?_⟩
    exact complete .start was (fun moment member => follow moment (List.mem_append_right _ member))
      absent
  · -- Not there at the start: the stretch begins at the first event, if any, that finds it there.
    clear reach
    induction events with
    | nil => exact ⟨[], [], [], rfl, nofun, nofun, nofun, fun _ => rfl, fun _ => rfl⟩
    | cons moment rest ih =>
      obtain ⟨later, orderedRest⟩ := List.pairwise_cons.mp ordered
      obtain ⟨reached, ends⟩ := follow moment List.mem_cons_self
      by_cases joined : entry ∈ moment.subscribed registry
      · obtain ⟨heard, late, rfl, present, absent⟩ :=
          stays_away orderedRest later (reached.numbered numbered) joined
        refine ⟨[], moment :: heard, late, rfl, nofun, List.forall_mem_cons.mpr ⟨joined, present⟩,
          absent, fun _ => rfl, complete reached joined (fun other member => ?_) absent⟩
        have listed := List.mem_append_right heard member
        exact ⟨later other listed, (follow other (List.mem_cons_of_mem _ listed)).2⟩
      · obtain ⟨early, heard, late, rfl, before, present, absent, _, ended⟩ :=
          ih orderedRest fun other member => follow other (List.mem_cons_of_mem _ member)
        exact ⟨moment :: early, heard, late, rfl, List.forall_mem_cons.mpr ⟨joined, before⟩,
          present, absent, fun had => (was had).elim, ended⟩

/-- Of one event, those subscribed hear once, and nobody else does. -/
theorem told_once {snapshot : List Subscription} (distinct : snapshot.Nodup) (event : RouteEvent) :
    ((snapshot.map fun other => (other, event)).filter fun telling => telling.1 = entry).map
        Prod.snd =
      if entry ∈ snapshot then [event] else [] := by
  have only : (snapshot.filter fun other => other = entry) =
      if entry ∈ snapshot then [entry] else [] := by
    rw [List.filter_eq, distinct.count]
    split <;> rfl
  rw [List.filter_map, List.map_map]
  show ((snapshot.filter fun other => other = entry).map fun _ => event) = _
  rw [only]
  split <;> rfl

/-- A subscriber is told of an event at each moment that it is subscribed. -/
theorem told_flatMap (distinct : ∀ moment ∈ events, (moment.subscribed registry).Nodup)
    {told : List Telling}
    (listed : told.map (fun telling => (telling.entry, telling.event)) =
      events.flatMap fun moment =>
        (moment.subscribed registry).map fun entry => (entry, moment.event)) :
    (told.filter fun telling => telling.entry = entry).map Telling.event =
      events.flatMap fun moment =>
        if entry ∈ moment.subscribed registry then [moment.event] else [] := by
  have paired : (told.filter fun telling => telling.entry = entry).map Telling.event =
      ((told.map fun telling => (telling.entry, telling.event)).filter
        fun telling => telling.1 = entry).map Prod.snd := by
    rw [List.filter_map, List.map_map]
    rfl
  rw [paired, listed, List.filter_flatMap, List.map_flatMap]
  exact List.flatMap_congr fun moment member => told_once (distinct moment member) moment.event

theorem hears_of_stretch {early heard late : List Moment} {told : List Telling}
    (before : ∀ moment ∈ early, entry ∉ moment.subscribed registry)
    (present : ∀ moment ∈ heard, entry ∈ moment.subscribed registry)
    (after : ∀ moment ∈ late, entry ∉ moment.subscribed registry)
    (said : (told.filter fun telling => telling.entry = entry).map Telling.event =
      (early ++ heard ++ late).flatMap fun moment =>
        if entry ∈ moment.subscribed registry then [moment.event] else []) :
    Hears registry entry told early heard late := by
  have silent {apart : List Moment}
      (absent : ∀ moment ∈ apart, entry ∉ moment.subscribed registry) :
      (apart.flatMap fun moment =>
        if entry ∈ moment.subscribed registry then [moment.event] else []) = [] :=
    List.flatMap_eq_nil_iff.mpr fun moment member => if_neg (absent moment member)
  have each : (heard.flatMap fun moment =>
      if entry ∈ moment.subscribed registry then [moment.event] else []) =
        heard.map Moment.event :=
    (List.flatMap_congr fun moment member => if_pos (present moment member)).trans
      (List.flatMap_pure_eq_map Moment.event heard)
  refine ⟨before, present, after, said.trans ?_⟩
  rw [List.flatMap_append, List.flatMap_append, silent before, silent after, each, List.nil_append,
    List.append_nil]

/-- The call that reports a link as lost, with a note of whom it tells what. -/
structure LossCall where
  report : LossReport
  /-- The world as the loss itself leaves it. -/
  lost : World
  tellings : List Telling
  /-- The world in which the call ends. -/
  after : World

/-- The events that one subscriber is told in a call, in their order. -/
def LossCall.toldTo (call : LossCall) (entry : Subscription) : List RouteEvent :=
  (call.tellings.filter fun telling => telling.entry = entry).map Telling.event

/-- Reports a link as lost, as `loseLink` does, but visits the endpoints in the order given and
notes down whom it tells what. -/
def loseLinkTold (perform : Performer) (world : World) (order : List Nat) (id : Nat)
    (router : Router) (link : Link) (reason : LossReason) : LossCall :=
  let (report, lost, tellings, after) :=
    world.loseLinkBy (fun registry events lost => (tellAll perform registry events (lost, [])).swap)
      order id router link reason
  ⟨report, lost, tellings, after⟩

/-- The events that a loss gives back as heard are those that the call tells somebody. -/
theorem mem_heard_loseLink_iff {world : World} {id : Nat} {router : Router} {link : Link}
    {reason : LossReason} {event : RouteEvent} :
    event ∈ (world.loseLink perform id router link reason).2.1 ↔
      ∃ telling ∈
        (world.loseLinkTold perform router.endpoints.values id router link reason).tellings,
          telling.event = event := by
  unfold loseLink loseLinkTold loseLinkBy
  exact mem_heard_iff

/-- The events of a call, each with the world in which it starts to go out. -/
def LossCall.moments (call : LossCall) (perform : Performer) (registry : Nat)
    (reason : LossReason) : List Moment :=
  World.moments perform registry (call.report.events reason) call.lost

/-- Subscribers are told what the report says, and only once all of it is done. -/
structure Announced (perform : Performer) (world : World) (id : Nat) (router : Router) (link : Link)
    (reason : LossReason) (call : LossCall) : Prop where
  effect : Mesh.LossEffect world.mesh id router link call.report call.lost.mesh
  begun : ∀ first, call.tellings.head? = some first → first.found = call.lost
  events : (call.moments perform router.registry reason).map Moment.event =
    call.report.lost.map (fun lost => .sessionLost lost.1 lost.2 reason) ++
      call.report.retired.map .retired
  distinct : (call.report.events reason).Nodup
  /-- An event goes to all that are subscribed when it starts to, oldest first. -/
  tellings : call.tellings.map (fun telling => (telling.entry, telling.event)) =
    (call.moments perform router.registry reason).flatMap fun moment =>
      (moment.subscribed router.registry).map fun entry => (entry, moment.event)
  /-- Whoever is there before the call misses nothing before it goes, and whoever is there after the
  call misses nothing once it has come. -/
  heard : ∀ entry, ∃ early heard late,
    call.moments perform router.registry reason = early ++ heard ++ late ∧
      Hears router.registry entry call.tellings early heard late ∧
      (entry ∈ (world.mesh.registry router.registry).subscriptions → early = []) ∧
      (entry ∈ (call.after.mesh.registry router.registry).subscriptions → late = [])

section Call

variable {perform : Performer} {world : World} {id : Nat} {router : Router} {link : Link}
  {order : List Nat}

theorem announced {handles : Prop} (reach : Mesh.Reach handles world.mesh)
    (history : Registry.empty.Evolves (world.mesh.registry router.registry))
    (atId : world.mesh.router? id = some router) (orderly : Orderly perform)
    (permuted : order.Perm router.endpoints.values) (link : Link) (reason : LossReason) :
    Announced perform world id router link reason
      (world.loseLinkTold perform order id router link reason) := by
  have effect := ((reach.next (.holdRouter id)).lossEffect atId permuted link).unheld
  obtain ⟨touches, _⟩ :=
    Mesh.foldl_loseAt_touches id link order (.empty, world.mesh.holdRouter id)
  -- The visits themselves do not come near the registry. Only what is told changes it.
  have same : ((world.mesh.holdRouter id).loseLinkIn order id link).2.registry router.registry =
      world.mesh.registry router.registry :=
    Mesh.registry_of_registries touches.registries router.registry
  unfold loseLinkTold loseLinkBy
  generalize (world.mesh.holdRouter id).loseLinkIn order id link = ended at *
  obtain ⟨report, mesh⟩ := ended
  dsimp only at effect same ⊢
  obtain ⟨tellings, run, listed, begun⟩ := @tellAll_eq perform router.registry
    (report.events reason) (world.withMesh mesh) []
  rw [run, List.nil_append]
  obtain ⟨within, ordered⟩ :=
    @moments_follow perform router.registry orderly (report.events reason) (world.withMesh mesh)
  have numbered : ((world.withMesh mesh).mesh.registry router.registry).Numbered := by
    show (mesh.registry router.registry).Numbered
    rw [same]
    exact history.numbered Registry.numbered_empty
  have events := @moments_events perform router.registry (report.events reason)
    (world.withMesh mesh)
  have distinct := report.nodup_events effect.lostOnce effect.retiredOnce reason
  refine ⟨effect, begun, events, distinct, listed, fun entry => ?_⟩
  · obtain ⟨early, heard, late, whole, before, present, after, first, last⟩ :=
      one_stretch ordered within numbered entry
    have said := @told_flatMap router.registry entry _
      (fun moment member => ((within moment member).1.numbered numbered).nodup) tellings listed
    rw [whole] at said
    refine ⟨early, heard, late, whole, hears_of_stretch before present after said, fun was => ?_,
      fun still => ?_⟩
    · refine first ?_
      show entry ∈ (mesh.registry router.registry).subscriptions
      rw [same]
      exact was
    · refine last ?_
      rw [← Mesh.registry_of_registries (Mesh.registries_letGoRouter _ id)]
      exact still

/-- Taking notes changes nothing about how a call ends. -/
theorem loseLinkTold_after (perform : Performer) (world : World) (order : List Nat) (id : Nat)
    (router : Router) (link : Link) (reason : LossReason) :
    (world.loseLinkTold perform order id router link reason).after =
      (world.loseLinkBy (dispatchAll perform) order id router link reason).2.2.2 := by
  unfold loseLinkTold loseLinkBy
  generalize (world.mesh.holdRouter id).loseLinkIn order id link = ended
  obtain ⟨report, mesh⟩ := ended
  obtain ⟨_, run, _⟩ := @tellAll_eq perform router.registry (report.events reason)
    (world.withMesh mesh) []
  dsimp only
  rw [run]
  rfl

theorem loseLink_told (perform : Performer) (world : World) (id : Nat) (router : Router)
    (link : Link) (reason : LossReason) :
    (world.loseLink perform id router link reason).1 =
        (world.loseLinkTold perform router.endpoints.values id router link reason).report ∧
      (world.loseLink perform id router link reason).2.2 =
        (world.loseLinkTold perform router.endpoints.values id router link reason).after :=
  ⟨rfl, (loseLinkTold_after perform world router.endpoints.values id router link reason).symm⟩

/-- Whoever is subscribed before the call and after it is told everything. -/
theorem Announced.toldTo_eq {reason : LossReason} {call : LossCall}
    (announced : Announced perform world id router link reason call) {entry : Subscription}
    (was : entry ∈ (world.mesh.registry router.registry).subscriptions)
    (still : entry ∈ (call.after.mesh.registry router.registry).subscriptions) :
    call.toldTo entry = call.report.events reason := by
  obtain ⟨early, heard, late, whole, hears, first, last⟩ := announced.heard entry
  obtain rfl := first was
  obtain rfl := last still
  rw [List.nil_append, List.append_nil] at whole
  have events := announced.events
  rw [whole] at events
  exact hears.told.trans events

end Call

end World

/-- The subscribers of a router hear of a lost link what its report says, whatever they do about it
and in whatever order the endpoints are visited. -/
theorem link_loss_announced :
    (∀ (handles : Prop) (world : World) (id : Nat) (router : Router) (perform : Performer)
        (order : List Nat), Mesh.Reach handles world.mesh →
      Registry.empty.Evolves (world.mesh.registry router.registry) →
        world.mesh.router? id = some router → World.Orderly perform →
          order.Perm router.endpoints.values → ∀ (link : Link) (reason : LossReason),
            World.Announced perform world id router link reason
              (world.loseLinkTold perform order id router link reason)) ∧
      (∀ (world : World) (id : Nat) (router : Router) (perform : Performer) (link : Link)
          (reason : LossReason),
        (world.loseLink perform id router link reason).1 =
            (world.loseLinkTold perform router.endpoints.values id router link reason).report ∧
          (world.loseLink perform id router link reason).2.2 =
            (world.loseLinkTold perform router.endpoints.values id router link reason).after) ∧
        (∀ depth, World.Orderly (World.performNested depth)) ∧
          ∀ (handles : Prop) (world : World), World.Run handles world →
            Mesh.Reach handles world.mesh ∧
              ∀ number, Registry.empty.Evolves (world.mesh.registry number) :=
  ⟨fun _ _ _ _ _ _ reach history atId orderly permuted =>
      World.announced reach history atId orderly permuted,
    fun world id router perform => world.loseLink_told perform id router,
    World.orderly_nested, fun _ _ run => ⟨run.sound.reached, run.registries⟩⟩

namespace World

/-- Two subscribers: at the first event, the elder has a third one take the place of the younger,
which crashes. -/
def restless : World where
  mesh := { Mesh.twiceBound with registries := [⟨2, [⟨0, 0⟩, ⟨1, 1⟩]⟩] }
  carriers := []
  subscribers :=
    [⟨"elder", [[.events "events" (.unsubscribe "younger"), .subscribe "events" "third" [] false]],
      false⟩, ⟨"younger", [], true⟩]
  labels :=
    { Labels.empty with
      registries := ⟨[("events", 0)]⟩
      subscriptions := ⟨[("elder", 0), ("younger", 1)]⟩ }
  trace := []

end World

/-- The elder hears of the lost session and of the retirement, the younger of the session only, and
the third of the retirement only. -/
theorem link_loss_announced_restless : ∃ call : World.LossCall,
    World.Announced (World.performNested 0) World.restless 0 Mesh.sampleRouter Mesh.sampleLink
        .linkTimeout call ∧
      call.tellings.map (fun telling => (telling.entry.handle, telling.event)) =
        [(0, .sessionLost ":b.5" ⟨7⟩ .linkTimeout), (1, .sessionLost ":b.5" ⟨7⟩ .linkTimeout),
          (0, .retired ":b.5"), (2, .retired ":b.5")] := by
  have reach : Mesh.Reach True World.restless.mesh :=
    .next (Mesh.reach_twiceBound True) (.setRegistry 0 ⟨2, [⟨0, 0⟩, ⟨1, 1⟩]⟩)
  have history : Registry.empty.Evolves (World.restless.mesh.registry 0) :=
    (Registry.Evolves.start.subscribe 0).subscribe 1
  have announced := link_loss_announced.1 True World.restless 0 Mesh.sampleRouter _ [0] reach
    history rfl (link_loss_announced.2.2.1 0) (List.Perm.refl _) Mesh.sampleLink .linkTimeout
  exact ⟨_, announced, rfl⟩

end DaemonMesh
