import DaemonMesh.Proofs.Bystanders
import DaemonMesh.Proofs.LossAnnouncements
import DaemonMesh.Proofs.Mirror
import DaemonMesh.Proofs.ServedRequests

namespace DaemonMesh

/-- Requests that leave a router where it is. -/
def RouterRequest.Stays : RouterRequest → Prop
  | .new _ | .drop => False
  | _ => True

/-- What is noted of a request that is answered so. -/
def Mirror.note (mirror : Mirror) : RouterRequest → Outcome → Mirror
  | .add name _ _, .answer _ => mirror.add name
  | .bind name session _, .answer _ => mirror.settle name session (· + 1)
  | .unbind name session, .answer (.flag true) => mirror.settle name session (· - 1)
  | _, _ => mirror

namespace Mesh

variable {id target : Nat} {mesh next : Mesh} {router : Router} {name : String}
  {endpoint : Endpoint} {session : SessionId} {mirror : Mirror}

theorem Undisturbed.mirrored (undisturbed : Undisturbed id mesh next)
    (atId : mesh.router? id = some router) (mirrored : mesh.Mirrored router mirror) :
    next.Mirrored router mirror where
  ascending := mirrored.ascending
  names := mirrored.names
  noted name target endpoint present := by
    rw [undisturbed.lookup atId] at present
    exact mirrored.noted name target endpoint present

/-- A router with a handle left stays as it is noted. -/
theorem Mirrored.letGoRouter (mirrored : mesh.Mirrored router mirror)
    (remaining : id ∈ mesh.routerHandles.erase id) (atId : mesh.router? id = some router) :
    id ∈ (mesh.letGoRouter id).routerHandles ∧ (mesh.letGoRouter id).router? id = some router ∧
      (mesh.letGoRouter id).Mirrored router mirror := by
  rw [letGoRouter_held remaining]
  exact ⟨remaining, atId, mirrored.ascending, mirrored.names, mirrored.noted⟩

/-- A binding is there to be taken away just if there is one at all. -/
theorem unbind_flag (mesh : Mesh) (target : Nat) (endpoint : Endpoint)
    (nonzero : session ≠ .direct) :
    ∃ unbound next, mesh.unbind target endpoint session = .ok (unbound, next) ∧
      (unbound = true ↔ 0 < (endpoint.routes.candidates session).length) := by
  rw [← RouteTable.unbind?_isSome, unbind_eq mesh target endpoint nonzero]
  cases endpoint.routes.unbind? session with
  | none => exact ⟨_, _, rfl, by simp⟩
  | some removed => exact ⟨_, _, rfl, by simp⟩

end Mesh

namespace World

/-- What a subscriber is told during a request of a router. Only losses are told of. -/
def toldBy (perform : Performer) (entry : Subscription) (world : World) (label : String) :
    RouterRequest → List RouteEvent
  | .lost link reason =>
    match world.routerAt label, world.labels.links.find? link with
    | some (id, router), some link =>
      (world.loseLinkTold perform router.endpoints.values id router link reason).toldTo entry
    | _, _ => []
  | _ => []

/-- Runs of a router with the default selector, from one without any endpoints on, and what a
subscriber makes of them: of what it is told, and of how the requests end that make names reachable,
bind sessions and take bindings away. A lost link may be taken from the endpoints in any order. In
between, others may do what they like as long as they leave the router's endpoints to the router,
tell nothing in its place, and nobody comes to listen who would call back into it. -/
inductive Mirrors (calm : World → Prop) (id registry : Nat) (entry : Subscription) :
    World → Mirror → Prop
  | start {world : World} {router : Router} (sound : world.Sound True)
      (history : Registry.empty.Evolves (world.mesh.registry registry)) (quiet : calm world)
      (held : id ∈ world.mesh.routerHandles) (atId : world.mesh.router? id = some router)
      (bare : router.endpoints = .empty) (default : router.selector = .firstAvailable)
      (told : router.registry = registry) : Mirrors calm id registry entry world .empty
  | request {world : World} {mirror : Mirror} {perform : Performer} {label : String}
      {request : RouterRequest} (run : Mirrors calm id registry entry world mirror)
      (attentive : Attentive perform calm id registry entry)
      (atLabel : world.labels.routers.find? label = some id) (stays : request.Stays) :
      Mirrors calm id registry entry (world.performRouter perform label request).2
        ((world.toldBy perform entry label request).foldl Mirror.hear
          (mirror.note request (world.performRouter perform label request).1))
  | lose {world : World} {mirror : Mirror} {perform : Performer} {router : Router}
      {order : List Nat} (run : Mirrors calm id registry entry world mirror)
      (attentive : Attentive perform calm id registry entry)
      (atId : world.mesh.router? id = some router) (visits : order.Perm router.endpoints.values)
      (link : Link) (reason : LossReason) :
      Mirrors calm id registry entry (world.loseLinkTold perform order id router link reason).after
        (((world.loseLinkTold perform order id router link reason).toldTo entry).foldl Mirror.hear
          mirror)
  | aside {world : World} {mirror : Mirror} {perform : Performer} {step : Step}
      (run : Mirrors calm id registry entry world mirror)
      (attentive : Attentive perform calm id registry entry) (allowed : step.Allowed True)
      (bystands : step.Bystands world id registry)
      (quiet : calm (world.performStep perform step).2) :
      Mirrors calm id registry entry (world.performStep perform step).2 mirror
  | anew {world : World} {mirror : Mirror} {perform : Performer}
      (run : Mirrors calm id registry entry world mirror)
      (attentive : Attentive perform calm id registry entry) :
      Mirrors calm id registry entry { world with trace := [] } mirror

/-- What holds of the router in between any two steps of a run. -/
structure Tracked (calm : World → Prop) (id registry : Nat) (world : World) (router : Router)
    (mirror : Mirror) : Prop where
  quiet : calm world
  held : id ∈ world.mesh.routerHandles
  atId : world.mesh.router? id = some router
  default : router.selector = .firstAvailable
  told : router.registry = registry
  mirrored : world.mesh.Mirrored router mirror

variable {perform : Performer} {calm : World → Prop} {id registry : Nat} {entry : Subscription}
  {world next : World} {mirror changed : Mirror} {router : Router}

theorem Tracked.passes (tracked : Tracked calm id registry world router mirror)
    (passes : Passes calm id world next) : Tracked calm id registry next router mirror where
  quiet := passes.quiet
  held := passes.spares.held tracked.held
  atId := passes.spares.router.trans tracked.atId
  default := tracked.default
  told := tracked.told
  mirrored := passes.spares.mirrored tracked.atId tracked.mirrored

section Steps

variable (attentive : Attentive perform calm id registry entry) (sound : world.Sound True)
  (tracked : Tracked calm id registry world router mirror)
include attentive sound tracked

omit sound in
theorem Tracked.goOn {mesh : Mesh} {endpoints : OrderedMap String Nat}
    (registries : mesh.registries = world.mesh.registries)
    (handles : mesh.routerHandles = world.mesh.routerHandles)
    (atId : mesh.router? id = some { router with endpoints })
    (mirrored : mesh.Mirrored { router with endpoints } changed) :
    Tracked calm id registry (world.withMesh mesh) { router with endpoints } changed where
  quiet := attentive.withMesh tracked.quiet registries
  held := handles ▸ tracked.held
  atId := atId
  default := tracked.default
  told := tracked.told
  mirrored := mirrored

theorem Tracked.reaches (name : String) (link : Link) :
    ∃ left, Tracked calm id registry (world.withMesh (world.mesh.reach id router name link).2)
      left (mirror.add name) := by
  obtain ⟨endpoints, atAfter, mirrored⟩ :=
    tracked.mirrored.reach sound.reached.registered tracked.atId name link
  obtain ⟨registries, handles⟩ := world.mesh.registries_reach id _ name link
  exact ⟨_, tracked.goOn attentive registries handles atAfter mirrored⟩

/-- A call that binds a session counts one binding more if it succeeds. -/
theorem Tracked.binds {name : String} {target : Nat} {endpoint : Endpoint}
    (present : world.mesh.lookup router name = some (target, endpoint)) (session : SessionId)
    (opts : Option SessionOpts) :
    Tracked calm id registry (world.bindBest target endpoint session opts).2 router
      (mirror.noteBinding name session (world.bindBest target endpoint session opts).1) := by
  have registered := sound.reached.registered
  have default : endpoint.selector = .firstAvailable := by
    obtain ⟨found, there⟩ := Mesh.lookup_eq_some.mp present
    obtain ⟨other, alsoThere, _, selector⟩ :=
      registered.known id router name target tracked.atId found
    rw [Option.some.inj (there.symm.trans alsoThere), selector, tracked.default]
  unfold bindBest witnessSelection
  rw [default]
  dsimp only [Selector.choose]
  cases call : world.mesh.bindChosen target endpoint session
      (Selector.chooseFirst endpoint.routes session) with
  | error failure => exact tracked
  | ok bound =>
    obtain ⟨link, next⟩ := bound
    have mirrored := tracked.mirrored.bind registered tracked.atId present call
    obtain ⟨_, after, _, rfl⟩ := Mesh.bindChosen_ok call
    exact tracked.goOn attentive rfl rfl tracked.atId mirrored

theorem Tracked.unbinds {name : String} {target : Nat} {endpoint : Endpoint} {session : SessionId}
    {unbound : Bool} {mesh : Mesh}
    (present : world.mesh.lookup router name = some (target, endpoint))
    (call : world.mesh.unbind target endpoint session = .ok (unbound, mesh)) :
    Tracked calm id registry (world.withMesh mesh) router
      (if unbound then mirror.settle name session (· - 1) else mirror) := by
  have mirrored := tracked.mirrored.unbind sound.reached.registered tracked.atId present call
  rcases Mesh.unbind_ok call with ⟨_, rfl⟩ | ⟨_, freed, after, _, released⟩
  · exact tracked.goOn attentive rfl rfl tracked.atId mirrored
  · obtain ⟨counts, overdrawn, frame, _⟩ :=
      (world.mesh.setEndpoint target after).releaseAll_frame [freed]
    have shape := released.trans frame
    rw [shape] at mirrored ⊢
    exact tracked.goOn attentive rfl rfl tracked.atId mirrored

/-- The subscriber is there from before the loss until all is told, so it is told the whole report.
The router is held during the call, so it is there as long, and afterwards as well. -/
theorem Tracked.loses {order : List Nat}
    (history : Registry.empty.Evolves (world.mesh.registry registry))
    (visits : order.Perm router.endpoints.values) (link : Link) (reason : LossReason) : ∃ left,
      Tracked calm id registry (world.loseLinkTold perform order id router link reason).after left
        (((world.loseLinkTold perform order id router link reason).toldTo entry).foldl Mirror.hear
          mirror) := by
  rw [← tracked.told] at history
  have announced := world.announced sound.reached history tracked.atId attentive.orderly visits link
    reason
  have after := loseLinkTold_after perform world order id router link reason
  have reachHeld := sound.reached.next (.holdRouter id)
  have stillAt : (world.mesh.holdRouter id).router? id = some router := tracked.atId
  have mirroredHeld : (world.mesh.holdRouter id).Mirrored router mirror :=
    ⟨tracked.mirrored.ascending, tracked.mirrored.names, tracked.mirrored.noted⟩
  obtain ⟨endpoints, remains, mirrored⟩ :=
    mirroredHeld.lose reachHeld.accounted reachHeld.registered stillAt visits link reason
  obtain ⟨_, frame⟩ := reachHeld.accounted.loseLinkIn reachHeld.registered stillAt visits link
  have registries :=
    (Mesh.foldl_loseAt_touches id link order (.empty, world.mesh.holdRouter id)).1.registries
  -- All events are told in the state that the loss has left, and the notes are on it already.
  have told := passes_dispatchAll attentive (sound.lost tracked.atId visits link)
    (attentive.withMesh tracked.quiet registries) router.registry
    (((world.mesh.holdRouter id).loseLinkIn order id link).1.events reason)
  have remaining := Mesh.held_beyond tracked.held frame.routerHandles told.spares.handles
  have atTold := told.spares.router.trans remains
  have mirroredTold := told.spares.mirrored remains mirrored
  have quiet := attentive.withMesh told.quiet (Mesh.registries_letGoRouter _ id)
  have was := attentive.listens world tracked.quiet
  have still := attentive.listens _ quiet
  rw [← tracked.told] at was still
  rw [announced.toldTo_eq was (after ▸ still), after]
  obtain ⟨held, atAfter, mirroredAfter⟩ := mirroredTold.letGoRouter remaining atTold
  exact ⟨{ router with endpoints }, quiet, held, atAfter, tracked.default, tracked.told,
    mirroredAfter⟩

/-- A name that is not registered fails a request, and then nothing changes and nothing is noted. -/
theorem Tracked.asksBind {label : String} (found : world.routerAt label = some (id, router))
    (name : String) (session : SessionId) (opts : Option SessionOpts) :
    Tracked calm id registry
      (world.performRouter perform label (.bind name session opts)).2 router
      (mirror.note (.bind name session opts)
        (world.performRouter perform label (.bind name session opts)).1) := by
  rw [performRouter, withRouter_eq found]
  cases present : world.mesh.lookup router name with
  | none =>
    unfold Mesh.lookupOrFail
    rw [present]
    exact tracked
  | some place =>
    have bound := tracked.binds attentive sound present session opts
    rw [Mesh.lookupOrFail_of_lookup present]
    dsimp only
    generalize world.bindBest place.1 place.2 session opts = ended at *
    obtain ⟨result, after⟩ := ended
    cases result <;> exact bound

/-- A binding is struck from the notes only if the call says that it is gone. -/
theorem Tracked.asksUnbind {label : String} (found : world.routerAt label = some (id, router))
    (name : String) (session : SessionId) :
    Tracked calm id registry (world.performRouter perform label (.unbind name session)).2 router
      (mirror.note (.unbind name session)
        (world.performRouter perform label (.unbind name session)).1) := by
  rw [performRouter, withRouter_eq found]
  cases present : world.mesh.lookup router name with
  | none =>
    unfold Mesh.lookupOrFail
    rw [present]
    exact tracked
  | some place =>
    rw [Mesh.lookupOrFail_of_lookup present]
    show Tracked calm id registry (world.flagOutcome ((world.mesh.unbind place.1 place.2
      session).mapError Failure.fromRouter)).2 router (mirror.note (.unbind name session)
        (world.flagOutcome ((world.mesh.unbind place.1 place.2 session).mapError
          Failure.fromRouter)).1)
    cases call : world.mesh.unbind place.1 place.2 session with
    | error failure => exact tracked
    | ok ended =>
      have taken := tracked.unbinds attentive sound present call
      obtain ⟨unbound, after⟩ := ended
      cases unbound <;> exact taken

/-- A request of the router leaves the notes in agreement with it. -/
theorem Tracked.requested {label : String} {request : RouterRequest}
    (history : Registry.empty.Evolves (world.mesh.registry registry))
    (atLabel : world.labels.routers.find? label = some id) (stays : request.Stays) : ∃ left,
      Tracked calm id registry (world.performRouter perform label request).2 left
        ((world.toldBy perform entry label request).foldl Mirror.hear
          (mirror.note request (world.performRouter perform label request).1)) := by
  have found := routerAt_eq_some.mpr ⟨atLabel, tracked.atId⟩
  cases request with
  | new | drop => exact stays.elim
  | openQueue other name guid =>
    rw [performRouter, withRouter_eq found]
    refine ⟨router, ?_⟩
    exact tracked.passes (attentive.passes_openQueue tracked.quiet other name guid _)
  | add name other keepAs =>
    rw [performRouter, withRouter_eq found]
    unfold withLink
    split
    · exact ⟨router, tracked⟩
    · next link _ =>
      obtain ⟨left, reached⟩ := tracked.reaches attentive sound name link
      exact ⟨left, reached.passes (attentive.passes_keep reached.quiet _ keepAs)⟩
  | get name keepAs =>
    rw [performRouter, withRouter_eq found]
    cases present : world.mesh.lookup router name with
    | none => exact ⟨router, tracked⟩
    | some place => exact ⟨router, tracked.passes (attentive.passes_keep tracked.quiet _ keepAs)⟩
  | route name message =>
    rw [performRouter, withRouter_eq found]
    exact ⟨router, tracked.passes (passes_route attentive sound tracked.quiet tracked.atId
      tracked.held id router name message)⟩
  | bind name session opts =>
    exact ⟨router, tracked.asksBind attentive sound found name session opts⟩
  | unbind name session => exact ⟨router, tracked.asksUnbind attentive sound found name session⟩
  | lost other reason =>
    rw [performRouter, withRouter_eq found]
    dsimp only [withLink, toldBy]
    rw [found]
    cases named : world.labels.links.find? other with
    | none => exact ⟨router, tracked⟩
    | some link =>
      have lost := tracked.loses attentive sound history (List.Perm.refl _) link reason
      rw [← (loseLink_told perform world id router link reason).2] at lost
      exact lost
  | unreachable | info =>
    rw [performRouter, withRouter_eq found]
    exact ⟨router, tracked⟩

end Steps

theorem Mirrors.tracked (run : Mirrors calm id registry entry world mirror) :
    world.Sound True ∧ Registry.empty.Evolves (world.mesh.registry registry) ∧
      ∃ router, Tracked calm id registry world router mirror := by
  induction run with
  | start sound history quiet held atId bare default told =>
    exact ⟨sound, history, _, quiet, held, atId, default, told, Mesh.mirrored_empty _ bare⟩
  | @request world _ _ label request run attentive atLabel stays ih =>
    obtain ⟨sound, history, router, tracked⟩ := ih
    exact ⟨sound_performRouter attentive.performs sound request,
      history.trans
        (keeps_performRouter tracks_registries attentive.orderly world label request registry),
      tracked.requested attentive sound history atLabel stays⟩
  | @lose world _ perform router order run attentive atId visits link reason ih =>
    obtain ⟨sound, history, current, tracked⟩ := ih
    obtain rfl := Option.some.inj (atId.symm.trans tracked.atId)
    refine ⟨?_, ?_, tracked.loses attentive sound history visits link reason⟩
    · rw [loseLinkTold_after]
      exact sound.loseLinkBy (fun number events _ lost =>
        lost.dispatchAll attentive.performs number events) atId visits link reason
    · rw [loseLinkTold_after]
      exact history.trans (keeps_loseLinkBy tracks_registries attentive.orderly world order id
        router link reason registry)
  | @aside world _ perform step run attentive allowed bystands quiet ih =>
    obtain ⟨sound, history, router, tracked⟩ := ih
    have spares :=
      spares_performStep attentive sound tracked.quiet tracked.atId tracked.held bystands
    exact ⟨sound_performStep attentive.performs sound allowed,
      history.trans (keeps_performStep tracks_registries attentive.orderly world step registry),
      router, tracked.passes ⟨quiet, spares⟩⟩
  | @anew world _ _ run attentive ih =>
    obtain ⟨sound, history, router, tracked⟩ := ih
    have quiet := attentive.goesOn world { world with trace := [] } tracked.quiet
      ⟨rfl, rfl, rfl, rfl, rfl, fun _ member => Or.inl member⟩
    exact ⟨⟨sound.reached, sound.labelled, sound.carried, sound.subscribed⟩, history, router,
      tracked.passes ⟨quiet, Mesh.undisturbed_self id _⟩⟩

/-- A subscriber that listens, and nobody that has a script. -/
structure Listening (registry : Nat) (entry : Subscription) (world : World) : Prop where
  subscribers : ∀ subscriber ∈ world.subscribers, subscriber.scripts = []
  carriers : ∀ carrier ∈ world.carriers, carrier.scripts = []
  subscribed : entry ∈ (world.mesh.registry registry).subscriptions

/-- A link without scripts takes the message or does not, and that is all. -/
theorem push_scriptless (perform : Performer)
    (scriptless : ∀ carrier ∈ world.carriers, carrier.scripts = []) (link : Link)
    (message : Message) : ∃ carriers trace,
      (world.push perform link message).2 = { world with carriers, trace } ∧
        ∀ carrier ∈ carriers, carrier.scripts = [] := by
  unfold push
  split
  · exact ⟨_, _, rfl, scriptless⟩
  · split
    · exact ⟨_, _, rfl, scriptless⟩
    · refine ⟨_, _, rfl, fun carrier member => ?_⟩
      rcases List.mem_or_eq_of_mem_set member with old | rfl
      · exact scriptless carrier old
      · rfl
  · next plan found =>
    have none : plan.scripts = [] := scriptless _ (List.mem_of_getElem? found)
    dsimp only
    split
    · exact ⟨_, _, rfl, scriptless⟩
    · next waiting =>
      rw [none] at waiting
      cases waiting

/-- Where nobody has a script, nobody calls back. -/
theorem attentive_of_listening (performs : Performs True perform) (orderly : Orderly perform)
    (id registry : Nat) (entry : Subscription) :
    Attentive perform (Listening registry entry) id registry entry where
  performs := performs
  orderly := orderly
  listens _ quiet := quiet.subscribed
  hears world other event _ quiet := by
    obtain ⟨trace, noted⟩ := notify_scriptless perform quiet.subscribers other event
    rw [noted]
    exact ⟨⟨quiet.subscribers, quiet.carriers, quiet.subscribed⟩, Mesh.undisturbed_self id _⟩
  hands world link message _ quiet := by
    obtain ⟨carriers, trace, handed, scriptless⟩ :=
      push_scriptless perform quiet.carriers link message
    rw [handed]
    exact ⟨⟨quiet.subscribers, scriptless, quiet.subscribed⟩, Mesh.undisturbed_self id _⟩
  goesOn world next quiet same := by
    refine ⟨?_, fun carrier member => ?_, ?_⟩
    · rw [same.subscribers]
      exact quiet.subscribers
    · rcases same.carriers carrier member with old | scriptless
      · exact quiet.carriers carrier old
      · exact scriptless
    · rw [Mesh.registry_of_registries same.registries]
      exact quiet.subscribed

end World

/-- What a subscriber notes of a router is what the router has. -/
theorem subscriber_mirrors_router {calm : World → Prop} {id registry : Nat} {entry : Subscription}
    {world : World} {mirror : Mirror} (run : World.Mirrors calm id registry entry world mirror) :
    ∃ router, world.mesh.router? id = some router ∧ mirror.keys = router.names ∧
      ∀ name ∈ router.names, ∃ target endpoint,
        world.mesh.lookup router name = some (target, endpoint) ∧
          ∀ session, session ≠ .direct →
            mirror.count name session = (endpoint.routes.firstBound session).2 ∧
              ∃ unbound next, world.mesh.unbind target endpoint session = .ok (unbound, next) ∧
                (unbound = true ↔ 0 < mirror.count name session) := by
  obtain ⟨sound, _, router, tracked⟩ := run.tracked
  have registered := sound.reached.registered
  have sorted := registered.sorted id router tracked.atId
  refine ⟨router, tracked.atId, tracked.mirrored.keys_eq sorted, fun name member => ?_⟩
  obtain ⟨target, found⟩ := Option.isSome_iff_exists.mp (sorted.mem_keys_iff.mp member)
  obtain ⟨endpoint, present⟩ := registered.lookup_of_find tracked.atId found
  refine ⟨target, endpoint, present, fun session nonzero => ?_⟩
  have counted := (tracked.mirrored.noted name target endpoint present).counted session nonzero
  rw [counted]
  exact ⟨rfl, Mesh.unbind_flag world.mesh target endpoint nonzero⟩

namespace World

/-- A router without endpoints that can be reached over two links, and its one subscriber. -/
def watched : World where
  mesh :=
    { links := [Mesh.sampleLink, Mesh.spareLink]
      counts := [0, 0]
      overdrawn := []
      tables := []
      endpoints := []
      endpointHandles := []
      routers := [some ⟨.empty, .firstAvailable, 0, .default⟩]
      routerHandles := [0]
      registries := [⟨1, [⟨0, 0⟩]⟩] }
  carriers := [.queue (.opened 2), .queue (.opened 2)]
  subscribers := [⟨"watch", [], false⟩]
  labels :=
    { Labels.empty with
      links := ⟨[("first", Mesh.sampleLink), ("second", Mesh.spareLink)]⟩
      routers := ⟨[("router", 0)]⟩ }
  trace := []

theorem sound_watched : watched.Sound True where
  reached := by
    have first : Mesh.Reach True _ := .next .start (.openLink ":b.1" (.replicate 1))
    have spare : Mesh.Reach True _ := .next first (.openLink ":b.2" (.replicate 1))
    have shared : Mesh.Reach True _ := .next spare .newRegistry
    have made : Mesh.Reach True _ := .next shared (.newRouter .firstAvailable 0 .default)
    have held : Mesh.Reach True _ := .next made (.holdRouter 0)
    exact .next held (.setRegistry 0 ⟨1, [⟨0, 0⟩]⟩)
  labelled label link found := by
    have listed := OrderedMap.mem_of_lookup found
    simp only [watched, List.mem_cons, Prod.mk.injEq, List.not_mem_nil, or_false] at listed ⊢
    exact listed.imp And.right And.right
  carried carrier member := by
    simp only [watched, List.mem_cons, List.not_mem_nil, or_false, or_self] at member
    rw [member]
    trivial
  subscribed subscriber member := by
    rw [List.mem_singleton.mp member]
    trivial

theorem listening_watched : Listening 0 ⟨0, 0⟩ watched where
  subscribers subscriber member := by rw [List.mem_singleton.mp member]
  carriers carrier member := by
    simp only [watched, List.mem_cons, List.not_mem_nil, or_false, or_self] at member
    rw [member]
    rfl
  subscribed := List.mem_singleton_self _

end World

/-- A session bound twice is lost with its link, bound twice again over another one, and unbound
once. Meanwhile a message goes out and a link is opened. -/
theorem subscriber_mirrors_router_rebound :
    ∃ (world : World) (mirror : Mirror) (router : Router) (target : Nat) (endpoint : Endpoint)
        (next : Mesh),
      World.Mirrors (World.Listening 0 ⟨0, 0⟩) 0 0 ⟨0, 0⟩ world mirror ∧
        world.mesh.router? 0 = some router ∧ mirror.keys = router.names ∧
          router.names = [":b.5"] ∧
            world.mesh.lookup router ":b.5" = some (target, endpoint) ∧
              endpoint.routes.firstBound ⟨7⟩ = (some Mesh.spareLink, 1) ∧
                mirror.count ":b.5" ⟨7⟩ = 1 ∧
                  world.mesh.unbind target endpoint ⟨7⟩ = .ok (true, next) := by
  have attentive := World.attentive_of_listening (World.performs_nested True 0)
    (World.orderly_nested 0) 0 0 ⟨0, 0⟩
  have history : Registry.empty.Evolves (World.watched.mesh.registry 0) :=
    Registry.Evolves.start.subscribe 0
  have start : World.Mirrors (World.Listening 0 ⟨0, 0⟩) 0 0 ⟨0, 0⟩ World.watched .empty :=
    .start World.sound_watched history World.listening_watched (List.mem_singleton_self _) rfl rfl
      rfl rfl
  have asked {world : World} {mirror : Mirror} (request : RouterRequest)
      (run : World.Mirrors (World.Listening 0 ⟨0, 0⟩) 0 0 ⟨0, 0⟩ world mirror)
      (atLabel : world.labels.routers.find? "router" = some 0) (stays : request.Stays) :=
    run.request attentive atLabel stays
  have reached := asked (.add ":b.5" "first" none) start rfl trivial
  have spare := asked (.add ":b.5" "second" none) reached rfl trivial
  have once := asked (.bind ":b.5" ⟨7⟩ none) spare rfl trivial
  have twice := asked (.bind ":b.5" ⟨7⟩ none) once rfl trivial
  have sent := asked (.route ":b.5" (.methodCall 1 ":a.1" ":b.5" "Ping")) twice rfl trivial
  have lost := asked (.lost "first" .linkTimeout) sent rfl trivial
  have opened := asked (.openQueue "third" ":b.3" (.replicate 2)) lost rfl trivial
  have again := asked (.bind ":b.5" ⟨7⟩ none) opened rfl trivial
  have more := asked (.bind ":b.5" ⟨7⟩ none) again rfl trivial
  have less := asked (.unbind ":b.5" ⟨7⟩) more rfl trivial
  obtain ⟨router, atId, keys, names⟩ := subscriber_mirrors_router less
  have here : router.names = [":b.5"] := by
    rw [← Option.some.inj atId]
    rfl
  obtain ⟨target, endpoint, present, counts⟩ := names ":b.5" (here ▸ List.mem_singleton_self _)
  obtain ⟨counted, unbound, next, call, positive⟩ := counts ⟨7⟩ (by decide)
  have left : endpoint.routes.firstBound ⟨7⟩ = (some Mesh.spareLink, 1) := by
    rw [← Option.some.inj atId] at present
    rw [← (Prod.mk.inj (Option.some.inj present)).2]
    rfl
  rw [left] at counted
  rw [counted] at positive
  rw [positive.mpr Nat.one_pos] at call
  exact ⟨_, _, router, target, endpoint, next, less, atId, keys, here, present, left, counted, call⟩

end DaemonMesh
