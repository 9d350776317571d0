import DaemonMesh.Proofs.DirectPaths
import DaemonMesh.Proofs.QueueLedgers
import DaemonMesh.Proofs.QueuedSends
import DaemonMesh.Proofs.UsableRouters

namespace DaemonMesh

namespace Departure

section Routes

variable {toA toC : Link} {bound : List SessionId} {session : SessionId}

/-- Two direct paths, and every session on the first of them. -/
def routesOf (toA toC : Link) (bound : List SessionId) : RouteTable :=
  ⟨⟨(.direct, [toA, toC]) :: bound.map fun session => (session, [toA])⟩⟩

theorem candidates_routesOf (nonzero : session ≠ .direct) :
    (routesOf toA toC bound).candidates session = if session ∈ bound then [toA] else [] := by
  unfold RouteTable.candidates OrderedMap.find? routesOf
  dsimp only
  rw [List.lookup_cons, beq_eq_false_iff_ne.mpr nonzero]
  dsimp only
  induction bound with
  | nil => rfl
  | cons first rest ih =>
    rw [List.map_cons, List.lookup_cons]
    by_cases same : session = first
    · simp [same]
    · simpa [beq_eq_false_iff_ne.mpr same, same] using ih

theorem append_routesOf (nonzero : session ≠ .direct)
    (above : ∀ earlier ∈ bound, earlier < session) :
    (routesOf toA toC bound).append session toA = routesOf toA toC (bound ++ [session]) := by
  have unbound : session ∉ bound := fun member => Std.Irrefl.irrefl _ (above session member)
  have last : ∀ entry ∈ (routesOf toA toC bound).buckets.entries, entry.1 < session := by
    intro entry member
    rcases List.mem_cons.mp member with rfl | member
    · exact UInt32.pos_iff_ne_zero.mpr fun zero => nonzero (congrArg SessionId.mk zero)
    · obtain ⟨earlier, among, rfl⟩ := List.mem_map.mp member
      exact above earlier among
  unfold RouteTable.append OrderedMap.insert
  rw [candidates_routesOf nonzero, if_neg unbound, OrderedMap.setEntry_last _ last]
  simp [routesOf]

theorem directLinks_routesOf : (routesOf toA toC bound).directLinks = [toA, toC] := rfl

theorem sessionBuckets_routesOf (nonzero : ∀ session ∈ bound, session ≠ .direct) :
    (routesOf toA toC bound).sessionBuckets = bound.map fun session => (session, [toA]) := by
  unfold RouteTable.sessionBuckets routesOf
  rw [List.filter_cons_of_neg (by simp [SessionId.isDirect, SessionId.direct]), List.filter_eq_self]
  intro entry member
  obtain ⟨session, among, rfl⟩ := List.mem_map.mp member
  rw [SessionId.not_isDirect_iff.mpr (nonzero session among)]
  rfl

theorem sessionsOf_routesOf (nonzero : ∀ session ∈ bound, session ≠ .direct) :
    (routesOf toA toC bound).sessionsOf toA = bound := by
  unfold RouteTable.sessionsOf
  rw [sessionBuckets_routesOf nonzero, List.filter_eq_self.mpr (by simp), List.map_map]
  exact List.map_id bound

theorem bindingsTo_routesOf (nonzero : ∀ session ∈ bound, session ≠ .direct) :
    (routesOf toA toC bound).bindingsTo toA = bound := by
  unfold RouteTable.bindingsTo routesOf
  rw [List.flatMap_cons, List.flatMap_map]
  have once : ∀ session ∈ bound, (if session.isDirect then []
      else List.replicate ([toA].count toA) session) = [session] := by
    intro session among
    rw [SessionId.not_isDirect_iff.mpr (nonzero session among), List.count_singleton_self]
    rfl
  rw [List.flatMap_congr once, List.flatMap_singleton' ]
  rfl

/-- With the first link all sessions are gone; the second path is left. -/
theorem removeLink_routesOf (apart : toC ≠ toA) (nonzero : ∀ session ∈ bound, session ≠ .direct) :
    (routesOf toA toC bound).removeLink toA = (⟨1, bound⟩, .withDirect toC) := by
  have direct : (routesOf toA toC bound).directLinks.count toA = 1 := by
    rw [directLinks_routesOf, List.count_cons_self, List.count_singleton, beq_false_of_ne apart]
    rfl
  unfold RouteTable.removeLink
  rw [direct, bindingsTo_routesOf nonzero]
  simp [routesOf, apart, RouteTable.withDirect, OrderedMap.insert, OrderedMap.empty,
    OrderedMap.setEntry, Function.comp_def]

end Routes

variable (config : RouterConfig) (guidA guidC : Guid)

def linkA : Link := ⟨0, ":a.1", guidA⟩

def linkC : Link := ⟨1, ":c.1", guidC⟩

/-- The attachment while sessions are bound to A. -/
def standing (bound : List SessionId) : Endpoint :=
  ⟨attachment, .started, !bound.isEmpty, routesOf (linkA guidA) (linkC guidC) bound,
    .firstAvailable⟩

def routerOver (endpoints : OrderedMap String Nat) : Router :=
  ⟨endpoints, .firstAvailable, 0, config⟩

/-- The routing of daemon B: its references on the link to A, and the attachment if it is there. -/
def meshOver (references : Nat) (endpoint : Option Endpoint) (endpoints : OrderedMap String Nat) :
    Mesh where
  links := [linkA guidA, linkC guidC]
  counts := [references, 0]
  overdrawn := []
  tables := []
  endpoints := [endpoint]
  endpointHandles := []
  routers := [some (routerOver config endpoints)]
  routerHandles := [0]
  registries := [⟨1, [⟨0, 0⟩]⟩]

/-- A's queue when its writer has written some messages and others still wait for it. -/
def queueTo (written waiting : List Message) : Queue :=
  ⟨config.queueCapacity.toNat, waiting, true, .ofNat (written ++ waiting).length⟩

/-- Daemon B around its routing, with A's queue. -/
def worldOver (mesh : Mesh) (queue : Queue) (heard : List RouteEvent) : World where
  mesh
  carriers := [.queue queue, .queue (.opened config.queueCapacity.toNat)]
  subscribers := [⟨"log", [], false⟩]
  labels := { Labels.empty with subscriptions := OrderedMap.empty.insert "log" 0 }
  trace := heard.map (.notified "log")

def attached : OrderedMap String Nat := ⟨[(attachment, 0)]⟩

def underWay (bound : List SessionId) (queue : Queue) : World :=
  worldOver config
    (meshOver config guidA guidC bound.length (some (standing guidA guidC bound)) attached) queue []

/-- The first message of a session. -/
def firstCall (session : SessionId) : Message := (call session.number).withSession session

theorem runAt_eq (pace : SessionId → Nat) (count : Nat) :
    runAt pace config count guidA guidC = (do
    let (bound, written, world) ← bindAll pace 0 (linkA guidA) (sessions count)
      (underWay config guidA guidC [] (queueTo config [] []))
    match world.mesh.router? 0 with
    | none => .error (.bus (.routing (.unknownDestination attachment)))
    | some current =>
      let unreachable := world.mesh.unreachableWithout current guidA
      let (report, heard, world) := world.loseLink World.noScripts 0 current (linkA guidA) reason
      let current := (world.mesh.router? 0).getD current
      let (last, world) := world.route World.noScripts 0 current attachment (call 100)
      .ok {
        bound, unreachable, report, heard, last
        writtenToA := written ++ waiting world (linkA guidA)
        writtenToC := waiting world (linkC guidC) }) := rfl

variable (bound : List SessionId) (queue : Queue) {session : SessionId}

theorem bindBest_underWay (nonzero : session ≠ .direct)
    (above : ∀ earlier ∈ bound, earlier < session) :
    (underWay config guidA guidC bound queue).bindBest 0 (standing guidA guidC bound) session none =
      (.ok (linkA guidA), underWay config guidA guidC (bound ++ [session]) queue) := by
  have unbound : session ∉ bound := fun member => Std.Irrefl.irrefl _ (above session member)
  have chosen : Selector.chooseFirst (standing guidA guidC bound).routes session =
      some (linkA guidA) := by
    unfold Selector.chooseFirst RouteTable.firstBound standing
    rw [candidates_routesOf nonzero, if_neg unbound]
    rfl
  have direct : linkA guidA ∈ (standing guidA guidC bound).routes.directLinks :=
    List.mem_cons_self
  have after : { standing guidA guidC bound with
        routes := (standing guidA guidC bound).routes.append session (linkA guidA)
        everBound := true } = standing guidA guidC (bound ++ [session]) := by
    unfold standing
    dsimp only
    rw [append_routesOf nonzero above]
    simp
  have taken : (standing guidA guidC bound).bindChosen session
      (Selector.chooseFirst (standing guidA guidC bound).routes session) =
        .ok (linkA guidA, standing guidA guidC (bound ++ [session])) := by
    rw [chosen, Endpoint.bindChosen_direct nonzero direct, after]
  rcases (underWay config guidA guidC bound queue).bindBest_cases 0 (standing guidA guidC bound)
    session none with ⟨failure, failed, _⟩ | ⟨link, next, done, result⟩
  · cases taken.symm.trans failed
  · cases taken.symm.trans done
    rw [result]
    refine Prod.ext rfl ?_
    simp [underWay, World.withMesh, worldOver, meshOver, Mesh.setEndpoint, Mesh.acquire, linkA,
      World.witnessSelection, standing]

theorem route_underWay {message : Message} {pushed : Queue} (bindsIt : message.session ∈ bound)
    (nonzero : message.session ≠ .direct) (taken : queue.push ":a.1" message = .ok pushed) :
    (underWay config guidA guidC bound queue).route World.noScripts 0 (routerOver config attached)
        attachment message =
      (.ok ⟨linkA guidA, 1⟩, underWay config guidA guidC bound pushed) := by
  have offered : (standing guidA guidC bound).routes.candidates message.session =
      [linkA guidA] := by
    unfold standing
    rw [candidates_routesOf nonzero, if_pos bindsIt]
  have found : (underWay config guidA guidC bound queue).mesh.lookupOrFail
      (routerOver config attached) attachment = .ok (0, standing guidA guidC bound) := rfl
  rw [World.route_queued _ _ found (List.mem_singleton_self 0) rfl offered rfl taken]
  simp [underWay, World.setCarrier, worldOver, linkA]

theorem bindAndCall_underWay (nonzero : session ≠ .direct)
    (above : ∀ earlier ∈ bound, earlier < session) {pushed : Queue}
    (taken : queue.push ":a.1" (firstCall session) = .ok pushed) :
    bindAndCall 0 (underWay config guidA guidC bound queue) session =
      .ok (linkA guidA, underWay config guidA guidC (bound ++ [session]) pushed) := by
  have bindsIt : (firstCall session).session ∈ bound ++ [session] :=
    List.mem_append_right _ (List.mem_singleton_self session)
  have called := route_underWay config guidA guidC (bound ++ [session]) queue bindsIt nonzero taken
  have present : (underWay config guidA guidC bound queue).mesh.router? 0 =
      some (routerOver config attached) := rfl
  have found : (underWay config guidA guidC bound queue).mesh.lookupOrFail
      (routerOver config attached) attachment = .ok (0, standing guidA guidC bound) := rfl
  have chosen := bindBest_underWay config guidA guidC bound queue nonzero above
  rw [firstCall] at called
  simp only [bindAndCall, present, found, bind, Except.bind, chosen, Except.mapError, called]

/-- A queue with room takes a message, however much of it was written before. -/
theorem push_queueTo (link : String) (written waiting : List Message) (message : Message)
    (room : (written ++ waiting).length < config.queueCapacity.toNat) :
    (queueTo config written waiting).push link message =
      .ok (queueTo config written (waiting ++ [message])) := by
  refine Queue.push_eq_ok_iff.mpr ⟨⟨rfl, ?_⟩, ?_⟩
  · show waiting.length < config.queueCapacity.toNat
    rw [List.length_append] at room
    omega
  · have counted : (written ++ (waiting ++ [message])).length =
        (written ++ waiting).length + 1 := by
      simp [Nat.add_assoc]
    rw [queueTo, counted, UInt64.ofNat_add]
    rfl

/-- What the writer takes from the queue it has written; the rest still waits. -/
theorem write_underWay (amount : Nat) (written waiting : List Message) : ∃ taken left,
    waiting = taken ++ left ∧
      write (linkA guidA) amount (underWay config guidA guidC bound
          (queueTo config written waiting)) =
        (taken, underWay config guidA guidC bound (queueTo config (written ++ taken) left)) := by
  induction amount generalizing written waiting with
  | zero => exact ⟨[], waiting, rfl, by rw [List.append_nil, write]⟩
  | succ amount ih =>
    cases waiting with
    | nil =>
      -- With nothing to write the writer waits, and nothing comes before the next session.
      obtain ⟨taken, left, whole, wrote⟩ := ih written []
      exact ⟨taken, left, whole, wrote⟩
    | cons first rest =>
      obtain ⟨taken, left, rfl, wrote⟩ := ih (written ++ [first]) rest
      refine ⟨first :: taken, left, rfl, ?_⟩
      rw [List.append_assoc, List.singleton_append] at wrote
      have received : (queueTo config written (first :: (taken ++ left))).receive =
          (some first, queueTo config (written ++ [first]) (taken ++ left)) := by
        simp [queueTo, Queue.receive]
      have there : (underWay config guidA guidC bound (queueTo config written
          (first :: (taken ++ left)))).carrier? (linkA guidA) =
            some (.queue (queueTo config written (first :: (taken ++ left)))) := rfl
      unfold write
      simp only [there, received]
      exact congrArg (fun written => (first :: written.1, written.2)) wrote

/-- Every further session binds to A and leaves its message with A's writer, as long as the numbers
go up and the queue has room for all, whatever the writer's pace. -/
theorem bindAll_underWay (pace : SessionId → Nat) (rest : List SessionId)
    (ascending : (bound ++ rest).Pairwise (· < ·)) (nonzero : ∀ session ∈ rest, session ≠ .direct)
    (room : (bound ++ rest).length ≤ config.queueCapacity.toNat) {written waiting : List Message}
    (sent : written ++ waiting = bound.map firstCall) : ∃ taken left,
      written ++ taken ++ left = (bound ++ rest).map firstCall ∧
        bindAll pace 0 (linkA guidA) rest
            (underWay config guidA guidC bound (queueTo config written waiting)) =
          .ok (rest.map (·, linkA guidA), taken,
            underWay config guidA guidC (bound ++ rest)
              (queueTo config (written ++ taken) left)) := by
  induction rest generalizing bound written waiting with
  | nil => exact ⟨[], waiting, by simpa using sent, by simp [bindAll]⟩
  | cons session rest ih =>
    have above : ∀ earlier ∈ bound, earlier < session := fun earlier among =>
      (List.pairwise_append.mp ascending).2.2 earlier among session List.mem_cons_self
    have place : (written ++ waiting).length < config.queueCapacity.toNat := by
      rw [List.length_append, List.length_cons] at room
      rw [sent, List.length_map]
      omega
    rw [List.append_cons] at ascending room ⊢
    have called := bindAndCall_underWay config guidA guidC bound _
      (nonzero session List.mem_cons_self) above
      (push_queueTo config ":a.1" written waiting (firstCall session) place)
    obtain ⟨taken, left, whole, wrote⟩ := write_underWay config guidA guidC (bound ++ [session])
      (pace session) written (waiting ++ [firstCall session])
    have sentNow : (written ++ taken) ++ left = (bound ++ [session]).map firstCall := by
      rw [List.append_assoc, ← whole, ← List.append_assoc, sent, List.map_append]
      rfl
    obtain ⟨later, remaining, all, bindsRest⟩ := ih (bound ++ [session]) ascending
      (fun other among => nonzero other (List.mem_cons_of_mem _ among)) room sentNow
    refine ⟨taken ++ later, remaining, by rw [← all]; simp, ?_⟩
    simp only [bindAll, bind, Except.bind, called, wrote, bindsRest, List.map_cons,
      List.append_assoc]

theorem numbers_sessions {count : Nat} (few : count < 2 ^ 32) :
    (sessions count).map (fun session => session.number.toNat) = List.range' 1 count := by
  rw [sessions, List.map_map, List.range'_eq_map_range]
  refine List.map_congr_left fun n among => ?_
  have below := List.mem_range.mp among
  show (UInt32.ofNat (n + 1)).toNat = 1 + n
  rw [UInt32.toNat_ofNat_of_lt' (by rw [UInt32.size]; omega), Nat.add_comm]

theorem sessions_ascending {count : Nat} (few : count < 2 ^ 32) :
    (sessions count).Pairwise (· < ·) := by
  have numbers : ((sessions count).map fun session => session.number.toNat).Pairwise (· < ·) := by
    rw [numbers_sessions few]
    exact List.pairwise_lt_range'
  exact (List.pairwise_map.mp numbers).imp UInt32.lt_iff_toNat_lt.mpr

theorem sessions_nonzero {count : Nat} (few : count < 2 ^ 32) :
    ∀ session ∈ sessions count, session ≠ .direct := by
  intro session among zero
  have member : session.number.toNat ∈ List.range' 1 count := by
    rw [← numbers_sessions few]
    exact List.mem_map_of_mem among
  rw [zero] at member
  exact absurd (List.mem_range'_1.mp member).1 (by decide)

/-- A full mesh hides what hangs on A: the path through C counts as one that is left. -/
theorem unreachableWithout_underWay (distinct : guidA ≠ guidC) :
    (underWay config guidA guidC bound queue).mesh.unreachableWithout (routerOver config attached)
      guidA = [] := by
  have left : (standing guidA guidC bound).routes.canRouteWithout guidA = true :=
    List.any_eq_true.mpr ⟨linkC guidC, List.mem_cons_of_mem _ List.mem_cons_self,
      bne_iff_ne.mpr (Ne.symm distinct)⟩
  show [(attachment, standing guidA guidC bound)].filterMap _ = []
  rw [List.filterMap_cons, left]
  rfl

/-- What the loss of A's link leaves of the attachment. -/
def leftOver (bound : List SessionId) : Endpoint :=
  { standing guidA guidC bound with
    routes := .withDirect (linkC guidC)
    state := if bound.isEmpty then .started else .stopping }

theorem removeLink_standing (distinct : guidA ≠ guidC)
    (nonzero : ∀ session ∈ bound, session ≠ .direct) :
    (standing guidA guidC bound).removeLink (linkA guidA) =
      (⟨1, bound⟩, !bound.isEmpty, leftOver guidA guidC bound) := by
  have apart : linkC guidC ≠ linkA guidA := fun same => by cases congrArg Link.number same
  have reaches : (RouteTable.withDirect (linkC guidC)).reaches guidA = false := by
    show ((guidC == guidA) || false) = false
    rw [beq_false_of_ne (Ne.symm distinct)]
    rfl
  have emptied : Endpoint.leftEmpty (!bound.isEmpty) (.withDirect (linkC guidC)) (linkA guidA) =
      !bound.isEmpty := by
    unfold Endpoint.leftEmpty
    rw [show (linkA guidA).guid = guidA from rfl, reaches]
    cases bound <;> rfl
  have removed : (standing guidA guidC bound).routes.removeLink (linkA guidA) =
      (⟨1, bound⟩, .withDirect (linkC guidC)) := removeLink_routesOf apart nonzero
  unfold Endpoint.removeLink
  rw [removed]
  dsimp only
  rw [show (standing guidA guidC bound).everBound = !bound.isEmpty from rfl, emptied]
  cases bound <;> rfl

theorem releaseAll_toA (endpoint : Option Endpoint) (endpoints : OrderedMap String Nat)
    (count : Nat) :
    ((meshOver config guidA guidC count endpoint endpoints).holdRouter 0).releaseAll
      (List.replicate count (linkA guidA)) =
        (meshOver config guidA guidC 0 endpoint endpoints).holdRouter 0 := by
  induction count with
  | zero => rfl
  | succ count ih =>
    rw [← ih]
    rfl

theorem removeLink_mesh (distinct : guidA ≠ guidC)
    (nonzero : ∀ session ∈ bound, session ≠ .direct) :
    ((underWay config guidA guidC bound queue).mesh.holdRouter 0).removeLink 0
        (standing guidA guidC bound) (linkA guidA) =
      (!bound.isEmpty, (meshOver config guidA guidC 0 (some (leftOver guidA guidC bound))
        attached).holdRouter 0) := by
  have once : (bound.map fun _ => linkA guidA) = List.replicate bound.length (linkA guidA) :=
    List.map_const' ..
  unfold Mesh.removeLink
  rw [removeLink_standing guidA guidC bound distinct nonzero]
  dsimp only
  rw [once]
  exact Prod.ext rfl (releaseAll_toA config guidA guidC _ _ bound.length)

/-- The attachment goes with A's link as soon as some session was bound, and only then. -/
theorem loseLink_mesh (distinct : guidA ≠ guidC)
    (nonzero : ∀ session ∈ bound, session ≠ .direct) :
    ((underWay config guidA guidC bound queue).mesh.holdRouter 0).loseLink 0
        (routerOver config attached) (linkA guidA) =
      if bound.isEmpty then
        (.empty, (meshOver config guidA guidC 0 (some (leftOver guidA guidC bound))
          attached).holdRouter 0)
      else
        (⟨[attachment], bound.map (attachment, ·)⟩,
          (meshOver config guidA guidC 0 none .empty).holdRouter 0) := by
  have direct : (standing guidA guidC bound).routes.hasDirect (linkA guidA) = true :=
    RouteTable.hasDirect_iff.mpr List.mem_cons_self
  have lost : (standing guidA guidC bound).routes.sessionsOf (linkA guidA) = bound :=
    sessionsOf_routesOf nonzero
  have atId : ((underWay config guidA guidC bound queue).mesh.holdRouter 0).endpoint? 0 =
      some (standing guidA guidC bound) := rfl
  have visited : ((underWay config guidA guidC bound queue).mesh.holdRouter 0).loseLink 0
      (routerOver config attached) (linkA guidA) = Mesh.loseAt 0 (linkA guidA)
        (.empty, (underWay config guidA guidC bound queue).mesh.holdRouter 0) 0 := rfl
  rw [visited]
  unfold Mesh.loseAt
  simp only [atId, direct, lost, removeLink_mesh config guidA guidC bound queue distinct nonzero]
  cases bound with
  | nil => rfl
  | cons first rest => rfl

/-- What the routing loses is what is reported, and everything reported is heard. -/
theorem loseLink_underWay {report : LossReport} {after : Mesh}
    (listening : after.registry 0 = ⟨1, [⟨0, 0⟩]⟩) (quiet : after.overdrawn = [])
    (held : after.routerHandles = [0])
    (lost : ((underWay config guidA guidC bound queue).mesh.holdRouter 0).loseLink 0
      (routerOver config attached) (linkA guidA) = (report, after.holdRouter 0)) :
    (underWay config guidA guidC bound queue).loseLink World.noScripts 0
        (routerOver config attached) (linkA guidA) reason =
      (report, report.events reason, worldOver config after queue (report.events reason)) := by
  have subscribed : ((after.holdRouter 0).registry 0).subscriptions = [⟨0, 0⟩] :=
    congrArg Registry.subscriptions listening
  have told := World.dispatchAll_listening World.noScripts
    ((underWay config guidA guidC bound queue).withMesh (after.holdRouter 0)) subscribed rfl
    (report.events reason)
  have back : (after.holdRouter 0).letGoRouter 0 = after :=
    Mesh.letGo_holdRouter (by rw [held]; exact List.mem_singleton_self 0)
  unfold Mesh.loseLink at lost
  unfold World.loseLink World.loseLinkBy
  rw [lost, show (routerOver config attached).registry = 0 from rfl]
  dsimp only
  rw [told]
  refine Prod.ext rfl (Prod.ext rfl ?_)
  show World.withMesh _ ((after.holdRouter 0).letGoRouter 0) = _
  rw [back]
  simp [World.withMesh, underWay, worldOver, meshOver, Mesh.holdRouter, quiet]

theorem route_leftOver (room : 0 < config.queueCapacity.toNat) {heard : List RouteEvent} :
    (worldOver config (meshOver config guidA guidC 0 (some (leftOver guidA guidC bound)) attached)
        queue heard).route World.noScripts 0 (routerOver config attached) attachment (call 100) =
      (.ok ⟨linkC guidC, 1⟩, (worldOver config (meshOver config guidA guidC 0
        (some (leftOver guidA guidC bound)) attached) queue heard).setCarrier (linkC guidC)
          (.queue (queueTo config [] [call 100]))) := by
  have pushed : (Queue.opened config.queueCapacity.toNat).push ":c.1" (call 100) =
      .ok (queueTo config [] [call 100]) := push_queueTo config ":c.1" [] [] (call 100) room
  have found : (worldOver config (meshOver config guidA guidC 0 (some (leftOver guidA guidC bound))
      attached) queue heard).mesh.lookupOrFail (routerOver config attached) attachment =
        .ok (0, leftOver guidA guidC bound) := rfl
  exact World.route_queued _ _ found (List.mem_singleton_self 0) rfl rfl rfl pushed

/-- Once the attachment is gone there is nothing the last message could be sent over. -/
theorem route_gone {heard : List RouteEvent} :
    (worldOver config (meshOver config guidA guidC 0 none .empty) queue heard).route World.noScripts
        0 (routerOver config .empty) attachment (call 100) =
      (.error (.bus (.routing (.unknownDestination attachment))),
        worldOver config (meshOver config guidA guidC 0 none .empty) queue heard) := rfl

/-- A run is the binding of all sessions, then the loss, then one more message. The writer's pace
decides when the messages are written, not what is written. -/
theorem runAt_ends (pace : SessionId → Nat) {count : Nat} (few : count < 2 ^ 32)
    (room : count ≤ config.queueCapacity.toNat) (distinct : guidA ≠ guidC) {report : LossReport}
    {after : Mesh} {current : Router} {last : Except Failure Delivery} {toC : List Message}
    (listening : after.registry 0 = ⟨1, [⟨0, 0⟩]⟩) (quiet : after.overdrawn = [])
    (held : after.routerHandles = [0]) (atId : after.router? 0 = some current)
    (lost : ∀ queue, ((underWay config guidA guidC (sessions count) queue).mesh.holdRouter
      0).loseLink 0 (routerOver config attached) (linkA guidA) = (report, after.holdRouter 0))
    (routed : ∀ queue, ∃ final, (worldOver config after queue (report.events reason)).route
        World.noScripts 0 current attachment (call 100) = (last, final) ∧
      waiting final (linkA guidA) = queue.waiting ∧ waiting final (linkC guidC) = toC) :
    runAt pace config count guidA guidC =
      .ok ⟨(sessions count).map (·, linkA guidA), [], report, report.events reason, last,
        (sessions count).map firstCall, toC⟩ := by
  have amount : (sessions count).length = count := by simp [sessions]
  obtain ⟨taken, left, whole, bound⟩ := bindAll_underWay config guidA guidC [] pace (sessions count)
    (sessions_ascending few) (sessions_nonzero few) (by rwa [List.nil_append, amount])
    (List.nil_append [])
  simp only [List.nil_append] at whole bound
  have hidden := unreachableWithout_underWay config guidA guidC (sessions count)
    (queueTo config taken left) distinct
  have present : (underWay config guidA guidC (sessions count)
      (queueTo config taken left)).mesh.router? 0 = some (routerOver config attached) := rfl
  have still : ((worldOver config after (queueTo config taken left)
      (report.events reason)).mesh.router? 0).getD (routerOver config attached) = current := by
    rw [show (worldOver config after _ _).mesh.router? 0 = _ from atId]
    rfl
  obtain ⟨final, called, toA, toC⟩ := routed (queueTo config taken left)
  rw [runAt_eq, bound]
  simp only [bind, Except.bind, present, hidden,
    loseLink_underWay config guidA guidC _ _ listening quiet held (lost _), still, called, toA, toC]
  rw [← whole]
  rfl

/-- What daemon B sees of A's departure. -/
def seen (count : Nat) : Departure :=
  if count = 0 then ⟨[], [], .empty, [], .ok ⟨linkC guidC, 1⟩, [], [call 100]⟩
  else
    let report : LossReport := ⟨[attachment], (sessions count).map (attachment, ·)⟩
    ⟨(sessions count).map (·, linkA guidA), [], report, report.events reason,
      .error (.bus (.routing (.unknownDestination attachment))), (sessions count).map firstCall, []⟩

/-- Whenever the writers get to write, what happens is the same, as long as A's queue has room for a
message of every session. -/
theorem runAt_seen (pace : SessionId → Nat) (usable : config.validate = .ok ()) {count : Nat}
    (room : count ≤ config.queueCapacity.toNat) (distinct : guidA ≠ guidC) :
    runAt pace config count guidA guidC = .ok (seen guidA guidC count) := by
  obtain ⟨⟨deep, bounded⟩, _⟩ := (RouterConfig.validate_ok_iff config).mp usable
  have few : count < 2 ^ 32 := by
    rw [RouterConfig.maxQueueCapacity] at bounded
    omega
  have amount : (sessions count).length = count := by simp [sessions]
  have lost := fun queue =>
    loseLink_mesh config guidA guidC (sessions count) queue distinct (sessions_nonzero few)
  by_cases idle : count = 0
  · have unbound : sessions count = [] := by rw [idle]; rfl
    simp only [if_pos (List.isEmpty_iff.mpr unbound)] at lost
    rw [runAt_ends config guidA guidC pace few room distinct rfl rfl rfl rfl lost fun queue =>
      ⟨_, route_leftOver config guidA guidC _ queue deep, rfl, rfl⟩]
    rw [seen, if_pos idle, unbound]
    rfl
  · have bound : (sessions count).isEmpty ≠ true := by
      rw [Ne, List.isEmpty_iff_length_eq_zero, amount]
      exact idle
    simp only [if_neg bound] at lost
    rw [runAt_ends config guidA guidC pace few room distinct rfl rfl rfl rfl lost fun queue =>
      ⟨_, route_gone config guidA guidC queue, rfl, rfl⟩]
    rw [seen, if_neg idle]

end Departure

/-- Once it has its options and its configuration, the demonstration ends with its log if the log
filter can be read, and at the filter if it cannot. At whatever pace A's writer writes, the log
shows the same departure. -/
theorem runTriangle_ends {arguments : List String} {files : FileTree} {options : TriangleOptions}
    {config : RouterConfig} (asked : TriangleOptions.read? arguments = some options)
    (loaded : triangleConfig files options = .ok config)
    (room : options.sessionCount.toNat ≤ config.queueCapacity.toNat) :
    (LogFilter.read? config.logFilter = none → runTriangle arguments files = .miscutFilter) ∧
      ∀ filter, LogFilter.read? config.logFilter = some filter → ∃ departure : Departure,
        (∀ pace, Departure.runAt pace config options.sessionCount.toNat guidOfA guidOfC =
          .ok departure) ∧
        runTriangle arguments files = .finished ⟨filter.select departure.mainLines,
          filter.select departure.writerLinesA, filter.select departure.writerLinesC⟩ := by
  have seen (pace : SessionId → Nat) := Departure.runAt_seen config guidOfA guidOfC pace
    (validate_triangleConfig loaded) room (by decide)
  refine ⟨fun miscut => ?_, fun filter readable => ⟨_, seen, ?_⟩⟩
  · simp only [runTriangle, asked, loaded, miscut]
  · simp only [runTriangle, asked, loaded, readable, Departure.run, seen]

open Departure in
/-- In a full mesh a departed daemon takes an attachment with it just when some session was bound to
it; without any session the attachment stays, over the other daemon. -/
theorem triangular_cleanup {config : RouterConfig} (usable : config.validate = .ok ()) {count : Nat}
    (room : count ≤ config.queueCapacity.toNat) {guidA guidC : Guid} (distinct : guidA ≠ guidC) :
    (sessions count).map (fun session => session.number.toNat) = List.range' 1 count ∧
      ∃ departure, run config count guidA guidC = .ok departure ∧
        departure.bound = (sessions count).map (·, ⟨0, ":a.1", guidA⟩) ∧
        departure.unreachable = [] ∧
        departure.writtenToA = (sessions count).map firstCall ∧
        departure.heard = departure.report.events reason ∧
        (1 ≤ count →
          departure.report = ⟨[":a.5"], (sessions count).map (":a.5", ·)⟩ ∧
            departure.last = .error (.bus (.routing (.unknownDestination ":a.5"))) ∧
            departure.writtenToA.length = count ∧ departure.writtenToC.length = 0) ∧
        (count = 0 →
          departure.report = .empty ∧ departure.last = .ok ⟨⟨1, ":c.1", guidC⟩, 1⟩ ∧
            departure.writtenToA.length = 0 ∧ departure.writtenToC.length = 1) := by
  obtain ⟨⟨_, bounded⟩, _⟩ := (RouterConfig.validate_ok_iff config).mp usable
  have few : count < 2 ^ 32 := by
    rw [RouterConfig.maxQueueCapacity] at bounded
    omega
  refine ⟨numbers_sessions few, _, runAt_seen config guidA guidC _ usable room distinct, ?_⟩
  by_cases idle : count = 0
  · subst idle
    exact ⟨rfl, rfl, rfl, rfl, fun busy => absurd busy (by omega), fun _ => ⟨rfl, rfl, rfl, rfl⟩⟩
  · rw [seen, if_neg idle]
    refine ⟨rfl, rfl, rfl, rfl, fun _ => ⟨rfl, rfl, ?_, rfl⟩, fun absent => (idle absent).elim⟩
    simp [sessions]

theorem triangular_cleanup_threeSessions :
    RouterConfig.default.validate = .ok () ∧ 3 ≤ RouterConfig.default.queueCapacity.toNat ∧
      guidOfA ≠ guidOfC ∧ ∃ departure, Departure.run .default 3 guidOfA guidOfC = .ok departure ∧
        departure.report = ⟨[":a.5"], [(":a.5", ⟨1⟩), (":a.5", ⟨2⟩), (":a.5", ⟨3⟩)]⟩ ∧
        departure.writtenToA.length = 3 ∧ departure.writtenToC.length = 0 := by
  have usable : RouterConfig.default.validate = .ok () := by decide
  have room : 3 ≤ RouterConfig.default.queueCapacity.toNat := by decide
  have distinct : guidOfA ≠ guidOfC := by decide
  obtain ⟨departure, done, _, _, _, _, lost, _⟩ := (triangular_cleanup usable room distinct).2
  obtain ⟨report, _, toA, toC⟩ := lost (by decide)
  exact ⟨usable, room, distinct, departure, done, report, toA, toC⟩

end DaemonMesh
