import DaemonMesh.Proofs.QueueLedgers
import DaemonMesh.Proofs.ServedRequests

namespace DaemonMesh

namespace World

variable {world next : World} {message : Message}

/-- A link over a queue that is open and has room. -/
def Accepts (world : World) (link : Link) : Prop :=
  ∃ queue, world.carrier? link = some (.queue queue) ∧ queue.Accepts

/-- There are no links but those over queues. -/
def Queues (world : World) : Prop :=
  ∀ (place : Nat) (carrier : Carrier), world.carriers[place]? = some carrier →
    ∃ queue, carrier = .queue queue

theorem push_cases (queues : world.Queues) (perform : Performer) (link : Link)
    (message : Message) :
    (∃ queue, world.carrier? link = some (.queue queue) ∧ queue.Accepts ∧
      world.push perform link message =
        (none, world.setCarrier link (.queue (queue.taking message)))) ∨
    (¬world.Accepts link ∧ ∃ error, world.push perform link message = (some error, world)) := by
  unfold push
  cases found : world.carrier? link with
  | none =>
    refine Or.inr ⟨?_, _, rfl⟩
    rintro ⟨queue, there, _⟩
    rw [found] at there
    cases there
  | some carrier =>
    obtain ⟨queue, rfl⟩ := queues link.number carrier found
    dsimp only
    cases pushed : queue.push link.name message with
    | ok after =>
      obtain ⟨accepts, rfl⟩ := Queue.push_eq_ok_iff.mp pushed
      exact Or.inl ⟨queue, rfl, accepts, rfl⟩
    | error error =>
      refine Or.inr ⟨?_, error, rfl⟩
      rintro ⟨other, there, accepts⟩
      obtain rfl := Carrier.queue.inj (Option.some.inj (found.symm.trans there))
      rw [Queue.push_eq_ok_iff.mpr ⟨accepts, rfl⟩] at pushed
      cases pushed

/-- A message goes to the first link that accepts it, and to that link only. -/
theorem deliver_cases (queues : world.Queues) (perform : Performer) (message : Message)
    (links : List Link) (asked : Nat) :
    (∃ before link after queue, links = before ++ link :: after ∧
      (∀ other ∈ before, ¬world.Accepts other) ∧
        world.carrier? link = some (.queue queue) ∧ queue.Accepts ∧
          deliver (push perform) message links asked world =
            (.ok ⟨link, asked + before.length + 1⟩,
              world.setCarrier link (.queue (queue.taking message)))) ∨
    ((∀ link ∈ links, ¬world.Accepts link) ∧
      deliver (push perform) message links asked world =
        (.error (asked + links.length), world)) := by
  induction links generalizing asked with
  | nil => exact Or.inr ⟨nofun, rfl⟩
  | cons link rest ih =>
    unfold deliver
    rcases push_cases queues perform link message with
      ⟨queue, there, accepts, pushed⟩ | ⟨refuses, error, pushed⟩
    · rw [pushed]
      exact Or.inl ⟨[], link, rest, queue, rfl, nofun, there, accepts, rfl⟩
    · rw [pushed]
      rcases ih (asked + 1) with
        ⟨before, taker, after, queue, rfl, refused, there, accepts, sent⟩ | ⟨refused, sent⟩
      · refine Or.inl ⟨link :: before, taker, after, queue, rfl,
          List.forall_mem_cons.mpr ⟨refuses, refused⟩, there, accepts, ?_⟩
        dsimp only
        rw [sent, List.length_cons]
        congr 3
        omega
      · refine Or.inr ⟨List.forall_mem_cons.mpr ⟨refuses, refused⟩, ?_⟩
        dsimp only
        rw [sent, List.length_cons]
        congr 2
        omega

/-- The link that took a message, if one did. -/
def taker {ε : Type} (result : Except ε Delivery) : Option Link :=
  result.toOption.map Delivery.link

/-- One call that sends a message, to a link, to a list of links, over an endpoint or to the name of
one, with the link that took it if the call succeeds. -/
inductive Sends (perform : Performer) (world : World) (message : Message) :
    Option Link → World → Prop
  | push (link : Link) : Sends perform world message
      (if (world.push perform link message).1.isNone then some link else none)
      (world.push perform link message).2
  | deliver (links : List Link) : Sends perform world message
      (taker (DaemonMesh.deliver (World.push perform) message links 0 world).1)
      (DaemonMesh.deliver (World.push perform) message links 0 world).2
  | send (id : Nat) (endpoint : Endpoint) (session : SessionId) : Sends perform world message
      (taker (world.send perform id endpoint message session).1)
      (world.send perform id endpoint message session).2
  | route (id : Nat) (router : Router) (name : String) : Sends perform world message
      (taker (world.route perform id router name message).1)
      (world.route perform id router name message).2

/-- One call on a world of queues, with what it deals. All routing is done aside from the queues. -/
inductive Deals (world : World) : List Dealing → World → Prop
  | send {perform : Performer} {message : Message} {link : Option Link} {next : World}
      (sends : world.Sends perform message link next) :
      Deals world (link.toList.map (.sent · message)) next
  | receive {link : Link} {queue : Queue} (atLink : world.carrier? link = some (.queue queue))
      (isOpen : queue.isOpen = true) :
      Deals world (queue.receive.1.toList.map (.received link))
        (world.setCarrier link (.queue queue.receive.2))
  | drain {link : Link} {queue : Queue} (atLink : world.carrier? link = some (.queue queue))
      (isOpen : queue.isOpen = true) :
      Deals world (queue.drain.1.map (.received link))
        (world.setCarrier link (.queue queue.drain.2))
  | close {link : Link} {queue : Queue} (atLink : world.carrier? link = some (.queue queue)) :
      Deals world [] (world.setCarrier link (.queue queue.close))
  | openQueue (name : String) (guid : Guid) (capacity : Nat) :
      Deals world [] (world.addLink name guid (.queue (.opened capacity))).2
  | aside {next : World} (carriers : next.carriers = world.carriers) : Deals world [] next

/-- The worlds that runs of such calls lead to, with all that they have dealt. -/
inductive Traffic : World → List Dealing → Prop
  | start : Traffic empty []
  | next {world after : World} {ledger dealings : List Dealing} (traffic : Traffic world ledger)
      (deals : world.Deals dealings after) : Traffic after (ledger ++ dealings)

/-- A send puts the message into the one queue that accepts it, or into none. -/
def Puts (world : World) (message : Message) (link : Option Link) (next : World) : Prop :=
  (∃ taking queue, link = some taking ∧ world.carrier? taking = some (.queue queue) ∧
    queue.Accepts ∧
      next.carriers = world.carriers.set taking.number (.queue (queue.taking message))) ∨
    (link = none ∧ next.carriers = world.carriers)

/-- A message that is sent over an endpoint goes to the first candidate that accepts it. -/
theorem send_cases (queues : world.Queues) (perform : Performer) (id : Nat) (endpoint : Endpoint)
    (message : Message) (session : SessionId) :
    (∃ before link after queue, endpoint.routes.candidates session = before ++ link :: after ∧
      (∀ other ∈ before, ¬world.Accepts other) ∧
        world.carrier? link = some (.queue queue) ∧ queue.Accepts ∧
          (world.send perform id endpoint message session).1 = .ok ⟨link, before.length + 1⟩ ∧
            (world.send perform id endpoint message session).2.carriers =
              world.carriers.set link.number (.queue (queue.taking message))) ∨
    ((∀ link ∈ endpoint.routes.candidates session, ¬world.Accepts link) ∧
      (world.send perform id endpoint message session).1 = .error
        (unsent endpoint session (endpoint.routes.candidates session).length) ∧
          (world.send perform id endpoint message session).2.carriers = world.carriers) := by
  have held : (world.withMesh (world.mesh.holdEndpoint id)).Queues := queues
  unfold send
  dsimp only
  rcases deliver_cases held perform message (endpoint.routes.candidates session) 0 with
    ⟨before, link, after, queue, whole, refused, there, accepts, sent⟩ | ⟨refused, sent⟩
  · rw [sent, Nat.zero_add]
    exact Or.inl ⟨before, link, after, queue, whole, refused, there, accepts, rfl, rfl⟩
  · rw [sent, Nat.zero_add]
    exact Or.inr ⟨refused, rfl, rfl⟩

theorem puts_send (queues : world.Queues) (perform : Performer) (id : Nat) (endpoint : Endpoint)
    (session : SessionId) : world.Puts message
      (taker (world.send perform id endpoint message session).1)
      (world.send perform id endpoint message session).2 := by
  rcases send_cases queues perform id endpoint message session with
    ⟨_, link, _, queue, _, _, there, accepts, result, after⟩ | ⟨_, result, after⟩
  · rw [result]
    exact Or.inl ⟨link, queue, rfl, there, accepts, after⟩
  · rw [result]
    exact Or.inr ⟨rfl, after⟩

theorem taker_mapError {ε δ : Type} (result : Except ε Delivery) (change : ε → δ) :
    taker (result.mapError change) = taker result := by
  cases result <;> rfl

theorem Sends.puts {perform : Performer} {link : Option Link}
    (sends : world.Sends perform message link next) (queues : world.Queues) :
    world.Puts message link next := by
  cases sends with
  | push link =>
    rcases push_cases queues perform link message with
      ⟨queue, there, accepts, pushed⟩ | ⟨_, error, pushed⟩
    · rw [pushed]
      exact Or.inl ⟨link, queue, rfl, there, accepts, rfl⟩
    · rw [pushed]
      exact Or.inr ⟨rfl, rfl⟩
  | deliver links =>
    rcases deliver_cases queues perform message links 0 with
      ⟨_, link, _, queue, _, _, there, accepts, sent⟩ | ⟨_, sent⟩
    · rw [sent]
      exact Or.inl ⟨link, queue, rfl, there, accepts, rfl⟩
    · rw [sent]
      exact Or.inr ⟨rfl, rfl⟩
  | send id endpoint session => exact puts_send queues perform id endpoint session
  | route id router name =>
    unfold World.route
    split
    · exact Or.inr ⟨rfl, rfl⟩
    · next target endpoint _ =>
      have held : (world.withMesh (world.mesh.holdRouter id)).Queues := queues
      rw [taker_mapError]
      exact puts_send held perform target endpoint message.session

theorem Deals.shift {dealings : List Dealing} (deals : world.Deals dealings next)
    (queues : world.Queues) : Shift world.carriers dealings next.carriers := by
  cases deals with
  | send sends =>
    rcases sends.puts queues with ⟨link, queue, rfl, there, accepts, after⟩ | ⟨rfl, after⟩
    · rw [after]
      exact .send there accepts _
    · rw [after]
      exact .rest _
  | @receive link queue atLink isOpen =>
    refine .receive atLink ?_
    cases waiting : queue.waiting <;> simp [Queue.receive, waiting]
  | drain atLink isOpen => exact .receive atLink (List.append_nil _).symm
  | close atLink => exact .close atLink
  | openQueue name guid capacity => exact .make _ capacity
  | aside carriers =>
    rw [carriers]
    exact .rest _

theorem Traffic.conserved {ledger : List Dealing} (traffic : Traffic world ledger) :
    Conserved world.carriers ledger := by
  induction traffic with
  | start => exact conserved_nothing
  | next _ deals ih => exact (deals.shift ih.queues).conserved ih

/-- A routed message goes to the first candidate of its session that accepts it. -/
theorem route_cases (queues : world.Queues) {router : Router} {name : String} {target : Nat}
    {endpoint : Endpoint} (present : world.mesh.lookup router name = some (target, endpoint))
    (perform : Performer) (id : Nat) (message : Message) :
    (∃ before link after,
      endpoint.routes.candidates message.session = before ++ link :: after ∧
        (∀ other ∈ before, ¬world.Accepts other) ∧ world.Accepts link ∧
          (world.route perform id router name message).1 = .ok ⟨link, before.length + 1⟩) ∨
    ((∀ link ∈ endpoint.routes.candidates message.session, ¬world.Accepts link) ∧
      (world.route perform id router name message).1 = .error (Failure.fromRouter
        (unsent endpoint message.session
          (endpoint.routes.candidates message.session).length))) := by
  have held : (world.withMesh (world.mesh.holdRouter id)).Queues := queues
  unfold World.route
  rw [Mesh.lookupOrFail_of_lookup present]
  dsimp only
  rcases send_cases held perform target endpoint message message.session with
    ⟨before, link, after, queue, whole, refused, there, accepts, result, _⟩ | ⟨refused, result, _⟩
  · rw [result]
    exact Or.inl ⟨before, link, after, whole, refused, ⟨queue, there, accepts⟩, rfl⟩
  · rw [result]
    exact Or.inr ⟨refused, rfl⟩

end World

/-- On links over queues no message is lost and none comes twice: as long as its receiving end is
there, what a queue has handed out and still holds is what was sent over it. A send that fails
leaves every queue alone, and a routed one fails just if no candidate accepts it. -/
theorem queue_traffic_conserved {world : World} {ledger : List Dealing}
    (traffic : World.Traffic world ledger) :
    (∀ link queue, world.carrier? link = some (.queue queue) →
      queue.waiting.length ≤ queue.capacity ∧ queue.sent = UInt64.ofNat (sentOver ledger link).length ∧
        (queue.isOpen = true →
          receivedOver ledger link ++ queue.waiting = sentOver ledger link)) ∧
      (∀ perform message next, world.Sends perform message none next →
        next.carriers = world.carriers) ∧
      ∀ router name target endpoint, world.mesh.lookup router name = some (target, endpoint) →
        ∀ (perform : Performer) (id : Nat) (message : Message),
          (∀ delivery, (world.route perform id router name message).1 = .ok delivery →
            ∃ before after,
              endpoint.routes.candidates message.session = before ++ delivery.link :: after ∧
                (∀ other ∈ before, ¬world.Accepts other) ∧ world.Accepts delivery.link) ∧
            ((world.route perform id router name message).1 = .error (Failure.fromRouter
                (.routing (.noRoute endpoint.name message.session
                  (endpoint.routes.candidates message.session).length))) ↔
              ∀ link ∈ endpoint.routes.candidates message.session, ¬world.Accepts link) ∧
            ((∃ delivery, (world.route perform id router name message).1 = .ok delivery) ↔
              ∃ link ∈ endpoint.routes.candidates message.session, world.Accepts link) := by
  have conserved := traffic.conserved
  refine ⟨fun link queue atLink => ?_, fun perform message next sends => ?_,
    fun router name target endpoint present perform id message => ?_⟩
  · have settled := conserved.settled link queue atLink
    exact ⟨settled.bounded, settled.counted, settled.kept⟩
  · rcases sends.puts conserved.queues with ⟨_, _, taken, _⟩ | ⟨_, same⟩
    · cases taken
    · exact same
  · -- Which links accept is known before the send, and so both outcomes can be foretold.
    rcases World.route_cases conserved.queues present perform id message with
      ⟨before, link, after, whole, refused, accepts, result⟩ | ⟨refused, result⟩
    · have candidate : link ∈ endpoint.routes.candidates message.session := by
        rw [whole]
        exact List.mem_append_right _ List.mem_cons_self
      rw [result]
      refine ⟨fun delivery taken => ?_, ⟨nofun, fun none => (none link candidate accepts).elim⟩,
        fun _ => ⟨link, candidate, accepts⟩, fun _ => ⟨_, rfl⟩⟩
      rw [← Except.ok.inj taken]
      exact ⟨before, after, whole, refused, accepts⟩
    · rw [result]
      refine ⟨nofun, ⟨fun _ => refused, fun _ => rfl⟩, nofun, ?_⟩
      rintro ⟨link, candidate, accepts⟩
      exact (refused link candidate accepts).elim

namespace World

def nearQueue : Link := ⟨0, ":b.1", .replicate 1⟩

def farQueue : Link := ⟨1, ":c.1", .replicate 2⟩

def queuedEndpoint : Endpoint :=
  ⟨":b.5", .started, false, ⟨⟨[(⟨0⟩, [nearQueue, farQueue])]⟩⟩, .firstAvailable⟩

def queuedRouter : Router := ⟨⟨[(":b.5", 0)]⟩, .firstAvailable, 0, .default⟩

/-- One endpoint over two links, of which the first has room for a single message. -/
def twoQueues : World :=
  { empty with
    mesh :=
      ⟨[nearQueue, farQueue], [0, 0], [], [], [some queuedEndpoint], [], [some queuedRouter], [0],
        [.empty]⟩
    carriers := [.queue (.opened 1), .queue (.opened 2)] }

/-- The world after a message was routed to the endpoint. -/
def afterRoute (world : World) (serial : UInt32) : World :=
  (world.route noScripts 0 queuedRouter ":b.5" (.methodCall serial ":a.1" ":b.5" "Ping")).2

end World

/-- The second message finds the first queue full; the third finds it empty again. -/
theorem queue_traffic_conserved_twoQueues :
    ∃ world ledger queue, World.Traffic world ledger ∧
      world.carrier? World.nearQueue = some (.queue queue) ∧
      (sentOver ledger World.nearQueue).map Message.serial = [1, 3] ∧
      (sentOver ledger World.farQueue).map Message.serial = [2] ∧
      (receivedOver ledger World.nearQueue).map Message.serial = [1] ∧
      receivedOver ledger World.nearQueue ++ queue.waiting = sentOver ledger World.nearQueue ∧
      queue.sent = 2 := by
  have near : World.Traffic _ _ := .next .start (.openQueue ":b.1" (.replicate 1) 1)
  have far : World.Traffic _ _ := .next near (.openQueue ":c.1" (.replicate 2) 2)
  have routed : World.Traffic World.twoQueues _ := .next far (.aside rfl)
  have first : World.Traffic (World.twoQueues.afterRoute 1) _ :=
    .next routed (.send (.route 0 World.queuedRouter ":b.5"))
  have second : World.Traffic ((World.twoQueues.afterRoute 1).afterRoute 2) _ :=
    .next first (.send (.route 0 World.queuedRouter ":b.5"))
  have received : World.Traffic _ _ :=
    .next second (@World.Deals.receive _ World.nearQueue _ rfl rfl)
  have third : World.Traffic (World.afterRoute _ 3) _ :=
    .next received (.send (.route 0 World.queuedRouter ":b.5"))
  obtain ⟨_, counted, kept⟩ := (queue_traffic_conserved third).1 World.nearQueue _ rfl
  exact ⟨_, _, _, third, rfl, rfl, rfl, rfl, kept rfl, counted⟩

end DaemonMesh
