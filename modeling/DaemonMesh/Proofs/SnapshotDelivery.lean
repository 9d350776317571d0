import DaemonMesh.Scenario.Run
import Mathlib.Tactic.Common

namespace DaemonMesh

/-- A message that a delivery has handed to a link, with what the link said to it. -/
structure Offer where
  link : Link
  message : Message
  answer : Option LinkError
deriving DecidableEq, Repr

/-- What the offers of one delivery are to its candidates and its result. -/
structure Offered {ε : Type} (candidates : List Link) (message : Message) (failure : ε)
    (offers : List Offer) (result : Except ε Delivery) : Prop where
  inOrder : offers.map Offer.link <+: candidates
  unchanged : ∀ offer ∈ offers, offer.message = message
  once : offers.countP (fun offer => offer.answer.isNone) ≤ 1
  /-- Either the last offer is the first one taken, or all candidates have refused. -/
  outcome : (∃ refused link, offers = refused ++ [⟨link, message, none⟩] ∧
      (∀ offer ∈ refused, offer.answer ≠ none) ∧ result = .ok ⟨link, offers.length⟩) ∨
    ((∀ offer ∈ offers, offer.answer ≠ none) ∧ offers.map Offer.link = candidates ∧
      result = .error failure)

section Delivery

variable {State : Type} (push : State → Link → Message → Option LinkError × State)
  (message : Message)

/-- Notes down what is offered. Whatever a link does meanwhile, be it deliveries of its own, goes by
without a note. -/
def noting (state : State × List Offer) (link : Link) (message : Message) :
    Option LinkError × State × List Offer :=
  let (answer, next) := push state.1 link message
  (answer, next, state.2 ++ [⟨link, message, answer⟩])

/-- Notes change nothing about a delivery. -/
theorem deliver_noting (links : List Link) (asked : Nat) (state : State) (past : List Offer) :
    ∃ offers, deliver (noting push) message links asked (state, past) =
        ((deliver push message links asked state).1, (deliver push message links asked state).2,
          past ++ offers) ∧
      ((∃ refused link, offers = refused ++ [⟨link, message, none⟩] ∧
          (∀ offer ∈ refused, offer.message = message ∧ offer.answer ≠ none) ∧
            offers.map Offer.link <+: links ∧
              (deliver push message links asked state).1 = .ok ⟨link, asked + offers.length⟩) ∨
        ((∀ offer ∈ offers, offer.message = message ∧ offer.answer ≠ none) ∧
          offers.map Offer.link = links ∧
            (deliver push message links asked state).1 = .error (asked + links.length))) := by
  induction links generalizing asked state past with
  | nil => exact ⟨[], by simp [deliver], Or.inr ⟨nofun, rfl, rfl⟩⟩
  | cons link rest ih =>
    unfold deliver noting
    dsimp only
    cases answered : push state link message with
    | mk answer next =>
      -- The first link that takes the message ends the delivery, and after any other it goes on.
      cases answer with
      | none =>
        refine ⟨[⟨link, message, none⟩], rfl, Or.inl ⟨[], link, rfl, nofun, ?_, rfl⟩⟩
        exact List.prefix_append [link] rest
      | some error =>
        obtain ⟨offers, same, outcome⟩ :=
          ih (asked + 1) next (past ++ [⟨link, message, some error⟩])
        refine ⟨⟨link, message, some error⟩ :: offers, ?_, ?_⟩
        · rw [List.append_assoc] at same
          exact same
        · rcases outcome with ⟨refused, taker, rfl, before, order, taken⟩ | ⟨all, order, failed⟩
          · refine Or.inl ⟨⟨link, message, some error⟩ :: refused, taker, rfl, ?_, ?_, ?_⟩
            · exact List.forall_mem_cons.mpr ⟨⟨rfl, nofun⟩, before⟩
            · exact List.cons_prefix_cons.mpr ⟨rfl, order⟩
            · rw [taken, List.length_cons]
              congr 2
              omega
          · refine Or.inr ⟨List.forall_mem_cons.mpr ⟨⟨rfl, nofun⟩, all⟩, ?_, ?_⟩
            · exact congrArg (List.cons link) order
            · rw [failed, List.length_cons]
              congr 1
              omega

theorem deliver_offered (links : List Link) (state : State) :
    ∃ offers, deliver (noting push) message links 0 (state, []) =
        ((deliver push message links 0 state).1, (deliver push message links 0 state).2, offers) ∧
      Offered links message links.length offers (deliver push message links 0 state).1 := by
  obtain ⟨offers, same, outcome⟩ := deliver_noting push message links 0 state []
  refine ⟨offers, same, ?_⟩
  rcases outcome with ⟨refused, link, rfl, before, order, taken⟩ | ⟨all, order, failed⟩
  · have none : refused.countP (fun offer => offer.answer.isNone) = 0 :=
      List.countP_eq_zero.mpr fun offer member => by simpa using (before offer member).2
    refine ⟨order, fun offer member => ?_, ?_, Or.inl ⟨refused, link, rfl, ?_, ?_⟩⟩
    · rcases List.mem_append.mp member with early | last
      · exact (before offer early).1
      · rw [List.mem_singleton.mp last]
    · rw [List.countP_append, none]
      simp
    · exact fun offer member => (before offer member).2
    · rw [taken, Nat.zero_add]
  · have none : offers.countP (fun offer => offer.answer.isNone) = 0 :=
      List.countP_eq_zero.mpr fun offer member => by simpa using (all offer member).2
    refine ⟨?_, fun offer member => (all offer member).1, by omega, Or.inr ⟨?_, order, ?_⟩⟩
    · exact ⟨[], by rw [order, List.append_nil]⟩
    · exact fun offer member => (all offer member).2
    · rw [failed, Nat.zero_add]

end Delivery

/-- A failure may be told in other words. -/
theorem Offered.mapError {ε δ : Type} {candidates : List Link} {message : Message} {failure : ε}
    {offers : List Offer} {result : Except ε Delivery}
    (offered : Offered candidates message failure offers result) (change : ε → δ) :
    Offered candidates message (change failure) offers (result.mapError change) := by
  refine ⟨offered.inOrder, offered.unchanged, offered.once, ?_⟩
  rcases offered.outcome with ⟨refused, link, whole, before, rfl⟩ | ⟨all, order, rfl⟩
  · exact Or.inl ⟨refused, link, whole, before, rfl⟩
  · exact Or.inr ⟨all, order, rfl⟩

namespace World

variable (world : World) (perform : Performer) (id : Nat) (endpoint : Endpoint) (message : Message)
  (session : SessionId)

/-- The failure that takes the place of a delivery when all candidates have refused. -/
def unsent (endpoint : Endpoint) (session : SessionId) (attempts : Nat) : Failure :=
  .routing (.noRoute endpoint.name session attempts)

/-- A sending offers the message to the candidates of the endpoint as it was called, whatever
becomes of the endpoint meanwhile. -/
theorem send_offered : ∃ offers sent after,
    deliver (noting (push perform)) message (endpoint.routes.candidates session) 0
        (world.withMesh (world.mesh.holdEndpoint id), []) = (sent, after, offers) ∧
      Offered (endpoint.routes.candidates session) message
        (unsent endpoint session (endpoint.routes.candidates session).length) offers
        (sent.mapError (unsent endpoint session)) ∧
      world.send perform id endpoint message session =
        (sent.mapError (unsent endpoint session),
          after.withMesh (after.mesh.letGoEndpoint id)) := by
  obtain ⟨offers, noted, offered⟩ := deliver_offered (push perform) message
    (endpoint.routes.candidates session) (world.withMesh (world.mesh.holdEndpoint id))
  refine ⟨offers, _, _, noted, offered.mapError (unsent endpoint session), ?_⟩
  unfold send
  dsimp only
  generalize deliver (push perform) message (endpoint.routes.candidates session) 0
    (world.withMesh (world.mesh.holdEndpoint id)) = run
  obtain ⟨result, after⟩ := run
  cases result <;> rfl

end World

/-- A delivery tries the candidates that it was given, in order and with the message unchanged, up
to the first that takes it, whatever the links do to the world meanwhile; and what a request to an
endpoint gives it are the entries under exactly the session asked for, as they stand at the call. -/
theorem snapshot_delivery :
    (∀ (State : Type) (push : State → Link → Message → Option LinkError × State)
      (message : Message) (links : List Link) (state : State), ∃ offers,
        deliver (noting push) message links 0 (state, []) =
            ((deliver push message links 0 state).1, (deliver push message links 0 state).2,
              offers) ∧
          Offered links message links.length offers (deliver push message links 0 state).1) ∧
      ∀ (world : World) (label : String) (id : Nat) (endpoint : Endpoint),
        world.endpointAt label = some (id, endpoint) →
          ∀ (perform : Performer) (message : Message) (session : SessionId),
            ∃ offers sent after,
              deliver (noting (World.push perform)) message (endpoint.routes.candidates session) 0
                  (world.withMesh (world.mesh.holdEndpoint id), []) = (sent, after, offers) ∧
                Offered (endpoint.routes.candidates session) message
                  (.routing (.noRoute endpoint.name session
                    (endpoint.routes.candidates session).length)) offers
                  (sent.mapError (World.unsent endpoint session)) ∧
                world.performEndpoint perform label (.pushTo message session) =
                  ((after.withMesh (after.mesh.letGoEndpoint id)).deliveryOutcome
                      (sent.mapError (World.unsent endpoint session)),
                    after.withMesh (after.mesh.letGoEndpoint id)) := by
  refine ⟨fun _ push message links state => deliver_offered push message links state, ?_⟩
  intro world label id endpoint present perform message session
  obtain ⟨offers, sent, after, noted, offered, call⟩ :=
    world.send_offered perform id endpoint message session
  refine ⟨offers, sent, after, noted, offered, ?_⟩
  unfold World.performEndpoint World.withEndpoint
  rw [present]
  dsimp only
  rw [call]

/-- The first link refuses every message, and takes the second off the endpoint and puts a third on
it while it does so. -/
def World.meddling : World :=
  [.scriptLink "first" ":b.1" (.replicate 1) .always .closed
      [[.endpoint "e" (.removeLink "second"), .endpoint "e" (.addLink "third")]],
    .scriptLink "second" ":c.1" (.replicate 2) .never .closed [],
    .scriptLink "third" ":d.1" (.replicate 3) .never .closed [],
    .endpoint "e" (.new ":b.5" "first" .firstAvailable),
    .endpoint "e" (.addLink "second")].foldl (fun world step => (world.perform step).2) World.empty

theorem snapshot_delivery_meddling :
    ∃ offers sent after, World.meddling.performEndpoint (World.performNested 0) "e"
          (.pushTo (.methodCall 1 ":a.1" ":b.5" "Ping") .direct) =
        (.answer (.delivered (some "second") ⟨⟨1, ":c.1", .replicate 2⟩, 2⟩), after) ∧
      Offered [⟨0, ":b.1", .replicate 1⟩, ⟨1, ":c.1", .replicate 2⟩]
        (.methodCall 1 ":a.1" ":b.5" "Ping") (Failure.routing (.noRoute ":b.5" .direct 2)) offers
        sent ∧
      offers.map (fun offer => (offer.link.name, offer.answer)) =
        [(":b.1", some (.closed ":b.1")), (":c.1", none)] ∧
      (after.endpointAt "e").map (fun found => found.2.routes.candidates .direct) =
        some [⟨0, ":b.1", .replicate 1⟩, ⟨2, ":d.1", .replicate 3⟩] := by
  have present : World.meddling.endpointAt "e" = some (0,
      ⟨":b.5", .started, false,
        ⟨⟨[(⟨0⟩, [⟨0, ":b.1", .replicate 1⟩, ⟨1, ":c.1", .replicate 2⟩])]⟩⟩, .firstAvailable⟩) :=
    rfl
  obtain ⟨offers, sent, after, noted, offered, call⟩ :=
    snapshot_delivery.2 World.meddling "e" 0 _ present (World.performNested 0)
      (.methodCall 1 ":a.1" ":b.5" "Ping") .direct
  have told := congrArg (fun run => run.2.2) noted
  have led := congrArg (fun run => run.2.1) noted
  have ended := congrArg Prod.fst noted
  subst told led ended
  exact ⟨_, _, _, call, offered, rfl, rfl⟩

end DaemonMesh
