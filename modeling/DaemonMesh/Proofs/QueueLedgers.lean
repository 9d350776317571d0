import DaemonMesh.Scenario.World
import Mathlib.Data.List.Basic

namespace DaemonMesh

/-- What becomes of a message at a queue: a send that names the link succeeds, or its receiving end
is handed the message. -/
inductive Dealing
  | sent (link : Link) (message : Message)
  | received (link : Link) (message : Message)
deriving DecidableEq, Repr

/-- The messages whose sends succeeded naming this very link, in order. -/
def sentOver (ledger : List Dealing) (link : Link) : List Message :=
  ledger.filterMap fun
    | .sent other message => if other.number = link.number then some message else none
    | .received _ _ => none

/-- The messages that the receiving end of this very link was handed, in order. -/
def receivedOver (ledger : List Dealing) (link : Link) : List Message :=
  ledger.filterMap fun
    | .sent _ _ => none
    | .received other message => if other.number = link.number then some message else none

section Ledgers

variable (ledger : List Dealing) (link other : Link) (message : Message)

/-- Ledgers are read in pieces, as they grow at their end. -/
@[simp] theorem sentOver_append (more : List Dealing) :
    sentOver (ledger ++ more) link = sentOver ledger link ++ sentOver more link :=
  List.filterMap_append

@[simp] theorem receivedOver_append (more : List Dealing) :
    receivedOver (ledger ++ more) link = receivedOver ledger link ++ receivedOver more link :=
  List.filterMap_append

/-- Links are told apart by their numbers: two links of one name are two links. -/
@[simp] theorem sentOver_sent : sentOver [.sent other message] link =
    if other.number = link.number then [message] else [] := by
  unfold sentOver
  split <;> simp_all

@[simp] theorem receivedOver_sent : receivedOver [.sent other message] link = [] := rfl

/-- Messages that are handed out were sent before, and are not counted again. -/
@[simp] theorem sentOver_received (messages : List Message) :
    sentOver (messages.map (.received other)) link = [] := by
  unfold sentOver
  simp [List.filterMap_map]

@[simp] theorem receivedOver_received (messages : List Message) :
    receivedOver (messages.map (.received other)) link =
      if other.number = link.number then messages else [] := by
  unfold receivedOver
  by_cases same : other.number = link.number <;>
    simp [List.filterMap_map, same]

end Ledgers

namespace Queue

/-- Open, and with room for another message. -/
def Accepts (queue : Queue) : Prop :=
  queue.isOpen = true ∧ queue.waiting.length < queue.capacity

/-- The queue behind a message that it has taken. -/
def taking (queue : Queue) (message : Message) : Queue :=
  { queue with waiting := queue.waiting ++ [message], sent := queue.sent + 1 }

variable {queue next : Queue} {link : String} {message : Message}

/-- A queue takes a message if it is open and has room, and then it goes behind all the others. -/
theorem push_eq_ok_iff :
    queue.push link message = .ok next ↔ queue.Accepts ∧ next = queue.taking message := by
  unfold push Accepts taking
  cases queue.isOpen with
  | false => simp
  | true =>
    by_cases full : queue.capacity ≤ queue.waiting.length
    · simp [full, Nat.not_lt.mpr full]
    · simp [full, Nat.lt_of_not_le full, eq_comm]

end Queue

/-- One change of the queues behind the links: a message goes in, messages come out, a receiving end
goes, or a new queue is made. Whatever is done to links is made of such changes. -/
inductive Shift : List Carrier → List Dealing → List Carrier → Prop
  | rest (carriers : List Carrier) : Shift carriers [] carriers
  | send {carriers : List Carrier} {link : Link} {queue : Queue}
      (atLink : carriers[link.number]? = some (.queue queue)) (accepts : queue.Accepts)
      (message : Message) :
      Shift carriers [.sent link message] (carriers.set link.number (.queue (queue.taking message)))
  | receive {carriers : List Carrier} {link : Link} {queue : Queue} {taken left : List Message}
      (atLink : carriers[link.number]? = some (.queue queue))
      (waiting : queue.waiting = taken ++ left) :
      Shift carriers (taken.map (.received link))
        (carriers.set link.number (.queue { queue with waiting := left }))
  | close {carriers : List Carrier} {link : Link} {queue : Queue}
      (atLink : carriers[link.number]? = some (.queue queue)) :
      Shift carriers [] (carriers.set link.number (.queue queue.close))
  | make (carriers : List Carrier) (capacity : Nat) :
      Shift carriers [] (carriers ++ [.queue (.opened capacity)])

/-- Nothing is lost on a queue and nothing comes twice: what its receiving end was handed and what
still waits is what was sent, as long as the receiving end is there. The count of what was sent is
kept in a machine word. -/
structure Queue.Settled (queue : Queue) (sent received : List Message) : Prop where
  bounded : queue.waiting.length ≤ queue.capacity
  counted : queue.sent = UInt64.ofNat sent.length
  kept : queue.isOpen = true → received ++ queue.waiting = sent

/-- There are queues only, each settled, and nothing was dealt over links yet to come. -/
structure Conserved (carriers : List Carrier) (ledger : List Dealing) : Prop where
  queues : ∀ (place : Nat) (carrier : Carrier), carriers[place]? = some carrier →
    ∃ queue, carrier = .queue queue
  settled : ∀ (link : Link) (queue : Queue), carriers[link.number]? = some (.queue queue) →
    queue.Settled (sentOver ledger link) (receivedOver ledger link)
  unopened : ∀ link : Link, carriers[link.number]? = none →
    sentOver ledger link = [] ∧ receivedOver ledger link = []

theorem conserved_nothing : Conserved [] [] where
  queues := by simp
  settled := by simp
  unopened _ _ := ⟨rfl, rfl⟩

variable {carriers next : List Carrier} {ledger dealings : List Dealing}

/-- A change of the queue behind one link is no matter of the others. -/
theorem Conserved.exchange (conserved : Conserved carriers ledger) {link : Link} {queue : Queue}
    (atLink : carriers[link.number]? = some (.queue queue)) (after : Queue)
    (elsewhere : ∀ other : Link, other.number ≠ link.number →
      sentOver dealings other = [] ∧ receivedOver dealings other = [])
    (settles : ∀ same : Link, same.number = link.number →
      queue.Settled (sentOver ledger same) (receivedOver ledger same) →
        after.Settled (sentOver ledger same ++ sentOver dealings same)
          (receivedOver ledger same ++ receivedOver dealings same)) :
    Conserved (carriers.set link.number (.queue after)) (ledger ++ dealings) := by
  have within : link.number < carriers.length := (List.getElem?_eq_some_iff.mp atLink).1
  have exchanged (place : Nat) : (carriers.set link.number (.queue after))[place]? =
      if link.number = place then some (.queue after) else carriers[place]? := by
    rw [List.getElem?_set, if_pos within]
  refine ⟨fun place carrier found => ?_, fun other current found => ?_, fun other beyond => ?_⟩
  · rw [exchanged] at found
    split at found
    · exact ⟨after, (Option.some.inj found).symm⟩
    · exact conserved.queues place carrier found
  · rw [sentOver_append, receivedOver_append]
    rw [exchanged] at found
    split at found
    · next same =>
      obtain rfl := Carrier.queue.inj (Option.some.inj found)
      exact settles other same.symm (conserved.settled other queue (same ▸ atLink))
    · next different =>
      obtain ⟨sent, received⟩ := elsewhere other (Ne.symm different)
      rw [sent, received, List.append_nil, List.append_nil]
      exact conserved.settled other current found
  · -- A number beyond the carriers is not the number of the queue exchanged.
    rw [sentOver_append, receivedOver_append]
    have before : carriers[other.number]? = none := by
      rw [List.getElem?_eq_none_iff, List.length_set] at beyond
      exact List.getElem?_eq_none_iff.mpr beyond
    have different : other.number ≠ link.number := by
      intro same
      rw [same, atLink] at before
      cases before
    obtain ⟨sent, received⟩ := elsewhere other different
    obtain ⟨noneSent, noneReceived⟩ := conserved.unopened other before
    rw [sent, received, noneSent, noneReceived]
    exact ⟨rfl, rfl⟩

/-- A new queue is empty, and over its number nothing was dealt before. -/
theorem Conserved.make (conserved : Conserved carriers ledger) (capacity : Nat) :
    Conserved (carriers ++ [.queue (.opened capacity)]) ledger := by
  refine ⟨fun place carrier found => ?_, fun link queue found => ?_, fun link beyond => ?_⟩
  · rw [List.getElem?_append] at found
    split at found
    · exact conserved.queues place carrier found
    · exact ⟨_, List.mem_singleton.mp (List.mem_of_getElem? found)⟩
  · rw [List.getElem?_append] at found
    split at found
    · exact conserved.settled link queue found
    · next beyond =>
      have fresh := List.mem_singleton.mp (List.mem_of_getElem? found)
      obtain ⟨sent, received⟩ :=
        conserved.unopened link (List.getElem?_eq_none (Nat.not_lt.mp beyond))
      rw [Carrier.queue.inj fresh, sent, received]
      exact ⟨Nat.zero_le _, rfl, fun _ => rfl⟩
  · refine conserved.unopened link (List.getElem?_eq_none ?_)
    rw [List.getElem?_eq_none_iff, List.length_append] at beyond
    exact Nat.le_trans (Nat.le_add_right _ _) beyond

/-- The step of the invariant. Only one queue changes at a time, and what is dealt over it is just
what it gains or loses. -/
theorem Shift.conserved (shift : Shift carriers dealings next)
    (conserved : Conserved carriers ledger) : Conserved next (ledger ++ dealings) := by
  cases shift with
  | rest =>
    rw [List.append_nil]
    exact conserved
  | @send link queue atLink accepts message =>
    refine conserved.exchange atLink _ (fun other different => ?_) fun same number settled => ?_
    · simp [different.symm]
    · rw [sentOver_sent, receivedOver_sent, if_pos number.symm, List.append_nil]
      refine ⟨?_, ?_, fun isOpen => ?_⟩
      · show (queue.waiting ++ [message]).length ≤ queue.capacity
        rw [List.length_append]
        exact accepts.2
      · show queue.sent + 1 = _
        rw [settled.counted, List.length_append, List.length_singleton, UInt64.ofNat_add]
        rfl
      · show receivedOver ledger same ++ (queue.waiting ++ [message]) = _
        rw [← List.append_assoc, settled.kept isOpen]
  | @receive link queue taken left atLink waiting =>
    refine conserved.exchange atLink _ (fun other different => ?_) fun same number settled => ?_
    · simp [different.symm]
    · rw [sentOver_received, receivedOver_received, if_pos number.symm, List.append_nil]
      refine ⟨?_, settled.counted, fun isOpen => ?_⟩
      · have bounded := settled.bounded
        rw [waiting, List.length_append] at bounded
        exact Nat.le_trans (Nat.le_add_left _ _) bounded
      · rw [List.append_assoc, ← waiting]
        exact settled.kept isOpen
  | @close link queue atLink =>
    refine conserved.exchange atLink _ (fun _ _ => ⟨rfl, rfl⟩) fun same number settled => ?_
    refine ⟨Nat.zero_le _, ?_, nofun⟩
    show queue.sent = UInt64.ofNat (sentOver ledger same ++ []).length
    rw [List.append_nil]
    exact settled.counted
  | make capacity =>
    rw [List.append_nil]
    exact conserved.make capacity

end DaemonMesh
