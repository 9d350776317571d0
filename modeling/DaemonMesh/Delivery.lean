import DaemonMesh.Failure
import DaemonMesh.Link
import DaemonMesh.Message
import DaemonMesh.Text.Shown

namespace DaemonMesh

/-- The outbound side of a link: a bounded queue between the router and the writer of the transport.
Once the receiving end is gone the queue is closed and what it held is lost. It counts the messages
that it took, in a machine word that starts over at zero when it runs full. -/
structure Queue where
  capacity : Nat
  waiting : List Message
  isOpen : Bool
  sent : UInt64
deriving DecidableEq, Repr

namespace Queue

def opened (capacity : Nat) : Queue := ⟨capacity, [], true, 0⟩

/-- Never waits: a closed queue and a full one refuse the message at once, closed before full. -/
def push (queue : Queue) (link : String) (message : Message) : Except LinkError Queue :=
  if !queue.isOpen then .error (.closed link)
  else if queue.capacity ≤ queue.waiting.length then .error (.backpressure link)
  else .ok { queue with waiting := queue.waiting ++ [message], sent := queue.sent + 1 }

/-- The message that has waited longest. -/
def receive (queue : Queue) : Option Message × Queue :=
  (queue.waiting.head?, { queue with waiting := queue.waiting.tail })

def drain (queue : Queue) : List Message × Queue :=
  (queue.waiting, { queue with waiting := [] })

def close (queue : Queue) : Queue := { queue with waiting := [], isOpen := false }

end Queue

/-- The link that took a message, and how many were asked up to and with it. -/
structure Delivery where
  link : Link
  attempts : Nat
deriving DecidableEq, Repr

def Delivery.shown (delivery : Delivery) : String :=
  shownRecord "Delivery"
    [("link", shownText delivery.link.name), ("attempts", toString delivery.attempts)]

/-- Offers a message to the candidates one after the other until one takes it; otherwise says how
many were asked. The candidates are fixed beforehand, whatever an offer does to the world. -/
def deliver {World : Type} (push : World → Link → Message → Option LinkError × World)
    (message : Message) : List Link → Nat → World → Except Nat Delivery × World
  | [], asked, world => (.error asked, world)
  | link :: rest, asked, world =>
    match push world link message with
    | (none, world) => (.ok ⟨link, asked + 1⟩, world)
    | (some _, world) => deliver push message rest (asked + 1) world

end DaemonMesh
