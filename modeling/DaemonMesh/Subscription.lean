import DaemonMesh.Session

namespace DaemonMesh

/-- What a router tells its subscribers. -/
inductive RouteEvent
  | retired (endpoint : String)
  | sessionLost (endpoint : String) (session : SessionId) (reason : LossReason)
deriving DecidableEq, Repr

/-- A subscriber under the number it was given. -/
structure Subscription where
  handle : Nat
  subscriber : Nat
deriving DecidableEq, Repr

/-- The subscribers of a router, oldest first. Numbers go up and are never given twice. -/
structure Registry where
  nextHandle : Nat
  subscriptions : List Subscription
deriving DecidableEq, Repr

namespace Registry

def empty : Registry := ⟨0, []⟩

def subscribe (registry : Registry) (subscriber : Nat) : Nat × Registry :=
  (registry.nextHandle,
    ⟨registry.nextHandle + 1, registry.subscriptions ++ [⟨registry.nextHandle, subscriber⟩]⟩)

/-- Unknown numbers are ignored. -/
def unsubscribe (registry : Registry) (handle : Nat) : Registry :=
  { registry with
    subscriptions := registry.subscriptions.filter fun entry => entry.handle ≠ handle }

def count (registry : Registry) : Nat := registry.subscriptions.length

end Registry

/-- How a subscriber's handling of an event ended. -/
inductive Completion
  | finished
  | crashed
deriving DecidableEq, Repr

/-- Calls every subscriber of a snapshot with the event. A crash stays with the subscriber it came
from, and changes of the list made meanwhile do not touch the snapshot. -/
def announce {World : Type} (call : World → Subscription → RouteEvent → Completion × World)
    (event : RouteEvent) (snapshot : List Subscription) (world : World) : World :=
  snapshot.foldl (fun world entry => (call world entry event).2) world

def shownHandle (handle : Nat) : String := "SubscriptionHandle(" ++ toString handle ++ ")"

end DaemonMesh
