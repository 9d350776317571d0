import DaemonMesh.RouteTable

namespace DaemonMesh

/-- What a selector may look at: the table, the session that asks and its options, and the links
that go by a name. -/
structure Selection where
  routes : RouteTable
  session : SessionId
  opts : Option SessionOpts
  linkNamed : String → Option Link

/-- How an endpoint picks the link for a new session binding. A custom choice may be any link or
none; whether it may be bound is not the selector's business. -/
inductive Selector
  | firstAvailable
  | custom (choose : Selection → Option Link)

namespace Selector

/-- A link that carries the session already, or else the oldest direct path. -/
def chooseFirst (routes : RouteTable) (session : SessionId) : Option Link :=
  (routes.firstBound session).1 <|> routes.directLinks.head?

def choose (selector : Selector) (selection : Selection) : Option Link :=
  match selector with
  | firstAvailable => chooseFirst selection.routes selection.session
  | custom choose => choose selection

/-- The youngest direct path. -/
def lastDirect : Selector := custom fun selection => selection.routes.directLinks.getLast?

/-- The direct path at the place that the wished proximity falls on, counted around; the oldest
one if there are no wishes. -/
def byProximity : Selector := custom fun selection =>
  let direct := selection.routes.directLinks
  match selection.opts with
  | none => direct.head?
  | some opts => direct[opts.proximity.toNat % direct.length]?

/-- Always the link of this name, direct path or not. -/
def fixed (name : String) : Selector := custom fun selection => selection.linkNamed name

def never : Selector := custom fun _ => none

end Selector

end DaemonMesh
