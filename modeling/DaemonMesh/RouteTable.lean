import DaemonMesh.Link
import DaemonMesh.OrderedMap
import DaemonMesh.Session
import DaemonMesh.Text.Shown

namespace DaemonMesh

/-- What the removal of a link took out of a table: its direct paths, and the session of every
binding, one for each reference that the table held. -/
structure RemovedRoutes where
  direct : Nat
  sessions : List SessionId
deriving DecidableEq, Repr

def RemovedRoutes.total (removed : RemovedRoutes) : Nat := removed.direct + removed.sessions.length

/-- The links that lead to one remote attachment, by session and in the order they came. Session
0 holds the direct paths; every other session rides on links that are direct paths too. Each
binding of a session stands for one reference on its link. -/
structure RouteTable where
  buckets : OrderedMap SessionId (List Link)

namespace RouteTable

def empty : RouteTable := ⟨.empty⟩

def withDirect (link : Link) : RouteTable := ⟨OrderedMap.empty.insert .direct [link]⟩

/-- The links under exactly this session. -/
def candidates (table : RouteTable) (session : SessionId) : List Link :=
  (table.buckets.find? session).getD []

def firstBound (table : RouteTable) (session : SessionId) : Option Link × Nat :=
  ((table.candidates session).head?, (table.candidates session).length)

def directLinks (table : RouteTable) : List Link := table.candidates .direct

def hasDirect (table : RouteTable) (link : Link) : Bool := table.directLinks.contains link

/-- Adds a link behind the others of its session. -/
def append (table : RouteTable) (session : SessionId) (link : Link) : RouteTable :=
  ⟨table.buckets.insert session (table.candidates session ++ [link])⟩

/-- Adds a direct path, unless this very link is one already. -/
def insertDirect (table : RouteTable) (link : Link) : Bool × RouteTable :=
  if table.hasDirect link then (false, table) else (true, table.append .direct link)

/-- Binds a session to a link, which must be a direct path. The caller takes the reference. -/
def bind? (table : RouteTable) (session : SessionId) (link : Link) : Option RouteTable :=
  if table.hasDirect link then some (table.append session link) else none

/-- Takes the oldest binding of a session away; a bucket that runs empty goes with it. The caller
releases the reference. -/
def unbind? (table : RouteTable) (session : SessionId) : Option (Link × RouteTable) :=
  match table.candidates session with
  | [] => none
  | [link] => some (link, ⟨table.buckets.erase session⟩)
  | link :: rest => some (link, ⟨table.buckets.insert session rest⟩)

/-- The sessions of all bindings to a link, ascending, once for every binding. -/
def bindingsTo (table : RouteTable) (link : Link) : List SessionId :=
  table.buckets.entries.flatMap fun bucket =>
    if bucket.1.isDirect then [] else List.replicate (bucket.2.count link) bucket.1

/-- Takes away every entry of a link, and the buckets that run empty. The caller releases one
reference for each session reported. -/
def removeLink (table : RouteTable) (link : Link) : RemovedRoutes × RouteTable :=
  (⟨table.directLinks.count link, table.bindingsTo link⟩,
    ⟨⟨(table.buckets.entries.map fun bucket => (bucket.1, bucket.2.filter fun other => other ≠ link))
      |>.filter fun bucket => !bucket.2.isEmpty⟩⟩)

def sessionBuckets (table : RouteTable) : List (SessionId × List Link) :=
  table.buckets.entries.filter fun bucket => !bucket.1.isDirect

def hasSessionRoutes (table : RouteTable) : Bool := !table.sessionBuckets.isEmpty

/-- The links of all session bindings, each as often as it is bound: the references that the
table holds. -/
def sessionLinks (table : RouteTable) : List Link := table.sessionBuckets.flatMap Prod.snd

/-- Every entry's link, by ascending session. -/
def links (table : RouteTable) : List Link := table.buckets.entries.flatMap Prod.snd

def reaches (table : RouteTable) (guid : Guid) : Bool := table.links.any fun link => link.guid == guid

def canRouteWithout (table : RouteTable) (guid : Guid) : Bool :=
  table.links.any fun link => link.guid != guid

/-- The sessions bound to a link, ascending, each once. -/
def sessionsOf (table : RouteTable) (link : Link) : List SessionId :=
  (table.sessionBuckets.filter fun bucket => bucket.2.contains link).map Prod.fst

def hasLinkNamed (table : RouteTable) (names : List String) : Bool :=
  names.any fun name => table.links.any fun link => link.name == name

def size (table : RouteTable) : Nat := table.links.length

def isEmpty (table : RouteTable) : Bool := table.buckets.entries.isEmpty

def shown (table : RouteTable) : String :=
  shownMap (table.buckets.entries.map fun bucket =>
    (bucket.1.shown, shownList (bucket.2.map fun link => shownText link.name)))

end RouteTable

end DaemonMesh
