import DaemonMesh.Router

namespace DaemonMesh

/-- The routing state as a whole. Links, tables, endpoints, routers and registries are known by
their numbers; one that is gone leaves its number unused. Tables belong to whoever made them.
Endpoints and routers live as long as somebody holds them: `endpointHandles` and `routerHandles`
count the handles outside, and a router holds the endpoints that it has registered. -/
structure Mesh where
  /-- All links ever opened, each at the place of its number. -/
  links : List Link
  /-- The references on each link. -/
  counts : List Nat
  /-- All releases ever asked of a link that had no reference left, in order. -/
  overdrawn : List Link
  tables : List (Option RouteTable)
  endpoints : List (Option Endpoint)
  endpointHandles : List Nat
  routers : List (Option Router)
  routerHandles : List Nat
  registries : List Registry

namespace Mesh

def empty : Mesh := ⟨[], [], [], [], [], [], [], [], []⟩

/-- A new link differs from all others by its number. -/
def openLink (mesh : Mesh) (name : String) (guid : Guid) : Link × Mesh :=
  let link := ⟨mesh.links.length, name, guid⟩
  (link, { mesh with links := mesh.links ++ [link], counts := mesh.counts ++ [0] })

def count (mesh : Mesh) (link : Link) : Nat := mesh.counts[link.number]?.getD 0

def acquire (mesh : Mesh) (link : Link) : Mesh :=
  { mesh with counts := mesh.counts.modify link.number (· + 1) }

/-- A count never goes below zero; the release that would take it there is noted instead. -/
def release (mesh : Mesh) (link : Link) : Mesh :=
  if mesh.count link = 0 then { mesh with overdrawn := mesh.overdrawn ++ [link] }
  else { mesh with counts := mesh.counts.modify link.number (· - 1) }

def releaseAll (mesh : Mesh) (links : List Link) : Mesh := links.foldl release mesh

def table? (mesh : Mesh) (id : Nat) : Option RouteTable := mesh.tables[id]?.join

def addTable (mesh : Mesh) (table : RouteTable) : Nat × Mesh :=
  (mesh.tables.length, { mesh with tables := mesh.tables ++ [some table] })

def setTable (mesh : Mesh) (id : Nat) (table : RouteTable) : Mesh :=
  { mesh with tables := mesh.tables.set id (some table) }

/-- A table that goes gives back the references of its bindings. -/
def dropTable (mesh : Mesh) (id : Nat) : Mesh :=
  match mesh.table? id with
  | none => mesh
  | some table =>
    { mesh with tables := mesh.tables.set id none }.releaseAll table.sessionLinks

def endpoint? (mesh : Mesh) (id : Nat) : Option Endpoint := mesh.endpoints[id]?.join

def addEndpoint (mesh : Mesh) (endpoint : Endpoint) : Nat × Mesh :=
  (mesh.endpoints.length, { mesh with endpoints := mesh.endpoints ++ [some endpoint] })

def setEndpoint (mesh : Mesh) (id : Nat) (endpoint : Endpoint) : Mesh :=
  { mesh with endpoints := mesh.endpoints.set id (some endpoint) }

def router? (mesh : Mesh) (id : Nat) : Option Router := mesh.routers[id]?.join

def addRouter (mesh : Mesh) (router : Router) : Nat × Mesh :=
  (mesh.routers.length, { mesh with routers := mesh.routers ++ [some router] })

def setRouter (mesh : Mesh) (id : Nat) (router : Router) : Mesh :=
  { mesh with routers := mesh.routers.set id (some router) }

def registry (mesh : Mesh) (id : Nat) : Registry := mesh.registries[id]?.getD .empty

def addRegistry (mesh : Mesh) : Nat × Mesh :=
  (mesh.registries.length, { mesh with registries := mesh.registries ++ [.empty] })

def setRegistry (mesh : Mesh) (id : Nat) (registry : Registry) : Mesh :=
  { mesh with registries := mesh.registries.set id registry }

end Mesh

end DaemonMesh
