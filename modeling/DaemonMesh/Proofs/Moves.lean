import DaemonMesh.Mesh.LinkLoss
import DaemonMesh.Mesh.Registration

namespace DaemonMesh

namespace Mesh

/-- One change of the routing state: a call of the routing core that went through, an object made or
let go, or the beginning or end of a call during which links and subscribers run code of their own.
What that code does is moves again, so a run may interleave them in any way. A selector may propose
any link or none, and a lost link may be taken from the endpoints in any order. Only if `handles`
holds are endpoints changed through handles of their own, behind the routers. -/
inductive Move (handles : Prop) : Mesh → Mesh → Prop
  | openLink {mesh : Mesh} (name : String) (guid : Guid) :
      Move handles mesh (mesh.openLink name guid).2
  | newTable {mesh : Mesh} : Move handles mesh (mesh.addTable .empty).2
  | seedTable {mesh : Mesh} {link : Link} (opened : link ∈ mesh.links) :
      Move handles mesh (mesh.addTable (.withDirect link)).2
  | dropTable {mesh : Mesh} (id : Nat) : Move handles mesh (mesh.dropTable id)
  | insertDirect {mesh : Mesh} {id : Nat} {table : RouteTable} {link : Link}
      (atId : mesh.table? id = some table) (opened : link ∈ mesh.links) :
      Move handles mesh (mesh.setTable id (table.insertDirect link).2)
  | bindTable {mesh next : Mesh} {id : Nat} {table : RouteTable} {session : SessionId} {link : Link}
      {bound : Bool} (atId : mesh.table? id = some table)
      (call : mesh.bindTable id table session link = .ok (bound, next)) : Move handles mesh next
  | unbindTable {mesh next : Mesh} {id : Nat} {table : RouteTable} {session : SessionId}
      {removed : Option Link} (atId : mesh.table? id = some table)
      (call : mesh.unbindTable id table session = .ok (removed, next)) : Move handles mesh next
  | removeFromTable {mesh : Mesh} {id : Nat} {table : RouteTable}
      (atId : mesh.table? id = some table) (link : Link) :
      Move handles mesh (mesh.removeFromTable id table link).2
  | newEndpoint {mesh : Mesh} {link : Link} (opened : link ∈ mesh.links) (name : String)
      (selector : Selector) : Move handles mesh (mesh.addEndpoint (.reachedBy name link selector)).2
  | holdEndpoint {mesh : Mesh} (id : Nat) : Move handles mesh (mesh.holdEndpoint id)
  | letGoEndpoint {mesh : Mesh} (id : Nat) : Move handles mesh (mesh.letGoEndpoint id)
  | newRouter {mesh : Mesh} (selector : Selector) (registry : Nat) (config : RouterConfig) :
      Move handles mesh (mesh.addRouter ⟨.empty, selector, registry, config⟩).2
  | holdRouter {mesh : Mesh} (id : Nat) : Move handles mesh (mesh.holdRouter id)
  | letGoRouter {mesh : Mesh} (id : Nat) : Move handles mesh (mesh.letGoRouter id)
  | newRegistry {mesh : Mesh} : Move handles mesh mesh.addRegistry.2
  | setRegistry {mesh : Mesh} (id : Nat) (registry : Registry) :
      Move handles mesh (mesh.setRegistry id registry)
  | reach {mesh : Mesh} {id : Nat} {router : Router} {link : Link}
      (atId : mesh.router? id = some router) (opened : link ∈ mesh.links) (name : String) :
      Move handles mesh (mesh.reach id router name link).2
  | bindSession {mesh next : Mesh} {id target : Nat} {router : Router} {endpoint : Endpoint}
      {name : String} {session : SessionId} {choice : Option Link} {chosen : Link}
      (atId : mesh.router? id = some router)
      (found : mesh.lookup router name = some (target, endpoint))
      (call : mesh.bindChosen target endpoint session choice = .ok (chosen, next)) :
      Move handles mesh next
  | unbindSession {mesh next : Mesh} {id target : Nat} {router : Router} {endpoint : Endpoint}
      {name : String} {session : SessionId} {unbound : Bool}
      (atId : mesh.router? id = some router)
      (found : mesh.lookup router name = some (target, endpoint))
      (call : mesh.unbind target endpoint session = .ok (unbound, next)) : Move handles mesh next
  | loseLink {mesh : Mesh} {id : Nat} {router : Router} {order : List Nat}
      (atId : mesh.router? id = some router) (visits : order.Perm router.endpoints.values)
      (link : Link) : Move handles mesh (mesh.loseLinkIn order id link).2
  | addLink {mesh next : Mesh} {id : Nat} {endpoint : Endpoint} {link : Link} {added : Bool}
      (allowed : handles) (atId : mesh.endpoint? id = some endpoint) (opened : link ∈ mesh.links)
      (call : mesh.addLink id endpoint link = .ok (added, next)) : Move handles mesh next
  | removeLink {mesh : Mesh} {id : Nat} {endpoint : Endpoint} (allowed : handles)
      (atId : mesh.endpoint? id = some endpoint) (link : Link) :
      Move handles mesh (mesh.removeLink id endpoint link).2
  | bind {mesh next : Mesh} {id : Nat} {endpoint : Endpoint} {session : SessionId} {link : Link}
      (allowed : handles) (atId : mesh.endpoint? id = some endpoint)
      (call : mesh.bind id endpoint session link = .ok next) : Move handles mesh next
  | bindChosen {mesh next : Mesh} {id : Nat} {endpoint : Endpoint} {session : SessionId}
      {choice : Option Link} {chosen : Link} (allowed : handles)
      (atId : mesh.endpoint? id = some endpoint)
      (call : mesh.bindChosen id endpoint session choice = .ok (chosen, next)) :
      Move handles mesh next
  | unbind {mesh next : Mesh} {id : Nat} {endpoint : Endpoint} {session : SessionId}
      {unbound : Bool}
      (allowed : handles) (atId : mesh.endpoint? id = some endpoint)
      (call : mesh.unbind id endpoint session = .ok (unbound, next)) : Move handles mesh next

/-- The routing states that runs of moves lead to, from the one without any object. -/
inductive Reach (handles : Prop) : Mesh → Prop
  | start : Reach handles empty
  | next {mesh after : Mesh} : Reach handles mesh → Move handles mesh after → Reach handles after

end Mesh

end DaemonMesh
