import DaemonMesh.Proofs.EndpointLifecycle
import DaemonMesh.Proofs.SteadySessions

namespace DaemonMesh

/-- What may be asked of an endpoint in a session. -/
inductive SessionRequest
  | bind (link : Link)
  | bindBest (opts : Option SessionOpts)
  | unbind

structure SessionCall where
  session : SessionId
  request : SessionRequest

/-- The operation on an endpoint that a call comes down to, where links go by these names. -/
def SessionCall.operation (linkNamed : String → Option Link) (call : SessionCall) :
    Endpoint.Call :=
  match call.request with
  | .bind link => .bind call.session link
  | .bindBest opts => .bindBest call.session opts linkNamed
  | .unbind => .unbind call.session

/-- Carries a call out on the endpoint of a number; without the endpoint there is no reply. -/
def World.serve (id : Nat) (world : World) (call : SessionCall) : Option Endpoint.Reply × World :=
  match world.mesh.endpoint? id with
  | none => (none, world)
  | some endpoint =>
    match call.request with
    | .bind link =>
      match world.mesh.bind id endpoint call.session link with
      | .error failure => (some (.failed failure), world)
      | .ok mesh => (some (.bound link), world.withMesh mesh)
    | .bindBest opts =>
      match world.bindBest id endpoint call.session opts with
      | (.error failure, world) => (some (.failed failure), world)
      | (.ok link, world) => (some (.bound link), world)
    | .unbind =>
      match world.mesh.unbind id endpoint call.session with
      | .error failure => (some (.failed failure), world)
      | .ok (unbound, mesh) => (some (.flag unbound), world.withMesh mesh)

namespace Mesh

variable {mesh next : Mesh} {id : Nat} {before after : Endpoint} {session : SessionId} {link : Link}

/-- Nothing but one endpoint and the references has changed, and the references are accounted
for. -/
structure Exchanged (mesh : Mesh) (id : Nat) (next : Mesh) (endpoint : Endpoint) : Prop where
  accounted : next.Accounted
  frame : ∃ counts, next =
    { mesh with endpoints := mesh.endpoints.set id (some endpoint), counts }

theorem exchanged_self (accounted : mesh.Accounted) (atId : mesh.endpoint? id = some before) :
    mesh.Exchanged id mesh before := by
  obtain ⟨below, there⟩ := List.getElem?_eq_some_iff.mp (endpoint?_eq_some.mp atId)
  refine ⟨accounted, mesh.counts, ?_⟩
  rw [← there, List.set_getElem_self below]

theorem Exchanged.at_id (exchanged : mesh.Exchanged id next before)
    (below : id < mesh.endpoints.length) : next.endpoint? id = some before := by
  obtain ⟨counts, rfl⟩ := exchanged.frame
  exact endpoint?_eq_some.mpr (List.getElem?_set_self below)

/-- The count goes up by the one binding that the endpoint has gained. -/
theorem Exchanged.bind (exchanged : mesh.Exchanged id next before)
    (below : id < mesh.endpoints.length) (bound : before.bind session link = .ok after) :
    mesh.Exchanged id ((next.setEndpoint id after).acquire link) after := by
  have changes : Changes True next _ := changes_bind (exchanged.at_id below) bound
  refine ⟨changes.accounted exchanged.accounted, ?_⟩
  obtain ⟨counts, rfl⟩ := exchanged.frame
  refine ⟨counts.modify link.number (· + 1), ?_⟩
  simp only [setEndpoint, acquire, List.set_set]

/-- The count goes down by the binding that has ended. -/
theorem Exchanged.unbind (exchanged : mesh.Exchanged id next before)
    (below : id < mesh.endpoints.length)
    (unbound : before.unbind session = .ok (some (link, after))) :
    mesh.Exchanged id ((next.setEndpoint id after).release link) after := by
  have call : next.unbind id before session =
      .ok (true, (next.setEndpoint id after).release link) := by
    unfold Mesh.unbind
    rw [unbound]
    rfl
  have changes : Changes True next _ := changes_unbind (exchanged.at_id below) call
  have accounted := changes.accounted exchanged.accounted
  refine ⟨accounted, ?_⟩
  obtain ⟨released, overdrawn, given, _⟩ := (next.setEndpoint id after).releaseAll_frame [link]
  have covered : overdrawn = next.overdrawn := by
    rw [exchanged.accounted.covered, ← accounted.covered]
    exact (congrArg Mesh.overdrawn given).symm
  refine ⟨released, (given : (next.setEndpoint id after).release link = _).trans ?_⟩
  rw [covered]
  obtain ⟨counts, rfl⟩ := exchanged.frame
  simp only [setEndpoint, List.set_set]

/-- Where the references are accounted for, the tables settle them. -/
theorem Exchanged.unique {other : Mesh} (exchanged : mesh.Exchanged id next after)
    (another : mesh.Exchanged id other after) : next = other := by
  have balanced := exchanged.accounted.balance.counted
  have alsoBalanced := another.accounted.balance.counted
  have length := exchanged.accounted.numbered.counted
  have alsoLength := another.accounted.numbered.counted
  obtain ⟨counts, rfl⟩ := exchanged.frame
  obtain ⟨others, rfl⟩ := another.frame
  have sameCounts : counts = others := by
    refine List.ext_getElem (length.trans alsoLength.symm) fun place below alsoBelow => ?_
    have counted := (balanced ⟨place, "", .replicate 0⟩).trans
      (alsoBalanced ⟨place, "", .replicate 0⟩).symm
    simpa [count, below, alsoBelow] using counted
  rw [sameCounts]

end Mesh

namespace World

variable {world next : World} {id : Nat} {endpoint after : Endpoint}

/-- Where nothing is overdrawn, nothing is written down about it, and the world is the old one with
the new mesh. -/
theorem withMesh_covered {mesh : Mesh} (covered : mesh.overdrawn = []) :
    world.withMesh mesh = { world with mesh } := by
  unfold withMesh
  rw [covered, List.drop_nil, List.filterMap_nil, List.append_nil]

/-- The calls so far have led on to this world, and made this of the endpoint. -/
def Leads (id : Nat) (world next : World) (endpoint : Endpoint) : Prop :=
  endpoint.selector = .firstAvailable ∧
    ∃ mesh, next = { world with mesh } ∧ world.mesh.Exchanged id mesh endpoint

theorem Leads.step (leads : Leads id world next endpoint) {mesh : Mesh}
    (exchanged : world.mesh.Exchanged id next.mesh endpoint →
      world.mesh.Exchanged id mesh after)
    (selector : after.selector = endpoint.selector) :
    Leads id world (next.withMesh mesh) after := by
  obtain ⟨first, before, rfl, stood⟩ := leads
  have stands := exchanged stood
  exact ⟨selector.trans first, mesh, withMesh_covered stands.accounted.covered, stands⟩

/-- A call is answered as the operation that it comes down to. -/
theorem Leads.serve (leads : Leads id world next endpoint)
    (below : id < world.mesh.endpoints.length) (call : SessionCall) :
    (next.serve id call).1 =
        some (endpoint.call (call.operation world.labels.links.find?)).1 ∧
      Leads id world (next.serve id call).2
        (endpoint.call (call.operation world.labels.links.find?)).2 := by
  obtain ⟨session, request⟩ := call
  have there : next.mesh.endpoint? id = some endpoint := by
    obtain ⟨_, mesh, rfl, stood⟩ := leads
    exact stood.at_id below
  unfold World.serve
  rw [there]
  cases request with
  | bind link =>
    simp only [SessionCall.operation, Endpoint.call, Mesh.bind]
    cases result : endpoint.bind session link with
    | error failure => exact ⟨rfl, leads⟩
    | ok after =>
      refine ⟨rfl, leads.step (fun stood => stood.bind below result) ?_⟩
      rw [(Endpoint.bind_ok result).2.2]
  | bindBest opts =>
    -- A selector that is asked may leave a trace. The default one does not.
    have unwitnessed : next.witnessSelection endpoint session opts = next := by
      unfold witnessSelection
      rw [leads.1]
    have labels : next.labels = world.labels := by
      obtain ⟨_, mesh, rfl, _⟩ := leads
      rfl
    simp only [SessionCall.operation, Endpoint.call]
    rcases next.bindBest_cases id endpoint session opts with
      ⟨failure, result, served⟩ | ⟨link, after, result, served⟩
    · rw [labels] at result
      rw [result, served, unwitnessed]
      exact ⟨rfl, leads⟩
    · rw [labels] at result
      rw [result, served, unwitnessed]
      have bound := (Endpoint.bindChosen_ok result).2
      refine ⟨rfl, leads.step (fun stood => stood.bind below bound) ?_⟩
      rw [(Endpoint.bind_ok bound).2.2]
  | unbind =>
    simp only [SessionCall.operation, Endpoint.call, Mesh.unbind]
    rcases result : endpoint.unbind session with failure | _ | ⟨link, after⟩
    · exact ⟨rfl, leads⟩
    · exact ⟨rfl, leads.step (fun stood => stood) rfl⟩
    · refine ⟨rfl, leads.step (fun stood => stood.unbind below result) ?_⟩
      obtain ⟨_, routes, _, rfl⟩ := Endpoint.unbind_ok result
      rfl

end World

end DaemonMesh
