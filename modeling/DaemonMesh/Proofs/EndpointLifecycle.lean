import DaemonMesh.Proofs.DirectPaths
import DaemonMesh.Proofs.EndpointHistories
import DaemonMesh.Proofs.LossSteps

namespace DaemonMesh

namespace Endpoint

variable {endpoint next : Endpoint} {known : Link → Prop} {taken freed : List Link}

/-- No session is bound on the endpoint. -/
def Unbound (endpoint : Endpoint) : Prop :=
  ∀ session, session ≠ .direct → endpoint.routes.candidates session = []

theorem unbound_iff (ascending : endpoint.routes.buckets.Ascending) :
    endpoint.Unbound ↔ endpoint.routes.sessionLinks = [] := by
  rw [List.eq_nil_iff_forall_not_mem]
  constructor
  · intro unbound link member
    obtain ⟨session, bound, entry⟩ := (RouteTable.mem_sessionLinks_iff ascending).mp member
    rw [unbound session bound] at entry
    exact List.not_mem_nil entry
  · intro none session bound
    refine List.eq_nil_iff_forall_not_mem.mpr fun link entry => none link ?_
    exact (RouteTable.mem_sessionLinks_iff ascending).mpr ⟨session, bound, entry⟩

/-- What all operations on an endpoint keep up. As long as nothing was ever bound there is no
session entry, and only an endpoint with a direct path goes on. -/
structure Consistent (endpoint : Endpoint) : Prop where
  valid : endpoint.routes.Valid
  routable : endpoint.state = .started → endpoint.routes.directLinks ≠ []
  unbound : endpoint.everBound = false → endpoint.Unbound

theorem consistent_reachedBy (name : String) (link : Link) (selector : Selector) :
    (reachedBy name link selector).Consistent := by
  refine ⟨RouteTable.valid_withDirect link, fun _ => ?_, fun _ session bound => ?_⟩
  · unfold RouteTable.directLinks
    simp [reachedBy, RouteTable.candidates_withDirect]
  · simp [reachedBy, RouteTable.candidates_withDirect, bound]

/-- Without a new binding no session entry comes. -/
theorem Step.unbound (step : Step known endpoint [] freed next) (valid : endpoint.routes.Valid)
    (unbound : endpoint.Unbound) : next.Unbound := by
  rw [unbound_iff valid.ascending] at unbound
  rw [unbound_iff (step.routes.valid valid).ascending, List.eq_nil_iff_forall_not_mem]
  intro link member
  have settled := step.routes.settles valid link
  have present := List.count_pos_iff.mpr member
  rw [unbound, List.count_nil] at settled
  omega

theorem Step.everBound (step : Step known endpoint taken freed next) :
    next.everBound = true ↔ endpoint.everBound = true ∨ taken ≠ [] := by
  cases step with
  | addLink _ result =>
    rw [(tryAddLink_some result).2]
    simp
  | bind result =>
    rw [(bind_ok result).2.2]
    simp
  | unbind result =>
    obtain ⟨_, routes, _, rfl⟩ := unbind_ok result
    simp
  | removeLink => exact ⟨Or.inl, fun either => either.resolve_right fun some => some rfl⟩

/-- A removal that leaves no direct path stops the endpoint. -/
theorem removeLink_routable (valid : endpoint.routes.Valid) (link : Link)
    (going : (endpoint.removeLink link).2.2.state = .started) :
    (endpoint.removeLink link).2.2.routes.directLinks ≠ [] := by
  unfold removeLink at going ⊢
  dsimp only at going ⊢
  split at going
  · cases going
  · next remains =>
    exact (valid.removeLink link).directLinks_of_not_leftEmpty (Bool.not_eq_true _ ▸ remains)

theorem call_consistent (consistent : endpoint.Consistent) (operation : Call) :
    (endpoint.call operation).2.Consistent := by
  rcases endpoint.call_cases operation with ⟨same, _⟩ | ⟨taken, freed, step, _, keeps⟩
  · rw [same]
    exact consistent
  · refine ⟨step.routes.valid consistent.valid, fun going => ?_, fun never => ?_⟩
    · rcases keeps with ⟨link, rfl⟩ | ⟨state, routable⟩
      · exact removeLink_routable consistent.valid link going
      · exact routable (consistent.routable (state.symm.trans going))
    · have neverBefore := mt step.everBound.mpr (Bool.not_eq_true _ ▸ never)
      obtain ⟨notBefore, none⟩ := not_or.mp neverBefore
      rw [not_not.mp none] at step
      exact step.unbound consistent.valid (consistent.unbound (Bool.not_eq_true _ ▸ notBefore))

theorem runCalls_consistent (name : String) (link : Link) (selector : Selector)
    (calls : List Call) :
    (runCalls call (reachedBy name link selector) calls).2.Consistent :=
  runCalls_keeps Consistent (fun _ operation consistent => call_consistent consistent operation)
    calls (consistent_reachedBy name link selector)

theorem call_selector (endpoint : Endpoint) (operation : Call) :
    (endpoint.call operation).2.selector = endpoint.selector := by
  rcases endpoint.call_cases operation with ⟨same, _⟩ | ⟨taken, freed, step, _⟩
  · rw [same]
  · exact step.selector

theorem call_everBound (endpoint : Endpoint) (operation : Call) :
    (endpoint.call operation).2.everBound = true ↔
      endpoint.everBound = true ∨ ∃ link, (endpoint.call operation).1 = .bound link := by
  rcases endpoint.call_cases operation with ⟨same, answered⟩ | ⟨taken, freed, step, answered, _⟩
  · rw [same]
    exact ⟨Or.inl, fun either => either.resolve_right fun ⟨link, bound⟩ => answered link bound⟩
  · rw [step.everBound]
    refine or_congr_right ?_
    simp only [answered]
    exact ⟨List.exists_mem_of_ne_nil _, fun ⟨_, member⟩ => List.ne_nil_of_mem member⟩

/-- An endpoint remembers whether a session was bound on the way. -/
theorem runCalls_everBound (endpoint : Endpoint) (calls : List Call) :
    (runCalls call endpoint calls).2.everBound = true ↔
      endpoint.everBound = true ∨ ∃ link, .bound link ∈ (runCalls call endpoint calls).1 := by
  induction calls generalizing endpoint with
  | nil => simp [runCalls]
  | cons operation rest ih =>
    rw [runCalls_cons, ih, call_everBound, or_assoc, ← exists_or]
    simp only [List.mem_cons, eq_comm]

/-- The only turn that an endpoint takes: a removal stops it, and leaves no session entry. -/
theorem call_turns (valid : endpoint.routes.Valid) {operation : Call}
    (turned : (endpoint.call operation).2.state ≠ endpoint.state) :
    ∃ link, operation = .removeLink link ∧ endpoint.state = .started ∧
      (endpoint.call operation).2.state = .stopping ∧ (endpoint.call operation).2.Unbound := by
  rcases endpoint.call_cases operation with ⟨same, _⟩ | ⟨taken, freed, step, _, keeps⟩
  · rw [same] at turned
    exact (turned rfl).elim
  · rcases keeps with ⟨link, rfl⟩ | ⟨state, _⟩
    · have after := step.routes.valid valid
      rw [unbound_iff after.ascending]
      simp only [call, removeLink] at turned after ⊢
      split at turned
      · next emptied =>
        refine ⟨link, rfl, ?_, if_pos emptied, after.sessionLinks_of_leftEmpty emptied⟩
        cases state : endpoint.state with
        | started => rfl
        | stopping => exact (turned state.symm).elim
      · exact (turned rfl).elim
    · exact (turned state).elim

theorem runCalls_stopping (consistent : endpoint.Consistent)
    (stopping : endpoint.state = .stopping) (calls : List Call) :
    (runCalls call endpoint calls).2.state = .stopping := by
  have step (before : Endpoint) (operation : Call)
      (holds : before.Consistent ∧ before.state = .stopping) :
      (before.call operation).2.Consistent ∧ (before.call operation).2.state = .stopping := by
    obtain ⟨consistent, stopping⟩ := holds
    refine ⟨call_consistent consistent operation, ?_⟩
    by_contra turned
    obtain ⟨_, _, started, _⟩ := call_turns consistent.valid (stopping ▸ turned)
    rw [stopping] at started
    cases started
  have holds := runCalls_keeps
    (fun current : Endpoint => current.Consistent ∧ current.state = .stopping) step calls
    ⟨consistent, stopping⟩
  exact holds.2

/-- The default selector finds a link for a session as long as the endpoint goes on. -/
theorem Consistent.bindBest (consistent : endpoint.Consistent) (going : endpoint.state = .started)
    (first : endpoint.selector = .firstAvailable) {session : SessionId}
    (nonzero : session ≠ .direct) (opts : Option SessionOpts)
    (linkNamed : String → Option Link) : ∃ link ∈ endpoint.routes.directLinks,
      (endpoint.call (.bindBest session opts linkNamed)).1 = .bound link := by
  have routable := consistent.routable going
  simp only [call, first, Selector.choose]
  cases chosen : Selector.chooseFirst endpoint.routes session with
  | none => exact (routable (consistent.valid.chooseFirst_eq_none_iff.mp chosen)).elim
  | some link =>
    have direct := consistent.valid.chooseFirst_direct chosen
    refine ⟨link, direct, ?_⟩
    rw [bindChosen_direct nonzero direct]

end Endpoint

/-- An endpoint without bindings gives nothing back when its last handle goes. -/
theorem Mesh.letGoEndpoint_unbound {mesh : Mesh} {id : Nat} {endpoint : Endpoint}
    (atId : mesh.endpoint? id = some endpoint) (none : endpoint.routes.sessionLinks = []) :
    (mesh.letGoEndpoint id).counts = mesh.counts ∧
      (mesh.letGoEndpoint id).overdrawn = mesh.overdrawn := by
  unfold letGoEndpoint discardUnheld
  split
  · exact ⟨rfl, rfl⟩
  · have still : ({ mesh with endpointHandles := mesh.endpointHandles.erase id } :
        Mesh).endpoint? id = some endpoint := atId
    rw [still]
    dsimp only
    rw [none]
    exact ⟨rfl, rfl⟩

namespace Endpoint

/-- How an endpoint stands after operations that were answered so. -/
structure Lifecycle (selector : Selector) (replies : List Reply) (endpoint : Endpoint) : Prop where
  routable : endpoint.state = .started → endpoint.routes.candidates .direct ≠ []
  served : endpoint.state = .started → selector = .firstAvailable → ∀ session ≠ .direct,
    ∀ opts linkNamed, ∃ link ∈ endpoint.routes.candidates .direct,
      (endpoint.call (.bindBest session opts linkNamed)).1 = .bound link
  remembers : endpoint.everBound = true ↔ ∃ link, .bound link ∈ replies
  unbound : endpoint.everBound = false → endpoint.Unbound
  turns : ∀ operation, (endpoint.call operation).2.state ≠ endpoint.state →
    ∃ link, operation = .removeLink link ∧ endpoint.state = .started ∧
      (endpoint.call operation).2.state = .stopping ∧ (endpoint.call operation).2.Unbound ∧
      ∀ mesh id, Mesh.endpoint? mesh id = some (endpoint.call operation).2 →
        (mesh.letGoEndpoint id).counts = mesh.counts ∧
          (mesh.letGoEndpoint id).overdrawn = mesh.overdrawn
  stays : endpoint.state = .stopping → ∀ calls, (runCalls call endpoint calls).2.state = .stopping

theorem Consistent.lifecycle (consistent : endpoint.Consistent) {replies : List Reply}
    (remembers : endpoint.everBound = true ↔ ∃ link, .bound link ∈ replies) :
    Lifecycle endpoint.selector replies endpoint where
  routable := consistent.routable
  served going first session nonzero opts linkNamed :=
    consistent.bindBest going first nonzero opts linkNamed
  remembers := remembers
  unbound := consistent.unbound
  turns operation turned := by
    obtain ⟨link, removal, started, stopping, unbound⟩ := call_turns consistent.valid turned
    refine ⟨link, removal, started, stopping, unbound, fun mesh id atId => ?_⟩
    have after := (call_consistent consistent operation).valid
    exact Mesh.letGoEndpoint_unbound atId ((unbound_iff after.ascending).mp unbound)
  stays stopping calls := runCalls_stopping consistent stopping calls

theorem runCalls_selector (endpoint : Endpoint) (calls : List Call) :
    (runCalls call endpoint calls).2.selector = endpoint.selector :=
  runCalls_keeps (fun current : Endpoint => current.selector = endpoint.selector)
    (fun current operation same => (call_selector current operation).trans same) calls rfl

end Endpoint

open Endpoint in
/-- An endpoint goes on only with a direct path and stops but once, by a removal that leaves it
without sessions, whatever was asked of it on the way; and every endpoint in the world, whatever
happens there, is one that some operations lead to. -/
theorem endpoint_lifecycle :
    (∀ name link selector calls,
      Lifecycle selector (runCalls call (reachedBy name link selector) calls).1
        (runCalls call (reachedBy name link selector) calls).2) ∧
      ∀ handles mesh, Mesh.Reach handles mesh → ∀ id endpoint, mesh.endpoint? id = some endpoint →
        ∃ name link selector calls,
          (runCalls call (reachedBy name link selector) calls).2 = endpoint := by
  refine ⟨fun name link selector calls => ?_, fun handles mesh reach id endpoint atId =>
    reach.history atId⟩
  have remembers := runCalls_everBound (reachedBy name link selector) calls
  have lifecycle := (runCalls_consistent name link selector calls).lifecycle
    (remembers.trans (or_iff_right Bool.false_ne_true))
  rwa [runCalls_selector] at lifecycle

namespace Endpoint

/-- A link to a third daemon. -/
def sideLink : Link := ⟨1, ":c.1", .replicate 2⟩

/-- A session comes and goes, and the link that carried it goes after it. -/
def sessionCalls : List Call :=
  [.addLink sideLink, .bind ⟨7⟩ Mesh.sampleLink, .unbind ⟨7⟩, .removeLink Mesh.sampleLink]

/-- Stopped, with a path through the third daemon left. -/
def cutOff : Endpoint :=
  ⟨":b.5", .stopping, true, ⟨⟨[(⟨0⟩, [sideLink])]⟩⟩, .firstAvailable⟩

theorem runCalls_sessionCalls :
    runCalls call (reachedBy ":b.5" Mesh.sampleLink .firstAvailable) sessionCalls =
      ([.flag true, .bound Mesh.sampleLink, .flag true, .flag true], cutOff) := rfl

end Endpoint

open Endpoint in
theorem endpoint_lifecycle_cutOff :
    Lifecycle .firstAvailable [.flag true, .bound Mesh.sampleLink, .flag true, .flag true] cutOff ∧
      Mesh.twiceBound.endpoint? 0 = some Mesh.sampleEndpoint ∧
      ∃ name link selector calls,
        (runCalls call (reachedBy name link selector) calls).2 = Mesh.sampleEndpoint := by
  have lifecycle := endpoint_lifecycle.1 ":b.5" Mesh.sampleLink .firstAvailable sessionCalls
  rw [runCalls_sessionCalls] at lifecycle
  exact ⟨lifecycle, rfl,
    endpoint_lifecycle.2 True Mesh.twiceBound (Mesh.reach_twiceBound True) 0 _ rfl⟩

end DaemonMesh
