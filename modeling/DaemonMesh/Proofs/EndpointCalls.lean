import DaemonMesh.Delivery
import DaemonMesh.Proofs.CallRuns
import DaemonMesh.Proofs.EndpointSteps

namespace DaemonMesh

namespace Endpoint

/-- The operations on an endpoint. Links answer a message one after the other, and take it where no
answer is laid down; what they do to the endpoint meanwhile counts as calls behind the sending. -/
inductive Call
  | addLink (link : Link)
  | removeLink (link : Link)
  | bind (session : SessionId) (link : Link)
  | bindBest (session : SessionId) (opts : Option SessionOpts) (linkNamed : String → Option Link)
  | unbind (session : SessionId)
  | send (message : Message) (session : SessionId) (answers : List (Option LinkError))

/-- What an operation on an endpoint gives back. -/
inductive Reply
  | failed (failure : Failure)
  | flag (value : Bool)
  | bound (link : Link)
  | sent (delivery : Delivery)

def call (endpoint : Endpoint) : Call → Reply × Endpoint
  | .addLink link =>
    match endpoint.addLink link with
    | .error failure => (.failed failure, endpoint)
    | .ok (added, next) => (.flag added, next)
  | .removeLink link =>
    let (_, emptied, next) := endpoint.removeLink link
    (.flag emptied, next)
  | .bind session link =>
    match endpoint.bind session link with
    | .error failure => (.failed failure, endpoint)
    | .ok next => (.bound link, next)
  | .bindBest session opts linkNamed =>
    match endpoint.bindChosen session
        (endpoint.selector.choose ⟨endpoint.routes, session, opts, linkNamed⟩) with
    | .error failure => (.failed failure, endpoint)
    | .ok (link, next) => (.bound link, next)
  | .unbind session =>
    match endpoint.unbind session with
    | .error failure => (.failed failure, endpoint)
    | .ok none => (.flag false, endpoint)
    | .ok (some (_, next)) => (.flag true, next)
  | .send message session answers =>
    match (deliver (fun answers _ _ => (answers.head?.join, answers.tail)) message
        (endpoint.routes.candidates session) 0 answers).1 with
    | .error attempts => (.failed (.routing (.noRoute endpoint.name session attempts)), endpoint)
    | .ok delivery => (.sent delivery, endpoint)

/-- The operations that try to bind a session. -/
def Call.Binds : Call → Prop
  | .bind .. | .bindBest .. => True
  | _ => False

variable {endpoint next : Endpoint} {operation : Call} {link : Link} {session : SessionId}

/-- An operation leaves an endpoint as it is, or is a step. It answers with a link if the step takes
a reference on that link, and not otherwise. Only removals stop endpoints. -/
theorem call_cases (endpoint : Endpoint) (operation : Call) :
    ((endpoint.call operation).2 = endpoint ∧
        ∀ link, (endpoint.call operation).1 ≠ .bound link) ∨
      ∃ taken freed, Step (fun _ => True) endpoint taken freed (endpoint.call operation).2 ∧
        (∀ link, (endpoint.call operation).1 = .bound link ↔ link ∈ taken) ∧
        ((∃ link, operation = .removeLink link) ∨ endpoint.Keeps (endpoint.call operation).2) := by
  cases operation with
  | addLink link =>
    cases taken : endpoint.tryAddLink link with
    | none => simp [call, addLink, taken]
    | some result =>
      obtain ⟨added, next⟩ := result
      have reply : endpoint.call (.addLink link) = (.flag added, next) := by
        simp only [call, addLink, taken]
      rw [reply]
      exact Or.inr ⟨[], [], .addLink trivial taken, by simp, Or.inr (keeps_of_tryAddLink taken)⟩
  | removeLink link =>
    exact Or.inr ⟨[], _, .removeLink link, by simp [call], Or.inl ⟨link, rfl⟩⟩
  | bind session link =>
    cases result : endpoint.bind session link with
    | error failure => simp [call, result]
    | ok next =>
      have reply : endpoint.call (.bind session link) = (.bound link, next) := by
        simp only [call, result]
      rw [reply]
      exact Or.inr ⟨[link], [], .bind result, by simp [eq_comm], Or.inr (keeps_of_bind result)⟩
  | bindBest session opts linkNamed =>
    cases result : endpoint.bindChosen session
        (endpoint.selector.choose ⟨endpoint.routes, session, opts, linkNamed⟩) with
    | error failure => simp [call, result]
    | ok chosen =>
      obtain ⟨link, next⟩ := chosen
      have bound := (bindChosen_ok result).2
      have reply : endpoint.call (.bindBest session opts linkNamed) = (.bound link, next) := by
        simp only [call, result]
      rw [reply]
      exact Or.inr ⟨[link], [], .bind bound, by simp [eq_comm], Or.inr (keeps_of_bind bound)⟩
  | unbind session =>
    rcases result : endpoint.unbind session with failure | _ | ⟨link, next⟩
    · simp [call, result]
    · simp [call, result]
    · have reply : endpoint.call (.unbind session) = (.flag true, next) := by
        simp only [call, result]
      rw [reply]
      exact Or.inr ⟨[], [link], .unbind result, by simp, Or.inr (keeps_of_unbind result)⟩
  | send message session answers =>
    refine Or.inl ?_
    simp only [call]
    split <;> simp

end Endpoint

end DaemonMesh
