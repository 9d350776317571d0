import DaemonMesh.Proofs.SessionRequests
import DaemonMesh.Proofs.StoppingEndpoints

namespace DaemonMesh

/-- What a session asks for among the calls, in its own order. -/
def requestsIn (session : SessionId) (calls : List SessionCall) : List SessionRequest :=
  (calls.filter fun call => call.session = session).map SessionCall.request

/-- What a session was answered, in its own order. -/
def answersTo {Answer : Type} (session : SessionId) (calls : List SessionCall)
    (answers : List Answer) : List Answer :=
  ((calls.zip answers).filter fun answered => answered.1.session = session).map Prod.snd

/-- The calls are those of the sessions, which are not 0, and keep each session's own order. -/
structure Interleaves (requests : SessionId → List SessionRequest) (calls : List SessionCall) :
    Prop where
  nonzero : ∀ call ∈ calls, call.session ≠ .direct
  ordered : ∀ session, session ≠ .direct → requestsIn session calls = requests session

section

variable {Answer : Type} {session : SessionId} {call : SessionCall} {calls : List SessionCall}

@[simp] theorem answersTo_cons_self (same : call.session = session) (answer : Answer)
    (answers : List Answer) :
    answersTo session (call :: calls) (answer :: answers) =
      answer :: answersTo session calls answers := by
  simp [answersTo, same]

@[simp] theorem answersTo_cons_ne (different : call.session ≠ session) (answer : Answer)
    (answers : List Answer) :
    answersTo session (call :: calls) (answer :: answers) = answersTo session calls answers := by
  simp [answersTo, different]

theorem answersTo_map {Other : Type} (view : Answer → Other) (session : SessionId)
    (calls : List SessionCall) (answers : List Answer) :
    answersTo session calls (answers.map view) = (answersTo session calls answers).map view := by
  induction calls generalizing answers with
  | nil => rfl
  | cons call rest ih =>
    cases answers with
    | nil => rfl
    | cons answer answers =>
      by_cases same : call.session = session <;> simp [same, ih]

/-- Whatever was answered, some session was answered it. -/
theorem exists_mem_answersTo_iff {answers : List Answer} (length : answers.length = calls.length)
    {answer : Answer} :
    (∃ session, answer ∈ answersTo session calls answers) ↔ answer ∈ answers := by
  induction calls generalizing answers with
  | nil =>
    rw [List.length_eq_zero_iff.mp length]
    simp [answersTo]
  | cons call rest ih =>
    cases answers with
    | nil => cases length
    | cons first later =>
      rw [List.mem_cons, ← ih (Nat.succ.inj length)]
      constructor
      · rintro ⟨session, member⟩
        by_cases same : call.session = session
        · rw [answersTo_cons_self same] at member
          exact (List.mem_cons.mp member).imp_right fun member => ⟨session, member⟩
        · rw [answersTo_cons_ne same] at member
          exact Or.inr ⟨session, member⟩
      · rintro (rfl | ⟨session, member⟩)
        · exact ⟨call.session, by simp⟩
        · refine ⟨session, ?_⟩
          by_cases same : call.session = session <;> simp [same, member]

/-- The calls of one session are made up of what it asks for. -/
theorem filter_session (session : SessionId) (calls : List SessionCall) :
    calls.filter (fun call => call.session = session) =
      (requestsIn session calls).map (SessionCall.mk session) := by
  unfold requestsIn
  rw [List.map_map]
  refine (List.map_id _).symm.trans (List.map_congr_left fun call member => ?_)
  have same := of_decide_eq_true (List.mem_filter.mp member).2
  rw [← same]
  rfl

end

namespace Endpoint

/-- Two endpoints that look alike from a session. -/
structure Alike (session : SessionId) (first second : Endpoint) : Prop where
  name : first.name = second.name
  state : first.state = second.state
  selector : first.selector = second.selector
  direct : first.routes.directLinks = second.routes.directLinks
  bound : first.routes.candidates session = second.routes.candidates session

variable {endpoint first second : Endpoint} {session other : SessionId} {link : Link}
  {linkNamed : String → Option Link} {calls : List SessionCall}

theorem alike_self (session : SessionId) (endpoint : Endpoint) : endpoint.Alike session endpoint :=
  ⟨rfl, rfl, rfl, rfl, rfl⟩

theorem Alike.trans {third : Endpoint} (one : first.Alike session second)
    (another : second.Alike session third) : first.Alike session third :=
  ⟨one.name.trans another.name, one.state.trans another.state,
    one.selector.trans another.selector, one.direct.trans another.direct,
    one.bound.trans another.bound⟩

theorem Alike.symm (alike : first.Alike session second) : second.Alike session first :=
  ⟨alike.name.symm, alike.state.symm, alike.selector.symm, alike.direct.symm, alike.bound.symm⟩

/-- Only the entries of the session itself change with a call in it. -/
structure Touches (session : SessionId) (before after : Endpoint) : Prop where
  name : after.name = before.name
  state : after.state = before.state
  selector : after.selector = before.selector
  elsewhere : ∀ other, other ≠ session →
    after.routes.candidates other = before.routes.candidates other

theorem touches_self (session : SessionId) (endpoint : Endpoint) :
    endpoint.Touches session endpoint :=
  ⟨rfl, rfl, rfl, fun _ _ => rfl⟩

theorem touches_bind {after : Endpoint} (bound : endpoint.bind session link = .ok after) :
    endpoint.Touches session after := by
  rw [(bind_ok bound).2.2]
  exact ⟨rfl, rfl, rfl, fun other different => by simp [different]⟩

theorem call_touches (endpoint : Endpoint) (linkNamed : String → Option Link)
    (call : SessionCall) :
    endpoint.Touches call.session (endpoint.call (call.operation linkNamed)).2 := by
  obtain ⟨session, request⟩ := call
  cases request with
  | bind link =>
    simp only [SessionCall.operation, Endpoint.call]
    split
    · exact endpoint.touches_self session
    · next bound => exact touches_bind bound
  | bindBest opts =>
    simp only [SessionCall.operation, Endpoint.call]
    split
    · exact endpoint.touches_self session
    · next bound => exact touches_bind (bindChosen_ok bound).2
  | unbind =>
    simp only [SessionCall.operation, Endpoint.call]
    split
    · exact endpoint.touches_self session
    · exact endpoint.touches_self session
    · next unbound =>
      obtain ⟨_, routes, found, rfl⟩ := unbind_ok unbound
      exact ⟨rfl, rfl, rfl, (RouteTable.candidates_of_unbind? found).2⟩

/-- A call in one session is not seen from another. -/
theorem Touches.alike {after : Endpoint} (touches : endpoint.Touches session after)
    (nonzero : session ≠ .direct) (different : other ≠ session) : after.Alike other endpoint :=
  ⟨touches.name, touches.state, touches.selector, touches.elsewhere .direct (Ne.symm nonzero),
    touches.elsewhere other different⟩

theorem Alike.bind (alike : first.Alike session second) (nonzero : session ≠ .direct)
    (link : Link) : (first.call (.bind session link)).1 = (second.call (.bind session link)).1 ∧
      (first.call (.bind session link)).2.Alike session (second.call (.bind session link)).2 := by
  by_cases direct : link ∈ first.routes.directLinks
  · simp only [call, bind_direct nonzero direct, bind_direct nonzero (alike.direct ▸ direct)]
    refine ⟨trivial, alike.name, alike.state, alike.selector, ?_, ?_⟩
    · simpa [nonzero] using alike.direct
    · simp [alike.bound]
  · simp only [call, bind_stray nonzero direct, bind_stray nonzero (alike.direct ▸ direct),
      alike.name]
    exact ⟨trivial, alike⟩

/-- What the default selector picks is bound as if it had been asked for. -/
theorem call_bindBest (default : endpoint.selector = .firstAvailable) (nonzero : session ≠ .direct)
    (opts : Option SessionOpts) (linkNamed : String → Option Link) :
    endpoint.call (.bindBest session opts linkNamed) =
      (Selector.chooseFirst endpoint.routes session).elim
        (.failed (.routing (.noEndpoint endpoint.name session)), endpoint)
        fun link => endpoint.call (.bind session link) := by
  simp only [call, default, Selector.choose, bindChosen, SessionId.isDirect_iff, if_neg nonzero]
  cases Selector.chooseFirst endpoint.routes session with
  | none => rfl
  | some link =>
    cases result : endpoint.bind session link with
    | error failure => simp [result, Functor.map, Except.map]
    | ok after => simp [result, Functor.map, Except.map]

theorem Alike.unbind (alike : first.Alike session second) (nonzero : session ≠ .direct) :
    (first.call (.unbind session)).1 = (second.call (.unbind session)).1 ∧
      (first.call (.unbind session)).2.Alike session (second.call (.unbind session)).2 := by
  have both : (first.routes.unbind? session).isSome = (second.routes.unbind? session).isSome := by
    rw [Bool.eq_iff_iff, RouteTable.unbind?_isSome, RouteTable.unbind?_isSome, alike.bound]
  simp only [call, Endpoint.unbind, SessionId.isDirect_iff, if_neg nonzero]
  rcases one : first.routes.unbind? session with _ | ⟨link, routes⟩
  · rcases another : second.routes.unbind? session with _ | ⟨other, rest⟩
    · exact ⟨rfl, alike⟩
    · rw [one, another] at both
      cases both
  · rcases another : second.routes.unbind? session with _ | ⟨other, rest⟩
    · rw [one, another] at both
      cases both
    · obtain ⟨atSession, elsewhere⟩ := RouteTable.candidates_of_unbind? one
      obtain ⟨alsoAtSession, alsoElsewhere⟩ := RouteTable.candidates_of_unbind? another
      have rests := (atSession.symm.trans alike.bound).trans alsoAtSession
      refine ⟨rfl, alike.name, alike.state, alike.selector, ?_, (List.cons.inj rests).2⟩
      exact ((elsewhere .direct (Ne.symm nonzero)).trans alike.direct).trans
        (alsoElsewhere .direct (Ne.symm nonzero)).symm

theorem Alike.answer {asked : SessionCall} (alike : first.Alike asked.session second)
    (default : first.selector = .firstAvailable) (nonzero : asked.session ≠ .direct)
    (linkNamed : String → Option Link) :
    (first.call (asked.operation linkNamed)).1 = (second.call (asked.operation linkNamed)).1 ∧
      (first.call (asked.operation linkNamed)).2.Alike asked.session
        (second.call (asked.operation linkNamed)).2 := by
  obtain ⟨session, request⟩ := asked
  cases request with
  | bind link => exact alike.bind nonzero link
  | unbind => exact alike.unbind nonzero
  | bindBest opts =>
    have chosen : Selector.chooseFirst first.routes session =
        Selector.chooseFirst second.routes session := by
      unfold Selector.chooseFirst RouteTable.firstBound
      rw [alike.bound, alike.direct]
    simp only [SessionCall.operation, call_bindBest default nonzero,
      call_bindBest (alike.selector.symm.trans default) nonzero, chosen]
    cases Selector.chooseFirst second.routes session with
    | none => exact ⟨by simp only [Option.elim_none, alike.name], alike⟩
    | some link => exact alike.bind nonzero link

/-- The calls, one after the other, as operations on the endpoint alone. -/
def answerAll (linkNamed : String → Option Link) (endpoint : Endpoint) (calls : List SessionCall) :
    List Reply × Endpoint :=
  runCalls call endpoint (calls.map (SessionCall.operation linkNamed))

theorem answerAll_cons (linkNamed : String → Option Link) (endpoint : Endpoint)
    (asked : SessionCall) (rest : List SessionCall) :
    endpoint.answerAll linkNamed (asked :: rest) =
      ((endpoint.call (asked.operation linkNamed)).1 ::
          ((endpoint.call (asked.operation linkNamed)).2.answerAll linkNamed rest).1,
        ((endpoint.call (asked.operation linkNamed)).2.answerAll linkNamed rest).2) := rfl

/-- Calls of other sessions may be left out: a session is answered as if it were alone. -/
theorem Alike.answerAll (alike : first.Alike session second)
    (default : first.selector = .firstAvailable) (linkNamed : String → Option Link)
    (nonzero : ∀ asked ∈ calls, asked.session ≠ .direct) :
    answersTo session calls (first.answerAll linkNamed calls).1 =
        (second.answerAll linkNamed (calls.filter fun asked => asked.session = session)).1 ∧
      (first.answerAll linkNamed calls).2.Alike session
        (second.answerAll linkNamed (calls.filter fun asked => asked.session = session)).2 := by
  induction calls generalizing first second with
  | nil => exact ⟨rfl, alike⟩
  | cons asked rest ih =>
    have nonzeroHere := nonzero asked List.mem_cons_self
    have nonzeroLater := fun later member => nonzero later (List.mem_cons_of_mem asked member)
    have touches := first.call_touches linkNamed asked
    have stillDefault := touches.selector.trans default
    by_cases same : asked.session = session
    · subst same
      obtain ⟨answer, next⟩ := alike.answer default nonzeroHere linkNamed
      obtain ⟨answers, last⟩ := ih next stillDefault nonzeroLater
      rw [List.filter_cons_of_pos (by simp), answerAll_cons, answerAll_cons,
        answersTo_cons_self rfl]
      exact ⟨List.cons_eq_cons.mpr ⟨answer, answers⟩, last⟩
    · have unseen := touches.alike nonzeroHere (Ne.symm same)
      rw [List.filter_cons_of_neg (by simpa using same), answerAll_cons, answersTo_cons_ne same]
      exact ih (unseen.trans alike) stillDefault nonzeroLater

end Endpoint

theorem Interleaves.filter_eq {requests : SessionId → List SessionRequest}
    {calls others : List SessionCall} (one : Interleaves requests calls)
    (another : Interleaves requests others) (session : SessionId) :
    (calls.filter fun call => call.session = session) =
      others.filter fun call => call.session = session := by
  by_cases direct : session = .direct
  · subst direct
    have none {calls : List SessionCall} (nonzero : ∀ call ∈ calls, call.session ≠ .direct) :
        (calls.filter fun call => call.session = .direct) = [] :=
      List.filter_eq_nil_iff.mpr fun call member => by simpa using nonzero call member
    rw [none one.nonzero, none another.nonzero]
  · rw [filter_session, filter_session, one.ordered session direct, another.ordered session direct]

/-- A table without empty buckets is known by what it holds for each session. -/
theorem RouteTable.Valid.ext {first second : RouteTable} (valid : first.Valid)
    (alsoValid : second.Valid)
    (same : ∀ session, first.candidates session = second.candidates session) : first = second := by
  have found {table : RouteTable} (valid : table.Valid) (session : SessionId) :
      table.buckets.find? session =
        if table.candidates session = [] then none else some (table.candidates session) := by
    unfold candidates
    cases atSession : table.buckets.find? session with
    | none => rfl
    | some bucket =>
      have member := (mem_entries_iff valid.ascending).mpr atSession
      exact (if_neg (valid.filled (session, bucket) member)).symm
  have buckets : first.buckets = second.buckets := by
    refine valid.ascending.ext alsoValid.ascending fun session => ?_
    rw [found valid, found alsoValid, same]
  cases first
  cases second
  exact congrArg RouteTable.mk buckets

namespace Endpoint

variable {endpoint : Endpoint} {linkNamed : String → Option Link}
  {requests : SessionId → List SessionRequest} {calls others : List SessionCall}

/-- The answers, session by session, and what becomes of the endpoint do not depend on how the
sessions take turns. -/
theorem answerAll_interleaved (consistent : endpoint.Consistent)
    (default : endpoint.selector = .firstAvailable) (linkNamed : String → Option Link)
    (one : Interleaves requests calls) (another : Interleaves requests others) :
    (∀ session, answersTo session calls (endpoint.answerAll linkNamed calls).1 =
        answersTo session others (endpoint.answerAll linkNamed others).1) ∧
      (endpoint.answerAll linkNamed calls).2 = (endpoint.answerAll linkNamed others).2 := by
  have alone (session : SessionId) :
      answersTo session calls (endpoint.answerAll linkNamed calls).1 =
          answersTo session others (endpoint.answerAll linkNamed others).1 ∧
        (endpoint.answerAll linkNamed calls).2.Alike session
          (endpoint.answerAll linkNamed others).2 := by
    have unseen := endpoint.alike_self session
    obtain ⟨answers, seen⟩ := unseen.answerAll default linkNamed one.nonzero
    obtain ⟨alsoAnswers, alsoSeen⟩ := unseen.answerAll default linkNamed another.nonzero
    rw [one.filter_eq another] at answers seen
    exact ⟨answers.trans alsoAnswers.symm, seen.trans alsoSeen.symm⟩
  refine ⟨fun session => (alone session).1, ?_⟩
  -- Tables that agree on every session are equal, for valid ones have no empty buckets.
  have valid (calls : List SessionCall) : (endpoint.answerAll linkNamed calls).2.routes.Valid :=
    (runCalls_keeps Consistent (fun _ operation before => call_consistent before operation)
      _ consistent).valid
  have routes : (endpoint.answerAll linkNamed calls).2.routes =
      (endpoint.answerAll linkNamed others).2.routes :=
    (valid calls).ext (valid others) fun session => (alone session).2.bound
  -- An endpoint remembers a binding just if it answered one, and the same ones were answered.
  have remembers : (endpoint.answerAll linkNamed calls).2.everBound =
      (endpoint.answerAll linkNamed others).2.everBound := by
    have length (calls : List SessionCall) :
        (endpoint.answerAll linkNamed calls).1.length = calls.length :=
      (length_runCalls _ endpoint).trans (List.length_map _)
    have answered (reply : Reply) : reply ∈ (endpoint.answerAll linkNamed calls).1 ↔
        reply ∈ (endpoint.answerAll linkNamed others).1 := by
      rw [← exists_mem_answersTo_iff (length calls), ← exists_mem_answersTo_iff (length others)]
      simp only [(alone _).1]
    unfold answerAll at answered ⊢
    rw [Bool.eq_iff_iff, runCalls_everBound, runCalls_everBound]
    simp only [answered]
  obtain ⟨_, name, state, selector, _, _⟩ := alone .direct
  generalize (endpoint.answerAll linkNamed calls).2 = after at *
  generalize (endpoint.answerAll linkNamed others).2 = last at *
  cases after
  cases last
  simp only at name state selector routes remembers
  rw [name, state, selector, routes, remembers]

end Endpoint

namespace World

variable {world : World} {id : Nat} {endpoint : Endpoint}

/-- Calls in sessions are answered as by the endpoint alone, and lead on to what becomes of it. -/
theorem runCalls_serve (accounted : world.mesh.Accounted)
    (atId : world.mesh.endpoint? id = some endpoint)
    (default : endpoint.selector = .firstAvailable) (calls : List SessionCall) :
    (runCalls (serve id) world calls).1 =
        (endpoint.answerAll world.labels.links.find? calls).1.map some ∧
      Leads id world (runCalls (serve id) world calls).2
        (endpoint.answerAll world.labels.links.find? calls).2 :=
  runCalls_translate (fun _ _ call leads => leads.serve (Mesh.endpoint?_lt atId) call) calls
    ⟨default, world.mesh, rfl, Mesh.exchanged_self accounted atId⟩

end World

/-- Sessions do not come in each other's way: each request is answered alike however the sessions
take turns on an endpoint, and in the end the whole world is the same, with the endpoint's table,
its state and what it remembers, and with every reference. -/
theorem sessions_do_not_interfere {handles : Prop} {world : World} {id : Nat} {endpoint : Endpoint}
    (reach : Mesh.Reach handles world.mesh) (atId : world.mesh.endpoint? id = some endpoint)
    (default : endpoint.selector = .firstAvailable) {requests : SessionId → List SessionRequest}
    {calls others : List SessionCall} (one : Interleaves requests calls)
    (another : Interleaves requests others) :
    (∀ session, answersTo session calls (runCalls (World.serve id) world calls).1 =
        answersTo session others (runCalls (World.serve id) world others).1) ∧
      none ∉ (runCalls (World.serve id) world calls).1 ∧
      (runCalls (World.serve id) world calls).2 = (runCalls (World.serve id) world others).2 ∧
      ∃ after, (runCalls (World.serve id) world calls).2.mesh.endpoint? id = some after := by
  have accounted := reach.accounted
  obtain ⟨replies, _, mesh, last, stands⟩ := World.runCalls_serve accounted atId default calls
  obtain ⟨alsoReplies, _, alsoMesh, alsoLast, alsoStands⟩ :=
    World.runCalls_serve accounted atId default others
  obtain ⟨answers, becomes⟩ := Endpoint.answerAll_interleaved (reach.consistent atId) default
    world.labels.links.find? one another
  rw [← becomes] at alsoStands
  rw [replies, alsoReplies, last, alsoLast, stands.unique alsoStands]
  refine ⟨fun session => ?_, by simp, rfl, _, alsoStands.at_id (Mesh.endpoint?_lt atId)⟩
  rw [answersTo_map, answersTo_map, answers]

namespace SessionCall

/-- One session after the other. -/
def blocks : List SessionCall :=
  [⟨⟨7⟩, .unbind⟩, ⟨⟨7⟩, .bindBest none⟩, ⟨⟨9⟩, .bind Mesh.sampleLink⟩, ⟨⟨9⟩, .bind Mesh.spareLink⟩,
    ⟨⟨9⟩, .unbind⟩, ⟨⟨9⟩, .unbind⟩]

/-- The same sessions by turns. -/
def turns : List SessionCall :=
  [⟨⟨9⟩, .bind Mesh.sampleLink⟩, ⟨⟨7⟩, .unbind⟩, ⟨⟨9⟩, .bind Mesh.spareLink⟩, ⟨⟨9⟩, .unbind⟩,
    ⟨⟨7⟩, .bindBest none⟩, ⟨⟨9⟩, .unbind⟩]

theorem interleaves_turns : Interleaves (fun session => requestsIn session blocks) turns := by
  refine ⟨by decide, fun session _ => ?_⟩
  by_cases seven : (⟨7⟩ : SessionId) = session
  · rw [← seven]
    rfl
  · by_cases nine : (⟨9⟩ : SessionId) = session
    · rw [← nine]
      rfl
    · simp [requestsIn, blocks, turns, seven, nine]

end SessionCall

open SessionCall in
theorem sessions_do_not_interfere_turns :
    ∃ after : World, after.mesh.counts = [2] ∧
      (runCalls (World.serve 0) { World.empty with mesh := Mesh.twiceBound } turns).2 = after ∧
      answersTo ⟨9⟩ turns
          (runCalls (World.serve 0) { World.empty with mesh := Mesh.twiceBound } turns).1 =
        [some (.bound Mesh.sampleLink), some (.failed (.routing (.noEndpoint ":b.5" ⟨9⟩))),
          some (.flag true), some (.flag false)] := by
  have reach : Mesh.Reach True ({ World.empty with mesh := Mesh.twiceBound } : World).mesh :=
    Mesh.reach_twiceBound True
  have one : Interleaves (fun session => requestsIn session blocks) blocks :=
    ⟨by decide, fun _ _ => rfl⟩
  obtain ⟨answers, _, same, _⟩ :=
    @sessions_do_not_interfere _ _ 0 _ reach rfl rfl _ _ _ one interleaves_turns
  refine ⟨_, ?_, same.symm, (answers ⟨9⟩).symm⟩
  rfl

end DaemonMesh
