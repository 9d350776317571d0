import DaemonMesh.Proofs.ServedNames
import DaemonMesh.Proofs.SnapshotDelivery

namespace DaemonMesh

theorem Mesh.lookupOrFail_of_lookup {mesh : Mesh} {router : Router} {name : String}
    {found : Nat × Endpoint} (present : mesh.lookup router name = some found) :
    mesh.lookupOrFail router name = .ok found := by
  unfold lookupOrFail
  rw [present]

/-- Where there are candidates, a routed message is offered to one of them at least. -/
theorem World.route_attempts {world : World} {router : Router} {name : String} {target : Nat}
    {endpoint : Endpoint} (present : world.mesh.lookup router name = some (target, endpoint))
    {message : Message} (paths : endpoint.routes.candidates message.session ≠ [])
    (perform : Performer) (id : Nat) :
    (∃ delivery, (world.route perform id router name message).1 = .ok delivery ∧
      0 < delivery.attempts) ∨
    ∃ attempts, (world.route perform id router name message).1 =
        .error (Failure.fromRouter (.routing (.noRoute endpoint.name message.session attempts))) ∧
      0 < attempts := by
  obtain ⟨offers, sent, after, _, offered, sends⟩ :=
    (world.withMesh (world.mesh.holdRouter id)).send_offered perform target endpoint message
      message.session
  unfold World.route
  rw [Mesh.lookupOrFail_of_lookup present]
  dsimp only
  rw [sends]
  rcases offered.outcome with ⟨refused, link, whole, _, taken⟩ | ⟨_, _, failed⟩
  · rw [taken]
    refine Or.inl ⟨_, rfl, ?_⟩
    rw [whole, List.length_append]
    exact Nat.succ_pos _
  · rw [failed]
    exact Or.inr ⟨_, rfl, List.length_pos_iff.mpr paths⟩

/-- What a router can count on for a name that it has registered. -/
structure World.Serves (world : World) (id : Nat) (router : Router) (name : String) (target : Nat)
    (endpoint : Endpoint) : Prop where
  present : world.mesh.lookup router name = some (target, endpoint)
  started : endpoint.state = .started
  named : endpoint.name = name
  alone : ∀ other otherName, world.mesh.Registers other otherName target →
    other = id ∧ otherName = name
  direct : endpoint.routes.candidates .direct ≠ []
  binds : router.selector = .firstAvailable → ∀ session ≠ .direct, ∀ opts,
    ∃ link ∈ endpoint.routes.candidates .direct,
      (world.bindBest target endpoint session opts).1 = .ok link
  tries : ∀ (perform : Performer) (message : Message), message.session = .direct →
    (∃ delivery, (world.route perform id router name message).1 = .ok delivery ∧
      0 < delivery.attempts) ∨
    ∃ attempts, (world.route perform id router name message).1 =
        .error (Failure.fromRouter (.routing (.noRoute name .direct attempts))) ∧
      0 < attempts
  /-- Another path is taken by this very endpoint; it is not replaced. -/
  stands : ∀ link, ∃ added after, endpoint.tryAddLink link = some (added, after) ∧
    world.mesh.reach id router name link = (target, world.mesh.setEndpoint target after)

theorem World.serves {world : World} (reach : Mesh.Reach False world.mesh) {id target : Nat}
    {router : Router} {name : String} (atId : world.mesh.router? id = some router)
    (found : router.endpoints.find? name = some target) :
    ∃ endpoint, world.Serves id router name target endpoint := by
  have registers : world.mesh.Registers id name target := ⟨router, atId, found⟩
  have registered := reach.registered
  obtain ⟨endpoint, there, named, selector⟩ := registered.known id router name target atId found
  obtain ⟨served, alsoThere, started, direct⟩ := reach.served id name target registers
  rw [← Option.some.inj (there.symm.trans alsoThere)] at started direct
  have present := Mesh.lookup_eq_some.mpr ⟨found, there⟩
  have alive := Mesh.mem_liveTables_iff.mpr (Or.inr ⟨target, endpoint, there, rfl⟩)
  refine ⟨endpoint, present, started, named, ?_, direct, ?_, ?_, ?_⟩
  · intro other otherName also
    have here := registered.single id name target other otherName registers also
    subst here
    obtain ⟨current, atCurrent, foundCurrent⟩ := also
    obtain ⟨another, anotherThere, anotherNamed, _⟩ :=
      registered.known other current otherName target atCurrent foundCurrent
    rw [← anotherNamed, ← Option.some.inj (there.symm.trans anotherThere)]
    exact ⟨rfl, named⟩
  · intro first session nonzero opts
    have default : endpoint.selector = .firstAvailable := selector.trans first
    rcases world.bindBest_first target (reach.accounted.valid _ alive) default nonzero opts with
      ⟨pathless, _⟩ | bound
    · exact (direct pathless).elim
    · exact bound
  · intro perform message outside
    have paths : endpoint.routes.candidates message.session ≠ [] := by
      rw [outside]
      exact direct
    have tried := World.route_attempts present paths perform id
    rw [named, outside] at tried
    exact tried
  · intro link
    obtain ⟨other, added, after, otherThere, taken, reached⟩ :=
      reach.served.reach_registered atId found link
    rw [← Option.some.inj (there.symm.trans otherThere)] at taken
    exact ⟨added, after, taken, reached⟩

end DaemonMesh
