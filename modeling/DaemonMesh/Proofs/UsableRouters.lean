import DaemonMesh.Proofs.StepEffects
import DaemonMesh.Proofs.StoredConfigs
import DaemonMesh.Triangle.Program

namespace DaemonMesh

namespace Mesh

variable {mesh next later : Mesh}

/-- Routers that were there keep their configuration, and new ones have one that can be used. -/
def Equips (mesh next : Mesh) : Prop := ∀ id router, next.router? id = some router →
  router.config.validate = .ok () ∨
    ∃ before, mesh.router? id = some before ∧ before.config = router.config

theorem Equips.trans (first : mesh.Equips next) (second : next.Equips later) :
    mesh.Equips later := by
  intro id router atId
  rcases second id router atId with usable | ⟨between, atBetween, same⟩
  · exact Or.inl usable
  · rw [← same]
    exact first id between atBetween

theorem Effect.equips (effect : mesh.Effect next) : mesh.Equips next := by
  intro id router atId
  cases effect with
  | quiet quiet => exact Or.inr (quiet.setups id router atId)
  | addRegistry | subscribe | unsubscribe => exact Or.inr ⟨router, atId, rfl⟩
  | addRouter new usable =>
    have slot : (mesh.routers ++ [some new])[id]?.join = some router := atId
    rw [List.getElem?_append] at slot
    split at slot
    · exact Or.inr ⟨router, slot, rfl⟩
    · cases behind : id - mesh.routers.length with
      | zero =>
        rw [behind] at slot
        exact Or.inl (Option.some.inj slot ▸ usable)
      | succ place =>
        rw [behind] at slot
        cases slot

theorem tracks_equips : Tracks Equips where
  trans := Equips.trans
  effect := Effect.equips

end Mesh

namespace RouterConfig

theorem validate_default : RouterConfig.default.validate = .ok () := by decide

theorem validate_withLogFilter {config : RouterConfig} (usable : config.validate = .ok ())
    {filter : String} (shown : isBlankText filter = false) :
    (config.withLogFilter filter).validate = .ok () :=
  (validate_ok_iff _).mpr
    ⟨((validate_ok_iff config).mp usable).1, isBlankText_eq_false.mp shown⟩

end RouterConfig

/-- The demonstration sets its router up with a usable configuration or not at all. -/
theorem validate_triangleConfig {files : FileTree} {options : TriangleOptions}
    {config : RouterConfig} (found : triangleConfig files options = .ok config) :
    config.validate = .ok () := by
  have kept (given : RouterConfig) (usable : given.validate = .ok ()) :
      (if options.debug then given.withLogFilter debugLogFilter else given).validate = .ok () := by
    split
    · exact RouterConfig.validate_withLogFilter usable (by decide)
    · exact usable
  unfold triangleConfig at found
  cases asked : options.config with
  | none =>
    rw [asked] at found
    rw [← Except.ok.inj found]
    exact kept _ RouterConfig.validate_default
  | some path =>
    rw [asked] at found
    obtain ⟨given, loaded, chosen⟩ := bind_eq_ok found
    rw [← Except.ok.inj chosen]
    exact kept given (RouterConfig.validate_of_loadFile loaded)

namespace World

variable {world : World} {label : String}

/-- Every router has a configuration that can be used. -/
def Equipped (world : World) : Prop :=
  ∀ id router, world.mesh.router? id = some router → router.config.validate = .ok ()

/-- The world that a scenario leads to. -/
def afterScenario (steps : List (Step × Focus)) : World :=
  steps.foldl (fun world entry => (world.report entry.1 entry.2).2) empty

theorem equipped_empty : empty.Equipped := nofun

/-- No step makes a router with a configuration that cannot be used, and no step changes one. -/
theorem Equipped.performNested (equipped : world.Equipped) (depth : Nat) (step : Step) :
    (performNested depth world step).2.Equipped := by
  intro id router atId
  rcases keeping_nested (tracks_mesh Mesh.tracks_equips) depth world step id router atId with
    usable | ⟨before, atBefore, same⟩
  · exact usable
  · rw [← same]
    exact equipped id before atBefore

theorem equipped_afterScenario (steps : List (Step × Focus)) : (afterScenario steps).Equipped := by
  have go (world : World) (equipped : world.Equipped) :
      (steps.foldl (fun world entry => (world.report entry.1 entry.2).2) world).Equipped := by
    induction steps generalizing world with
    | nil => exact equipped
    | cons entry rest ih =>
      have told : ({ world with trace := [] } : World).Equipped := equipped
      exact ih _ (told.performNested _ entry.1)
  exact go empty equipped_empty

/-- A usable capacity is neither nothing nor more than a queue can count. -/
theorem openQueue_usable {config : RouterConfig} (usable : config.validate = .ok ())
    (world : World) (label name : String) (guid : Guid) :
    world.openQueue label name guid config.queueCapacity.toNat =
      (.answer .nothing,
        world.openLink label name guid (.queue (.opened config.queueCapacity.toNat))) := by
  obtain ⟨⟨lower, upper⟩, _⟩ := config.validate_ok_iff.mp usable
  have counted : ¬maxPermits < config.queueCapacity.toNat :=
    Nat.not_lt.mpr (upper.trans (by decide))
  unfold openQueue
  rw [if_neg (Nat.ne_of_gt lower), if_neg counted]

theorem Equipped.openQueue (equipped : world.Equipped) {id : Nat} {router : Router}
    (present : world.routerAt label = some (id, router)) (perform : Performer)
    (other name : String) (guid : Guid) :
    world.performRouter perform label (.openQueue other name guid) =
      (.answer .nothing, world.openLink other name guid
        (.queue (.opened router.config.queueCapacity.toNat))) := by
  unfold performRouter
  dsimp only
  rw [withRouter_eq present]
  exact openQueue_usable (equipped id router (routerAt_eq_some.mp present).2) world other name guid

/-- A router is built from a configuration that can be used, and has it from then on. -/
theorem openRouter_usable {setup : RouterSetup} {registry : Nat} {prepared : World}
    (known : world.registryFor setup.sharedEvents = some (registry, prepared))
    (usable : setup.config.validate = .ok ()) :
    (world.openRouter label setup).1 = .answer .nothing ∧ ∃ id router,
      (world.openRouter label setup).2.routerAt label = some (id, router) ∧
        router.config = setup.config := by
  unfold openRouter
  rw [known]
  dsimp only
  rw [usable]
  refine ⟨rfl, _, ⟨.empty, setup.selector, registry, setup.config⟩,
    routerAt_eq_some.mpr ⟨OrderedMap.find?_insert_self .., ?_⟩, rfl⟩
  show ((prepared.dropRouter label).mesh.routers ++
    [some ⟨.empty, setup.selector, registry, setup.config⟩])[_]?.join = _
  rw [List.getElem?_concat_length]
  rfl

theorem openRouter_refused {setup : RouterSetup} {registry : Nat} {prepared : World}
    (known : world.registryFor setup.sharedEvents = some (registry, prepared)) {error : ConfigError}
    (refused : setup.config.validate = .error error) :
    world.openRouter label setup = (.failed (.bus (.config error)), world) := by
  unfold openRouter
  rw [known]
  dsimp only
  rw [refused]

end World

/-- A stored configuration comes back whatever its values are, and loading, building and opening
queues agree on which configurations can be used. -/
theorem config_kept_and_checked (config : RouterConfig) {tree : FileTree} {path : String}
    (writable : tree.Writable path) :
    (∃ stored, RouterConfig.save tree path config = .ok stored ∧
      RouterConfig.loadFile stored path = match config.validate with
        | .ok () => .ok config
        | .error error => .error (.config error)) ∧
      (config.validate = .ok () ↔ (1 ≤ config.queueCapacity.toNat ∧
          config.queueCapacity.toNat ≤ RouterConfig.maxQueueCapacity) ∧
        ∃ c ∈ config.logFilter.toList, isBlank c = false) ∧
      (∀ error, config.validate = .error error →
        error = if 1 ≤ config.queueCapacity.toNat ∧
            config.queueCapacity.toNat ≤ RouterConfig.maxQueueCapacity then
          .invalidValue "log_filter" "must not be empty"
        else .invalidValue "link_queue_capacity" (toString config.queueCapacity.toNat ++
          " is outside 1..=" ++ toString RouterConfig.maxQueueCapacity)) ∧
      (∀ (world : World) (label : String) (selector : Selector) (shared : Option String),
        world.registryFor shared ≠ none → match config.validate with
          | .ok () => (world.openRouter label ⟨selector, config, shared⟩).1 = .answer .nothing ∧
            ∃ id router, (world.openRouter label ⟨selector, config, shared⟩).2.routerAt label =
              some (id, router) ∧ router.config = config
          | .error error => world.openRouter label ⟨selector, config, shared⟩ =
            (.failed (.bus (.config error)), world)) ∧
      RouterConfig.default.validate = .ok () ∧
      (∀ files options chosen, triangleConfig files options = .ok chosen →
        chosen.validate = .ok ()) ∧
      (∀ (world : World) (depth : Nat) (step : Step), world.Equipped →
        (World.performNested depth world step).2.Equipped) ∧
      ∀ steps id router, (World.afterScenario steps).mesh.router? id = some router →
        router.config.validate = .ok () ∧
          (∀ (world : World) (label name : String) (guid : Guid),
            (world.openQueue label name guid router.config.queueCapacity.toNat).1 =
              .answer .nothing) ∧
          ∀ perform label other name guid,
            (World.afterScenario steps).routerAt label = some (id, router) →
              ((World.afterScenario steps).performRouter perform label
                (.openQueue other name guid)).1 = .answer .nothing := by
  refine ⟨config.loadFile_save writable, config.validate_ok_iff,
    fun _ refused => config.validate_error refused, ?_, RouterConfig.validate_default,
    fun _ _ _ => validate_triangleConfig, fun _ depth step equipped =>
      equipped.performNested depth step, ?_⟩
  · intro world label selector shared known
    obtain ⟨⟨registry, prepared⟩, found⟩ := Option.ne_none_iff_exists'.mp known
    split
    · next usable => exact World.openRouter_usable found usable
    · next error refused => exact World.openRouter_refused found refused
  · -- No run has a router whose capacity is refused, so its queues do not fail to be made.
    intro steps id router atId
    have equipped := World.equipped_afterScenario steps
    have usable := equipped id router atId
    refine ⟨usable, fun world label name guid => ?_, ?_⟩
    · rw [World.openQueue_usable usable]
    · intro perform label other name guid present
      rw [equipped.openQueue present]

/-- A filter of a quote, a backslash, a control character and a character beyond the basic plane. -/
def oddConfig : RouterConfig := ⟨7, "\"\\\x01🚀"⟩

/-- A router is built with that configuration. -/
def oddScenario : List (Step × Focus) :=
  [(.router "r" (.new ⟨.firstAvailable, oddConfig, none⟩), ⟨none, none, none⟩)]

theorem config_kept_and_checked_odd :
    FileTree.empty.Writable "c" ∧
      (∃ stored, RouterConfig.save .empty "c" oddConfig = .ok stored ∧
        RouterConfig.loadFile stored "c" = .ok oddConfig) ∧
      (∃ stored, RouterConfig.save .empty "c" ⟨0, " "⟩ = .ok stored ∧
        RouterConfig.loadFile stored "c" = .error (.config
          (.invalidValue "link_queue_capacity" "0 is outside 1..=1048576"))) ∧
      (World.empty.openRouter "r" ⟨.firstAvailable, oddConfig, none⟩).1 = .answer .nothing ∧
      ((World.afterScenario oddScenario).performRouter World.noScripts "r"
        (.openQueue "q" ":1.1" (.numbered 1))).1 = .answer .nothing := by
  have usable : oddConfig.validate = .ok () := by decide
  have refused : (⟨0, " "⟩ : RouterConfig).validate = .error
      (.invalidValue "link_queue_capacity" "0 is outside 1..=1048576") := by decide
  have present : (World.afterScenario oddScenario).routerAt "r" =
      some (0, ⟨.empty, .firstAvailable, 0, oddConfig⟩) := rfl
  obtain ⟨kept, _, _, built, _, _, _, runs⟩ := config_kept_and_checked oddConfig writable_bareName
  have complained := (config_kept_and_checked ⟨0, " "⟩ writable_bareName).1
  have opened := built .empty "r" .firstAvailable none nofun
  have queued := (runs oddScenario 0 _ (World.routerAt_eq_some.mp present).2).2.2
    World.noScripts "r" "q" ":1.1" (.numbered 1) present
  rw [usable] at kept opened
  rw [refused] at complained
  exact ⟨writable_bareName, kept, complained, opened.1, queued⟩

end DaemonMesh
