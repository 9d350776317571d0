import DaemonMesh.Scenario.Routers
import DaemonMesh.Scenario.Tables

namespace DaemonMesh

namespace World

/-- Carries one step out; steps inside scripts are left to `perform`. -/
def performStep (perform : Performer) (world : World) : Step → Outcome × World
  | .link label request => world.performLink perform label request
  | .scriptLink label name guid refusal cause scripts =>
    (.answer .nothing, world.openLink label name guid (.scripted ⟨label, refusal, cause, scripts⟩))
  | .rescriptLink label refusal cause scripts => world.withLink label fun link =>
    world.rescript link refusal cause scripts
  | .deliver links message => world.performDelivery perform links message
  | .table label request => world.performTable label request
  | .endpoint label request => world.performEndpoint perform label request
  | .subscribe registry label scripts crashes => world.withRegistry registry fun id =>
    world.subscribe id ⟨label, scripts, crashes⟩
  | .events label request => world.performEvents perform label request
  | .router label request => world.performRouter perform label request
  | .malformed => (.malformed, world)

/-- Nobody carries out steps of scripts. -/
def noScripts : Performer := fun world _ => (.malformed, world)

/-- Carries one step out, with scripts nested in scripts up to a depth. -/
def performNested : Nat → Performer
  | 0 => performStep noScripts
  | depth + 1 => performStep (performNested depth)

/-- Carries one step out. A script is used up when it is begun, so scripts cannot lie deeper in one
another than there are scripts at all. -/
def perform (world : World) (step : Step) : Outcome × World :=
  performNested (world.scriptCount + step.scriptCount) world step

end World

/-- Which object is to be shown after a step. -/
structure Focus where
  table : Option String
  endpoint : Option String
  router : Option String

/-- How that object looks. -/
inductive View
  | table (text : String)
  | endpoint (text : String)
  | endpoints (texts : List String)
deriving DecidableEq, Repr

/-- A table comes before an endpoint, and an endpoint before a router; what does not exist is passed
over. -/
def World.view? (world : World) (focus : Focus) : Option View :=
  (do
    let (_, table) ← focus.table.bind world.tableAt
    some (.table table.shown))
  <|> (do
    let (_, endpoint) ← focus.endpoint.bind world.endpointAt
    some (.endpoint endpoint.shown))
  <|> (do
    let (_, router) ← focus.router.bind world.routerAt
    some (.endpoints ((world.mesh.registered router).map fun entry => entry.2.shown)))

/-- What is to be known of one step of a scenario. -/
structure StepReport where
  outcome : Outcome
  trace : List TraceEntry
  view : Option View
  references : List (String × Nat)
deriving DecidableEq, Repr

/-- Carries out a step from outside, with a trace of its own. -/
def World.report (world : World) (step : Step) (focus : Focus) : StepReport × World :=
  let (outcome, world) := { world with trace := [] }.perform step
  (⟨outcome, world.trace, world.view? focus, world.references⟩, world)

def World.runFrom (world : World) : List (Step × Focus) → List StepReport
  | [] => []
  | (step, focus) :: rest =>
    let (report, world) := world.report step focus
    report :: world.runFrom rest

/-- Carries out a scenario from the start. -/
def runScenario (steps : List (Step × Focus)) : List StepReport := World.empty.runFrom steps

end DaemonMesh
