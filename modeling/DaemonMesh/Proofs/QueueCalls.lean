import DaemonMesh.Proofs.QueueTraffic
import DaemonMesh.Proofs.StepEffects

namespace DaemonMesh

namespace World

/-- Calls on queues one after the other, with all that they deal. -/
inductive Calls (world : World) : List Dealing → World → Prop
  | rest : Calls world [] world
  | call {between next : World} {dealt dealings : List Dealing} (calls : Calls world dealt between)
      (deals : between.Deals dealings next) : Calls world (dealt ++ dealings) next

/-- What ends in a world of queues began in one, and was calls on these queues all the way. Who
makes a scripted link ends elsewhere, as no link ever goes. -/
def Trades (world next : World) : Prop :=
  next.Queues → world.Queues ∧ ∃ dealings, world.Calls dealings next

variable {world next later : World} {ledger dealings more : List Dealing} {link : Link}

/-- Calls follow one another, and so do the parts of the ledger. -/
theorem Calls.trans (first : world.Calls dealings next) (second : next.Calls more later) :
    world.Calls (dealings ++ more) later := by
  induction second with
  | rest =>
    rw [List.append_nil]
    exact first
  | call _ deals ih =>
    rw [← List.append_assoc]
    exact .call ih deals

/-- A ledger goes on with what further calls deal. -/
theorem Traffic.calls (traffic : Traffic world ledger) (calls : world.Calls dealings next) :
    Traffic next (ledger ++ dealings) := by
  induction calls with
  | rest =>
    rw [List.append_nil]
    exact traffic
  | call _ deals ih =>
    rw [← List.append_assoc]
    exact .next ih deals

/-- Read from the end: if the last world has queues only, so has the one in between, and then the
first. -/
theorem Trades.trans (first : Trades world next) (second : Trades next later) :
    Trades world later := by
  intro queues
  obtain ⟨between, _, after⟩ := second queues
  obtain ⟨start, _, before⟩ := first between
  exact ⟨start, _, before.trans after⟩

/-- A single call on a queue trades, provided that it turned no scripted link into a queue. -/
theorem trades_deals (deals : world.Deals dealings next) (queues : next.Queues → world.Queues) :
    Trades world next := fun after => ⟨queues after, _, .call .rest deals⟩

/-- Routing is done aside from the queues. -/
theorem trades_aside (carriers : next.carriers = world.carriers) : Trades world next :=
  trades_deals (.aside carriers) fun queues place carrier found =>
    queues place carrier (carriers ▸ found)

/-- With a scripted link left over there is nothing to show. -/
theorem trades_scripted {place : Nat} {plan : ScriptedLink}
    (found : next.carriers[place]? = some (.scripted plan)) : Trades world next := by
  intro queues
  obtain ⟨_, other⟩ := queues place _ found
  cases other

/-- The queue behind a link is exchanged for what has become of it. -/
theorem trades_setCarrier {queue after : Queue} (atLink : world.carrier? link = some (.queue queue))
    (deals : world.Deals dealings (world.setCarrier link (.queue after))) :
    Trades world (world.setCarrier link (.queue after)) := by
  refine trades_deals deals fun queues place carrier found => ?_
  by_cases here : link.number = place
  · subst here
    exact ⟨queue, Option.some.inj (found.symm.trans atLink)⟩
  · exact queues place carrier ((List.getElem?_set_ne here).trans found)

/-- Each effect on a queue is a call of the kind that ledgers are made of. Sending comes down to the
push alone, whichever way the message came to the link. -/
theorem Effect.trades (effect : world.Effect next) : Trades world next := by
  cases effect with
  | aside effect carriers => exact trades_aside carriers
  | @send link queue after message atLink pushed =>
    have sent : world.Deals _ (world.push noScripts link message).2 := .send (.push link)
    have taken : (world.push noScripts link message).2 = world.setCarrier link (.queue after) := by
      simp [push, atLink, pushed]
    rw [taken] at sent
    exact trades_setCarrier atLink sent
  | receive atLink isOpen => exact trades_setCarrier atLink (.receive atLink isOpen)
  | drain atLink isOpen => exact trades_setCarrier atLink (.drain atLink isOpen)
  | close atLink => exact trades_setCarrier atLink (.close atLink)
  | make name guid capacity =>
    refine trades_deals (.openQueue name guid capacity) fun queues place carrier found => ?_
    have within := (List.getElem?_eq_some_iff.mp found).1
    exact queues place carrier ((List.getElem?_append_left within).trans found)
  | script effect there => exact trades_scripted there

/-- So steps can be followed by what they trade. -/
theorem tracks_trades : Tracks Trades where
  trans := Trades.trans
  effect := Effect.trades

/-- As long as all links are over queues, a step of a scenario is calls on queues, and so are the
steps that subscribers take on account of it: the ledger goes on over the step. -/
theorem Traffic.step (traffic : Traffic world ledger) (step : Step) (focus : Focus)
    (queues : (world.report step focus).2.Queues) :
    ∃ dealings, Traffic (world.report step focus).2 (ledger ++ dealings) := by
  have begun : Trades world { world with trace := [] } := trades_aside rfl
  obtain ⟨_, dealings, calls⟩ := begun.trans (keeping_nested tracks_trades _ _ step) queues
  exact ⟨dealings, traffic.calls calls⟩

/-- Every scenario that ends with queues only has a ledger, in which its queues are settled. -/
theorem Run.traffic {handles : Prop} (run : Run handles world) (queues : world.Queues) :
    ∃ ledger, Traffic world ledger := by
  induction run with
  | start => exact ⟨[], .start⟩
  | @next world step _ _ focus ih =>
    have begun : Trades world { world with trace := [] } := trades_aside rfl
    obtain ⟨ledger, traffic⟩ := ih (begun.trans (keeping_nested tracks_trades _ _ step) queues).1
    obtain ⟨dealings, goesOn⟩ := traffic.step step focus queues
    exact ⟨_, goesOn⟩

end World

end DaemonMesh
