/-
# Rehearsed gathers

A rehearsal says in advance how every device behaves when it is asked: it
answers, it does not return before the wait is over, or it takes its worker
down. The events of a rehearsed gather are then certain, because the devices
are taken in order and a worker that gets its answer is ready for the next one.
They are run by the same `step?` as all others.
-/

import NetTopology.Polling.Gather
import NetTopology.Polling.Options
import NetTopology.Snapshot

namespace NetTopology.Polling

/-- How the devices behave in one gather. -/
structure Rehearsal where
  /-- What the devices answer; the others answer nothing. -/
  observations : ObservationSet
  /-- The devices that do not return before the wait is over. -/
  hanging : List String := []
  /-- The devices that take their worker down. -/
  crashing : List String := []
  deriving Inhabited

namespace Rehearsal

variable (plan : Rehearsal)

/-- The events from the start of a gather to the end of its wait, where so many
workers are ready and these devices wait in the queue. -/
def serving (number : Nat) : Nat → List String → List Event
  | 0, _ => []
  | ready + 1, [] => List.replicate (ready + 1) .retire
  | ready + 1, name :: waiting =>
    let query : Query := ⟨number, name⟩
    if name ∈ plan.hanging then .pick :: serving number ready waiting
    else if name ∈ plan.crashing then .pick :: .crash query :: serving number ready waiting
    else
      .pick :: .answer query plan.observations[name]? :: .send query :: .receive ::
        serving number (ready + 1) waiting

/-- The events by which a gather ends. Only one of the reasons is possible. -/
def closing : List Event :=
  [.leave .complete, .leave .deserted, .leave .timeOver, .close]

/-- The events of a whole gather. -/
def events (pool : Pool) (state : Gathering) : List Event :=
  let begun := state.begin pool
  .start :: plan.serving begun.number begun.ready begun.queue ++ closing

end Rehearsal

namespace Gathering

/-- The events by which late queries of the given devices return. -/
def releases (state : Gathering) (names : List String) : List Event :=
  (state.active.filter fun query => query.name ∈ names).flatMap fun query =>
    [.answer query none, .send query]

/-- The state after a sequence of events, where impossible ones change nothing. -/
def follow (pool : Pool) (state : Gathering) (events : List Event) : Gathering :=
  events.foldl (fun state event => (state.step? pool event).getD state) state

/-- The state after late queries have returned. -/
def release (pool : Pool) (state : Gathering) (names : List String) : Gathering :=
  state.follow pool (state.releases names)

/-- The state after a rehearsed gather. -/
def gather (pool : Pool) (state : Gathering) (plan : Rehearsal) : Gathering :=
  state.follow pool (plan.events pool state)

/-- The devices asked in the last gather. -/
def asked (state : Gathering) : List String :=
  (state.started.filter fun query => query.gather == state.number).map Query.name

end Gathering

/-- The snapshot of a cycle: what the last gather has observed, reconciled. -/
def Gathering.snapshot (state : Gathering) (catalog : Catalog) (options : Options) : Snapshot :=
  Network.snapshot ⟨catalog, state.observations⟩ { reboot := options.rebootThreshold }

end NetTopology.Polling
