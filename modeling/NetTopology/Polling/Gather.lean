/-
# Gathering observations

One gather asks every pollable device once. The devices wait in a queue, and a
pool of workers takes them from it one by one. A worker sends what a query has
returned to the gather and takes the next device; when the queue is empty it
ends. The gather waits until all devices have answered, until the time is over
or until no worker is left. Then it clears the queue: what still waits there is
not asked at all.

A query may outlive the gather that started it. Its device stays marked as in
flight, and no later gather asks it again before the query has returned or its
worker has died. A query counts as running from the moment its device leaves
the queue until the device loses its mark, and what a late query returns is
lost, since the gather that would receive it is over.

Everything that can happen is an event, and `step?` says which events are
possible in a state and what they lead to. Each event is one access to what the
workers and the gather share. The order in which workers proceed, the end of
the wait and the return of late queries are free, so what holds of all
sequences of events holds of all schedules.
-/

import Std.Data.ExtTreeSet
import NetTopology.LastWrite
import NetTopology.Observation
import NetTopology.Polling.Pool

namespace NetTopology.Polling

/-- One query of a device. -/
structure Query where
  /-- The number of the gather that started the query. -/
  gather : Nat
  name : String
  deriving DecidableEq, Inhabited

/-- What a worker sends to its gather: the name of a device and what it has returned. -/
abbrev Message := String × Option Observation

/-- How far the last gather has come. -/
inductive Phase where
  /-- It is over. -/
  | idle
  /-- It waits for answers. -/
  | waiting
  /-- It waits no longer, but has not cleared its queue yet. -/
  | leaving
  deriving DecidableEq, Inhabited

/-- Why a gather waits no longer. -/
inductive Reason where
  /-- All devices have answered. -/
  | complete
  /-- The time is over. -/
  | timeOver
  /-- No worker is left. -/
  | deserted
  deriving DecidableEq, Inhabited

/-- Where the polling of a catalog stands. -/
structure Gathering where
  /-- The number of gathers started so far. -/
  number : Nat := 0
  /-- How far the last of them has come. -/
  phase : Phase := .idle
  /-- How many devices the last gather has put into the queue. -/
  expected : Nat := 0
  /-- The devices that still wait in the queue. -/
  queue : List String := []
  /-- The workers of the running gather that are ready to take a device. -/
  ready : Nat := 0
  /-- The queries that are in progress. -/
  active : List Query := []
  /-- The queries that have returned but whose result is not sent yet, with the result. -/
  returned : List (Query × Option Observation) := []
  /-- What has been sent to the running gather and not received yet. -/
  channel : List Message := []
  /-- What the last gather has received, in the order of arrival. -/
  received : List Message := []
  /-- The devices that are marked as being asked. -/
  inFlight : Std.ExtTreeSet String := ∅
  /-- All queries started so far, in order. -/
  started : List Query := []
  deriving Inhabited

/-- What can happen. -/
inductive Event where
  /-- A gather starts. -/
  | start
  /-- A ready worker takes the first device from the queue and asks it. -/
  | pick
  /-- A ready worker finds the queue empty and ends. -/
  | retire
  /-- A query returns, and its device loses the mark. -/
  | answer (query : Query) (observation : Option Observation)
  /-- A query ends its worker, and its device loses the mark. -/
  | crash (query : Query)
  /-- A worker sends what a query has returned. -/
  | send (query : Query)
  /-- The gather receives the first message that was sent. -/
  | receive
  /-- The gather stops waiting. -/
  | leave (reason : Reason)
  /-- The gather clears its queue and ends. -/
  | close

namespace Gathering

def isRunning (state : Gathering) : Bool :=
  state.phase != .idle

/-- The devices that the next gather asks: those that are not in flight. -/
def fresh (state : Gathering) (pool : Pool) : List String :=
  pool.devices.filter fun name => !state.inFlight.contains name

/-- Start a gather. Without any device to ask it ends at once. -/
def begin (state : Gathering) (pool : Pool) : Gathering :=
  let fresh := state.fresh pool
  { state with
    number := state.number + 1
    phase := if fresh.isEmpty then .idle else .waiting
    expected := fresh.length
    queue := fresh
    ready := min (max pool.threads 1) fresh.length
    received := []
    inFlight := state.inFlight.insertMany fresh }

/-- Let a ready worker ask the first device of the queue. -/
def ask (state : Gathering) (name : String) (waiting : List String) : Gathering :=
  let query : Query := ⟨state.number, name⟩
  { state with
    queue := waiting
    ready := state.ready - 1
    active := state.active ++ [query]
    started := state.started ++ [query] }

/-- Let a ready worker end. -/
def dismiss (state : Gathering) : Gathering :=
  { state with ready := state.ready - 1 }

/-- Take a query from those in progress, and its mark from the device. -/
def finish (state : Gathering) (query : Query) : Gathering :=
  { state with
    active := state.active.erase query
    inFlight := state.inFlight.erase query.name }

/-- Finish a query and keep what it has returned. -/
def keep (state : Gathering) (query : Query) (result : Option Observation) : Gathering :=
  let rest := state.finish query
  { rest with returned := state.returned ++ [(query, result)] }

/-- What a query has returned and not sent. -/
def resultOf? (state : Gathering) (query : Query) : Option (Option Observation) :=
  (state.returned.find? fun result => result.1 == query).map Prod.snd

/-- Forget what a query has returned. -/
def dropResult (state : Gathering) (query : Query) : Gathering :=
  { state with returned := state.returned.eraseP fun result => result.1 == query }

/-- Whether a query was started by the last gather. -/
def isOwn (state : Gathering) (query : Query) : Bool :=
  query.gather == state.number

/-- Send a result. The worker of a gather that is over ends instead, and the
result is lost. -/
def dispatch (state : Gathering) (query : Query) (result : Option Observation) : Gathering :=
  let rest := state.dropResult query
  if state.isRunning && state.isOwn query then
    { rest with
      channel := state.channel ++ [(query.name, result)]
      ready := state.ready + 1 }
  else rest

def accept (state : Gathering) (message : Message) (later : List Message) : Gathering :=
  { state with
    channel := later
    received := state.received ++ [message] }

/-- Whether all devices of the last gather have answered. -/
def isComplete (state : Gathering) : Bool :=
  state.expected ≤ state.received.length

/-- Whether no worker of the last gather is left. -/
def isDeserted (state : Gathering) : Bool :=
  state.ready == 0 && !state.active.any state.isOwn &&
    !state.returned.any fun result => state.isOwn result.1

/-- Whether the gather may stop waiting for a reason. The end of the time and
the lack of workers are noticed only when there is nothing to receive. -/
def mayLeave (state : Gathering) : Reason → Bool
  | .complete => state.isComplete
  | .timeOver => !state.isComplete && state.channel.isEmpty
  | .deserted => !state.isComplete && state.channel.isEmpty && state.isDeserted

/-- End the running gather. The devices that nobody has asked lose their marks. -/
def finishGather (state : Gathering) : Gathering :=
  { state with
    phase := .idle
    queue := []
    ready := 0
    channel := []
    inFlight := state.queue.foldl (fun marked name => marked.erase name) state.inFlight }

/-- The state after an event, if the event is possible. -/
def step? (pool : Pool) (state : Gathering) : Event → Option Gathering
  | .start => if state.isRunning then none else some (state.begin pool)
  | .pick =>
    match state.queue with
    | [] => none
    | name :: waiting => if 0 < state.ready then some (state.ask name waiting) else none
  | .retire => if state.queue = [] ∧ 0 < state.ready then some state.dismiss else none
  | .answer query observation =>
    if query ∈ state.active then some (state.keep query observation) else none
  | .crash query => if query ∈ state.active then some (state.finish query) else none
  | .send query => (state.resultOf? query).map (state.dispatch query)
  | .receive =>
    match state.channel with
    | [] => none
    | message :: later =>
      if state.phase = .waiting ∧ !state.isComplete then some (state.accept message later)
      else none
  | .leave reason =>
    if state.phase = .waiting ∧ state.mayLeave reason then some { state with phase := .leaving }
    else none
  | .close => if state.phase = .leaving then some state.finishGather else none

/-- The state after a sequence of events, if all of them are possible in turn. -/
def run? (pool : Pool) (state : Gathering) (events : List Event) : Option Gathering :=
  events.foldlM (step? pool) state

/-- The observations of the last gather. -/
def observations (state : Gathering) : ObservationSet :=
  lastWrites <| state.received.filterMap fun (name, result) =>
    result.map fun observation => (name, observation)

end Gathering

end NetTopology.Polling
