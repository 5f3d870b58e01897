/-
# Steps and runs

`step?` decides whether an event is possible; `Step` lists what each possible
event needs and what it leads to, one case an event. A property of all runs is
proved from it by a single induction: it holds at the start, and each step
keeps it.
-/

import NetTopology.Polling.Gather
import Mathlib.Data.List.Induction

namespace NetTopology.Polling

namespace Gathering

/-- The state after a worker of the running gather has sent a result. -/
def deliver (state : Gathering) (query : Query) (result : Option Observation) : Gathering :=
  { state.dropResult query with
    channel := state.channel ++ [(query.name, result)]
    ready := state.ready + 1 }

/-- The possible steps. A worker whose gather is over sends to nobody. -/
inductive Step (pool : Pool) (state : Gathering) : Event → Gathering → Prop where
  | start (hidle : state.phase = .idle) : Step pool state .start (state.begin pool)
  | pick {name : String} {waiting : List String} (hqueue : state.queue = name :: waiting)
      (hready : 0 < state.ready) : Step pool state .pick (state.ask name waiting)
  | retire (hqueue : state.queue = []) (hready : 0 < state.ready) :
      Step pool state .retire state.dismiss
  | answer {query : Query} (result : Option Observation) (hactive : query ∈ state.active) :
      Step pool state (.answer query result) (state.keep query result)
  | crash {query : Query} (hactive : query ∈ state.active) :
      Step pool state (.crash query) (state.finish query)
  | deliver {query : Query} {result : Option Observation}
      (hresult : state.resultOf? query = some result) (hrunning : state.phase ≠ .idle)
      (hown : state.isOwn query) : Step pool state (.send query) (state.deliver query result)
  | lose {query : Query} {result : Option Observation}
      (hresult : state.resultOf? query = some result)
      (hlate : state.phase = .idle ∨ state.isOwn query = false) :
      Step pool state (.send query) (state.dropResult query)
  | receive {message : Message} {later : List Message}
      (hchannel : state.channel = message :: later) (hwaiting : state.phase = .waiting)
      (hopen : state.isComplete = false) :
      Step pool state .receive (state.accept message later)
  | leave {reason : Reason} (hwaiting : state.phase = .waiting) (hmay : state.mayLeave reason) :
      Step pool state (.leave reason) { state with phase := .leaving }
  | close (hleaving : state.phase = .leaving) : Step pool state .close state.finishGather

variable {pool : Pool} {state next last : Gathering}

/-- A query is one of the last gather when it bears its number. -/
theorem isOwn_iff {query : Query} : state.isOwn query ↔ query.gather = state.number :=
  beq_iff_eq

/-- Two gatherings of one number have the same queries of their own. -/
theorem isOwn_eq (hnumber : next.number = state.number) : next.isOwn = state.isOwn := by
  funext query
  rw [isOwn, isOwn, hnumber]

theorem isRunning_eq_false_iff : state.isRunning = false ↔ state.phase = .idle := by
  simp [isRunning]

/-- Every event that is possible makes a step. -/
theorem step_of_step?_eq_some {event : Event} (hstep : step? pool state event = some next) :
    Step pool state event next := by
  cases event with
  | start =>
      simp only [step?] at hstep
      split at hstep
      · cases hstep
      · obtain rfl := Option.some.inj hstep
        exact .start (isRunning_eq_false_iff.mp (by simpa using ‹¬ state.isRunning = true›))
  | pick =>
      simp only [step?] at hstep
      split at hstep
      · cases hstep
      · obtain ⟨hready, rfl⟩ := Option.ite_some_none_eq_some.mp hstep
        exact .pick ‹_› hready
  | retire =>
      obtain ⟨⟨hqueue, hready⟩, rfl⟩ := Option.ite_some_none_eq_some.mp hstep
      exact .retire hqueue hready
  | answer query result =>
      obtain ⟨hactive, rfl⟩ := Option.ite_some_none_eq_some.mp hstep
      exact .answer result hactive
  | crash query =>
      obtain ⟨hactive, rfl⟩ := Option.ite_some_none_eq_some.mp hstep
      exact .crash hactive
  | send query =>
      obtain ⟨result, hresult, rfl⟩ := Option.map_eq_some_iff.mp hstep
      rw [dispatch]
      cases hsent : state.isRunning && state.isOwn query with
      | true =>
          obtain ⟨hrunning, hown⟩ := Bool.and_eq_true_iff.mp hsent
          exact .deliver hresult (by simpa [isRunning] using hrunning) hown
      | false =>
          rw [Bool.and_eq_false_iff, isRunning_eq_false_iff] at hsent
          exact .lose hresult hsent
  | receive =>
      simp only [step?] at hstep
      split at hstep
      · cases hstep
      · obtain ⟨⟨hwaiting, hopen⟩, rfl⟩ := Option.ite_some_none_eq_some.mp hstep
        exact .receive ‹_› hwaiting (by simpa using hopen)
  | leave reason =>
      obtain ⟨⟨hwaiting, hmay⟩, rfl⟩ := Option.ite_some_none_eq_some.mp hstep
      exact .leave hwaiting hmay
  | close =>
      obtain ⟨hleaving, rfl⟩ := Option.ite_some_none_eq_some.mp hstep
      exact .close hleaving

/-- A gather starts when no other one is running. -/
theorem step?_start_eq_some_iff :
    step? pool state .start = some next ↔ state.phase = .idle ∧ next = state.begin pool := by
  constructor
  · intro hstep
    cases step_of_step?_eq_some hstep with
    | start hidle => exact ⟨hidle, rfl⟩
  · rintro ⟨hidle, rfl⟩
    rw [step?, isRunning_eq_false_iff.mpr hidle]
    rfl

theorem run?_append_eq_some_iff {earlier later : List Event} :
    run? pool state (earlier ++ later) = some last ↔
      ∃ middle, run? pool state earlier = some middle ∧ run? pool middle later = some last := by
  rw [run?, List.foldlM_append]
  exact Option.bind_eq_some_iff

theorem run?_cons_eq_some_iff {event : Event} {later : List Event} :
    run? pool state (event :: later) = some last ↔
      ∃ middle, step? pool state event = some middle ∧ run? pool middle later = some last := by
  rw [run?, List.foldlM_cons]
  exact Option.bind_eq_some_iff

/-- What holds of the empty run and is kept by one more step holds of every
run. -/
theorem run?_induction {motive : List Event → Gathering → Prop} {first : Gathering}
    (hstart : motive [] first)
    (hstep : ∀ (events : List Event) (event : Event) (state next : Gathering),
      run? pool first events = some state → motive events state →
      Step pool state event next → motive (events ++ [event]) next)
    {events : List Event} (hrun : run? pool first events = some last) : motive events last := by
  induction events using List.reverseRecOn generalizing last with
  | nil =>
      obtain rfl := Option.some.inj hrun
      exact hstart
  | append_singleton events event ih =>
      obtain ⟨middle, hearlier, hlast⟩ := run?_append_eq_some_iff.mp hrun
      obtain ⟨next, hnext, hdone⟩ := run?_cons_eq_some_iff.mp hlast
      obtain rfl := Option.some.inj hdone
      exact hstep events event middle next hearlier (ih hearlier) (step_of_step?_eq_some hnext)

/-- No event but a start changes the number of gathers. -/
theorem number_of_step {event : Event} (hstep : Step pool state event next)
    (hstart : event ≠ .start) : next.number = state.number := by
  cases hstep with
  | start hidle => exact absurd rfl hstart
  | _ => rfl

theorem number_of_run? {events : List Event} (hrun : run? pool state events = some last)
    (hstart : .start ∉ events) : last.number = state.number := by
  revert hstart
  refine run?_induction
    (motive := fun events last => .start ∉ events → last.number = state.number) ?_ ?_ hrun
  · intro _
    rfl
  · intro earlier event middle next _ ih hstep hstart
    rw [List.mem_append, List.mem_singleton, not_or] at hstart
    rw [← ih hstart.1]
    exact number_of_step hstep (Ne.symm hstart.2)

end Gathering

end NetTopology.Polling
