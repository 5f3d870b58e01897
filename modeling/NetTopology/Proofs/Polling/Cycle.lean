/-
# One cycle

A cycle reaches from the start of a gather to a moment when the gather is over
and no other one has begun. What the gather has received when it stops waiting
is what it has observed, and that is what its own queries have sent by then;
nothing is added later. When too few devices hold up its workers to stop them
all, it has observed every other device that returned anything.
-/

import NetTopology.Proofs.LastWrite
import NetTopology.Proofs.Polling.Sent

namespace NetTopology.Polling

/-- A part of a run from the start of a gather to after its end. -/
structure Cycle (pool : Pool) where
  /-- What happened before the cycle. -/
  earlier : List Event
  before : Gathering
  /-- The state when the gather has begun. -/
  begun : Gathering
  /-- What happens during the cycle. -/
  body : List Event
  after : Gathering
  reached : Gathering.run? pool {} earlier = some before
  starts : before.step? pool .start = some begun
  runs : begun.run? pool body = some after
  single : .start ∉ body
  finished : after.isRunning = false

/-- What the query of a device has returned is sent before the gather stops
waiting. -/
def Cycle.SendsInTime {pool : Pool} (cycle : Cycle pool) (name : String) : Prop :=
  ∃ early reason later, cycle.body = early ++ .leave reason :: later ∧
    Query.IsSent ⟨cycle.begun.number, name⟩ early

/-- Apart from some devices, the cycle is in time: only they take workers down,
and when the time is over, the queries of all others have come as far as
`progress` asks. -/
structure Cycle.InTimeBut {pool : Pool} (cycle : Cycle pool) (held : List String)
    (progress : Query → List Event → Prop) : Prop where
  /-- Only queries of these devices take their worker down. -/
  crashes : ∀ name, .crash ⟨cycle.begun.number, name⟩ ∈ cycle.body → name ∈ held
  /-- The other queries have come far enough. -/
  inTime : ∀ early later, cycle.body = early ++ .leave .timeOver :: later →
    ∀ name ∈ cycle.begun.queue, name ∉ held → progress ⟨cycle.begun.number, name⟩ early

/-- Apart from some devices, the cycle goes well: only they take workers down,
and when the time is over, every worker is done or held up by one of them. -/
structure Cycle.HeldUpBy {pool : Pool} (cycle : Cycle pool) (held : List String) : Prop where
  /-- Only queries of these devices take their worker down. -/
  crashes : ∀ name, .crash ⟨cycle.begun.number, name⟩ ∈ cycle.body → name ∈ held
  /-- When the time is over, the other queries that were started are sent. -/
  inTime : ∀ early later state, cycle.body = early ++ .leave .timeOver :: later →
    cycle.begun.run? pool early = some state → ∀ name,
      (⟨cycle.begun.number, name⟩ ∈ state.active ∨
        ∃ result, (⟨cycle.begun.number, name⟩, result) ∈ state.returned) → name ∈ held
  /-- When the time is over, no worker is about to ask another device. -/
  asked : ∀ early later state, cycle.body = early ++ .leave .timeOver :: later →
    cycle.begun.run? pool early = some state →
      state.ready = 0 ∨ ∀ name ∈ state.queue, name ∈ held

namespace Gathering

variable {pool : Pool} {events : List Event} {state next last : Gathering}

/-! ## The end of the wait -/

theorem received_of_step {event : Event} (hstep : Step pool state event next)
    (hstart : event ≠ .start) (hwaiting : state.phase ≠ .waiting) :
    next.received = state.received := by
  cases hstep with
  | start hidle => exact absurd rfl hstart
  | receive hchannel hphase hopen => exact absurd hphase hwaiting
  | _ => rfl

/-- A gather that waits no longer receives nothing. -/
theorem received_of_run? (hrun : run? pool state events = some last) (hstart : .start ∉ events)
    (hwaiting : state.phase ≠ .waiting) : last.received = state.received := by
  induction events generalizing state with
  | nil =>
      obtain rfl := Option.some.inj hrun
      rfl
  | cons event later ih =>
      obtain ⟨middle, hstep, hlater⟩ := run?_cons_eq_some_iff.mp hrun
      rw [List.mem_cons, not_or] at hstart
      have hmove := step_of_step?_eq_some hstep
      have hmiddle : middle.phase ≠ .waiting := fun hphase =>
        hwaiting (waiting_of_step hmove (Ne.symm hstart.1) hphase)
      exact (ih hlater hstart.2 hmiddle).trans (received_of_step hmove (Ne.symm hstart.1) hwaiting)

/-- Only leaving ends the wait. -/
theorem eq_leave_of_step {event : Event} (hstep : Step pool state event next)
    (hbefore : state.phase = .waiting) (hafter : next.phase ≠ .waiting) :
    ∃ reason, event = .leave reason := by
  cases hstep with
  | start hidle =>
      rw [hbefore] at hidle
      cases hidle
  | leave hwaiting hmay => exact ⟨_, rfl⟩
  | close hleaving =>
      rw [hbefore] at hleaving
      cases hleaving
  | _ => exact absurd hbefore hafter

/-- A gather that is over has stopped waiting for some reason. -/
theorem exists_leave_of_run? (hrun : run? pool state events = some last)
    (hbefore : state.phase = .waiting) (hafter : last.phase ≠ .waiting) :
    ∃ early reason later, events = early ++ .leave reason :: later := by
  induction events generalizing state with
  | nil =>
      obtain rfl := Option.some.inj hrun
      exact absurd hbefore hafter
  | cons event events ih =>
      obtain ⟨middle, hstep, hlater⟩ := run?_cons_eq_some_iff.mp hrun
      by_cases hmiddle : middle.phase = .waiting
      · obtain ⟨early, reason, later, rfl⟩ := ih hlater hmiddle
        exact ⟨event :: early, reason, later, rfl⟩
      · obtain ⟨reason, rfl⟩ := eq_leave_of_step (step_of_step?_eq_some hstep) hbefore hmiddle
        exact ⟨[], reason, events, rfl⟩

/-! ## What has been observed -/

/-- The observations are the messages received that carry one. -/
theorem observations_eq (state : Gathering) (name : String) :
    state.observations[name]? = lastWriteTo name (state.received.filterMap fun message =>
      message.2.map fun observation => (message.1, observation)) :=
  getElem?_lastWrites _ _

theorem mem_received_of_observations {name : String} {observation : Observation}
    (hobserved : state.observations[name]? = some observation) :
    (name, some observation) ∈ state.received := by
  rw [observations_eq] at hobserved
  obtain ⟨⟨sender, result⟩, hmessage, hresult⟩ :=
    List.mem_filterMap.mp (mem_of_lastWriteTo_eq_some hobserved)
  obtain ⟨found, rfl, hpair⟩ := Option.map_eq_some_iff.mp hresult
  obtain ⟨rfl, rfl⟩ := Prod.mk.inj hpair
  exact hmessage

/-- When no device has sent two messages, each one tells what is observed. -/
theorem observations_of_mem_received {name : String} {result : Option Observation}
    (hdistinct : (state.received.map Prod.fst).Nodup) (hmessage : (name, result) ∈ state.received) :
    state.observations[name]? = result := by
  have hunique : ∀ other, (name, other) ∈ state.received → other = result := by
    intro other hother
    exact (Prod.mk.inj (List.inj_on_of_nodup_map hdistinct hother hmessage rfl)).2
  cases hobserved : state.observations[name]? with
  | some observation => exact hunique _ (mem_received_of_observations hobserved)
  | none =>
      cases result with
      | none => rfl
      | some observation =>
          -- a message with an observation is a write to its name
          have hwrite : (name, observation) ∈ state.received.filterMap fun message =>
              message.2.map fun observation => (message.1, observation) :=
            List.mem_filterMap.mpr ⟨_, hmessage, rfl⟩
          obtain ⟨last, hlast⟩ := exists_lastWriteTo_eq_some hwrite
          rw [← observations_eq, hobserved] at hlast
          cases hlast

end Gathering

namespace Cycle

open Gathering

variable {pool : Pool} (cycle : Cycle pool)

/-! ## The parts of a cycle -/

theorem idle_before : cycle.before.phase = .idle :=
  (step?_start_eq_some_iff.mp cycle.starts).1

theorem begun_eq : cycle.begun = cycle.before.begin pool :=
  (step?_start_eq_some_iff.mp cycle.starts).2

theorem run_eq : run? pool {} (cycle.earlier ++ .start :: cycle.body) = some cycle.after :=
  run?_append_eq_some_iff.mpr
    ⟨cycle.before, cycle.reached, run?_cons_eq_some_iff.mpr ⟨cycle.begun, cycle.starts, cycle.runs⟩⟩

theorem number_begun : cycle.begun.number = cycle.before.number + 1 := by
  rw [begun_eq]
  rfl

theorem number_after : cycle.after.number = cycle.begun.number :=
  number_of_run? cycle.runs cycle.single

theorem queue_begun : cycle.begun.queue = cycle.before.fresh pool := by
  rw [begun_eq]
  rfl

theorem nodup_queue : cycle.begun.queue.Nodup := by
  rw [queue_begun]
  exact pool.distinct.filter _

/-- The queries of a cycle are new ones. -/
theorem notMem_started_before (name : String) :
    (⟨cycle.begun.number, name⟩ : Query) ∉ cycle.before.started := by
  intro hstarted
  have hpast := (recorded_of_run? cycle.reached).past _ hstarted
  rw [number_begun] at hpast
  exact Nat.not_succ_le_self _ hpast

theorem start_notMem_of_eq_append {early later : List Event}
    (hbody : cycle.body = early ++ later) : .start ∉ early := by
  intro hmem
  apply cycle.single
  rw [hbody]
  exact List.mem_append_left _ hmem

/-- A gather leaves a state in which it waits and may do so, and it has received
by then all that it ever receives. -/
theorem exists_left_of_eq_append {early later : List Event} {reason : Reason}
    (hbody : cycle.body = early ++ .leave reason :: later) :
    ∃ left, cycle.begun.run? pool early = some left ∧ left.phase = .waiting ∧
      left.mayLeave reason ∧ cycle.after.received = left.received := by
  obtain ⟨left, hleft, hrest⟩ := run?_append_eq_some_iff.mp (hbody ▸ cycle.runs)
  obtain ⟨next, hleave, hlater⟩ := run?_cons_eq_some_iff.mp hrest
  have hstart : .start ∉ later := by
    intro hmem
    apply cycle.single
    rw [hbody]
    exact List.mem_append_right _ (List.mem_cons_of_mem _ hmem)
  cases step_of_step?_eq_some hleave with
  | leave hwaiting hmay =>
      have hreceived := received_of_run? hlater hstart nofun
      exact ⟨left, hleft, hwaiting, hmay, hreceived⟩

/-- When a gather stops waiting, its devices and workers are accounted for. -/
theorem accounted_of_leave {early later : List Event} {reason : Reason} {left : Gathering}
    (hbody : cycle.body = early ++ .leave reason :: later)
    (hleft : cycle.begun.run? pool early = some left) : Accounted cycle.begun early left := by
  obtain ⟨state, hstate, hwaiting, -⟩ := cycle.exists_left_of_eq_append hbody
  obtain rfl := Option.some.inj (hstate.symm.trans hleft)
  have hbegun : Accounted cycle.begun [] cycle.begun := by
    rw [begun_eq]
    exact accounted_begin cycle.reached cycle.idle_before
  exact accounted_of_run? hbegun hleft (cycle.start_notMem_of_eq_append hbody) hwaiting

/-- When a gather stops waiting, it has heard from the devices whose results its
own queries have sent, in the order of sending. -/
theorem map_received_eq_reported {early later : List Event} {reason : Reason} {left : Gathering}
    (hbody : cycle.body = early ++ .leave reason :: later)
    (hleft : cycle.begun.run? pool early = some left) :
    left.received.map Prod.fst = left.reported early := by
  obtain ⟨state, hstate, hwaiting, hmay, -⟩ := cycle.exists_left_of_eq_append hbody
  obtain rfl := Option.some.inj (hstate.symm.trans hleft)
  have hempty : cycle.begun.received ++ cycle.begun.channel = [] := by
    rw [begun_eq]
    exact (sourced_of_run? cycle.reached).closed cycle.idle_before
  have hmessages :=
    map_messages_of_run? hempty hleft (cycle.start_notMem_of_eq_append hbody) hwaiting
  rwa [(cycle.accounted_of_leave hbody hleft).channel_of_mayLeave hmay, List.append_nil]
    at hmessages

theorem mem_received_iff_isSent {early later : List Event} {reason : Reason} {left : Gathering}
    (hbody : cycle.body = early ++ .leave reason :: later)
    (hleft : cycle.begun.run? pool early = some left) {name : String} :
    name ∈ left.received.map Prod.fst ↔ Query.IsSent ⟨cycle.begun.number, name⟩ early := by
  rw [cycle.map_received_eq_reported hbody hleft, mem_reported_iff,
    number_of_run? hleft (cycle.start_notMem_of_eq_append hbody)]

/-- A gather that asks nobody hears nothing. Any other one stops waiting at
some moment, and has received by then all that it ever receives. -/
theorem wait_cases :
    (cycle.begun.queue = [] ∧ cycle.after.received = []) ∨
      ∃ early reason later left, cycle.body = early ++ .leave reason :: later ∧
        cycle.begun.run? pool early = some left ∧ left.mayLeave reason ∧
        cycle.after.received = left.received := by
  have hover : cycle.after.phase ≠ .waiting := by
    rw [isRunning_eq_false_iff.mp cycle.finished]
    decide
  by_cases hwaiting : cycle.begun.phase = .waiting
  · right
    obtain ⟨early, reason, later, hbody⟩ := exists_leave_of_run? cycle.runs hwaiting hover
    obtain ⟨left, hleft, -, hmay, hreceived⟩ := cycle.exists_left_of_eq_append hbody
    exact ⟨early, reason, later, left, hbody, hleft, hmay, hreceived⟩
  · left
    have hreceived := received_of_run? cycle.runs cycle.single hwaiting
    rw [begun_eq] at hwaiting hreceived ⊢
    refine ⟨?_, hreceived⟩
    show cycle.before.fresh pool = []
    by_contra hfresh
    apply hwaiting
    simp [Gathering.begin, hfresh]

/-! ## Cycles that go well -/

/-- Events that are possible one after the other and end a gather make up a first
cycle. -/
theorem exists_first {body : List Event} (hsingle : .start ∉ body)
    (hend : (run? pool (begin {} pool) body).map isRunning = some false) :
    ∃ cycle : Cycle pool, cycle.begun = begin {} pool ∧ cycle.body = body ∧
      run? pool (begin {} pool) body = some cycle.after := by
  obtain ⟨after, hafter, hover⟩ := Option.map_eq_some_iff.mp hend
  refine ⟨{ earlier := [], before := {}, begun := begin {} pool, body, after, reached := rfl
            starts := step?_start_eq_some_iff.mpr ⟨rfl, rfl⟩
            runs := hafter, single := hsingle, finished := hover }, rfl, rfl, hafter⟩

/-- In a cycle whose time is over only once, it is enough to look at what happens
before. -/
theorem inTimeBut_of_body_eq {held : List String} {progress : Query → List Event → Prop}
    {early later : List Event} (hbody : cycle.body = early ++ .leave .timeOver :: later)
    (hearly : .leave .timeOver ∉ early) (hlater : .leave .timeOver ∉ later)
    (hcrashes : ∀ name, .crash ⟨cycle.begun.number, name⟩ ∈ cycle.body → name ∈ held)
    (hothers : ∀ name ∈ cycle.begun.queue, name ∉ held →
      progress ⟨cycle.begun.number, name⟩ early) : cycle.InTimeBut held progress := by
  refine ⟨hcrashes, ?_⟩
  intro before after hsplit
  rw [hbody] at hsplit
  obtain ⟨rfl, -⟩ := (List.append_cons_inj_of_notMem hearly hlater).mp hsplit
  exact hothers

/-- A query of the cycle that has not sent its result engages a worker. -/
theorem mem_engaged {early : List Event} {left : Gathering} {name : String}
    (hnumber : left.number = cycle.begun.number)
    (hunsent : (⟨cycle.begun.number, name⟩ : Query) ∈ left.unsent early) :
    name ∈ left.engaged early := by
  have hown : left.isOwn ⟨cycle.begun.number, name⟩ := isOwn_iff.mpr hnumber.symm
  exact List.mem_map.mpr ⟨_, List.mem_filter.mpr ⟨hunsent, hown⟩, rfl⟩

/-- When the results of all other devices are sent before the time is over, only
the given devices hold up workers. -/
theorem heldUpBy_of_isSent {held : List String} (hinTime : cycle.InTimeBut held Query.IsSent) :
    cycle.HeldUpBy held := by
  have hplaces : ∀ early later state, cycle.body = early ++ .leave .timeOver :: later →
      cycle.begun.run? pool early = some state →
      ∀ name ∈ state.queue ++ state.engaged early, name ∈ held := by
    intro early later state hbody hstate name hname
    have haccounted := cycle.accounted_of_leave hbody hstate
    by_contra hother
    -- what was sent is received, so its device is nowhere else
    refine haccounted.notMem_of_received cycle.nodup_queue ?_ hname
    rw [cycle.mem_received_iff_isSent hbody hstate]
    apply hinTime.inTime early later hbody name _ hother
    rw [haccounted.devices.mem_iff]
    exact List.mem_append_left _ hname
  refine ⟨hinTime.crashes, ?_, ?_⟩
  · intro early later state hbody hstate name hbusy
    apply hplaces early later state hbody hstate
    apply List.mem_append_right
    apply cycle.mem_engaged (number_of_run? hstate (cycle.start_notMem_of_eq_append hbody))
    apply List.mem_append_left
    rcases hbusy with hactive | ⟨result, hresult⟩
    · exact List.mem_append_left _ hactive
    · exact List.mem_append_right _ (List.mem_map_of_mem hresult)
  · intro early later state hbody hstate
    right
    intro name hname
    exact hplaces early later state hbody hstate name (List.mem_append_left _ hname)

end Cycle

end NetTopology.Polling
