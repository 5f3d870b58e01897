/-
# No mark is left behind

Whatever the order of events, a device is marked as in flight exactly while it
waits in the queue or a query of it is running, so a gather skips exactly the
devices whose last query has not ended yet. A query that returns or takes its
worker down gives its device back, and so does a gather that ends before all
devices are asked: the next gather asks them again.
-/

import NetTopology.Proofs.Polling.History
import NetTopology.Samples

namespace NetTopology.Polling.Gathering

variable {pool : Pool} {events : List Event} {state next last : Gathering}

/-- Only a new gather sets marks. -/
theorem mem_inFlight_of_step {event : Event} (hstep : Step pool state event next)
    (hstart : event ≠ .start) {name : String} (hmem : name ∈ next.inFlight) :
    name ∈ state.inFlight := by
  cases hstep with
  | start hidle => exact absurd rfl hstart
  | pick hqueue hready => exact hmem
  | retire hqueue hready => exact hmem
  | answer result hactive => exact (Std.ExtTreeSet.mem_erase.mp hmem).2
  | crash hactive => exact (Std.ExtTreeSet.mem_erase.mp hmem).2
  | deliver hresult hrunning hown => exact hmem
  | lose hresult hlate => exact hmem
  | receive hchannel hwaiting hopen => exact hmem
  | leave hwaiting hmay => exact hmem
  | close hleaving => exact (mem_foldl_erase_iff.mp hmem).1

theorem mem_inFlight_of_run? (hrun : run? pool state events = some last)
    (hstart : .start ∉ events) {name : String} (hmem : name ∈ last.inFlight) :
    name ∈ state.inFlight := by
  revert hstart hmem
  refine run?_induction
    (motive := fun events last => .start ∉ events → name ∈ last.inFlight → name ∈ state.inFlight)
    ?_ ?_ hrun
  · intro _ hmem
    exact hmem
  · intro earlier event middle next _ ih hstep hstart hmem
    rw [List.mem_append, List.mem_singleton, not_or] at hstart
    exact ih hstart.1 (mem_inFlight_of_step hstep (Ne.symm hstart.2) hmem)

/-- The event that ends a query takes the mark of its device. -/
theorem notMem_inFlight_of_ended? {event : Event} {query : Query}
    (hstep : Step pool state event next) (hends : event.ended? = some query) :
    query.name ∉ next.inFlight := by
  cases hstep with
  | answer result hactive =>
      obtain rfl := Option.some.inj hends
      intro hmem
      exact (Std.ExtTreeSet.mem_erase.mp hmem).1 Std.compare_self
  | crash hactive =>
      obtain rfl := Option.some.inj hends
      intro hmem
      exact (Std.ExtTreeSet.mem_erase.mp hmem).1 Std.compare_self
  | _ => cases hends

/-- Without a new gather, the device of a query that has ended stays free. -/
theorem mem_fresh_of_ended {earlier later : List Event} {event : Event} {query : Query}
    (hrun : run? pool {} (earlier ++ event :: later) = some state)
    (hends : event.ended? = some query) (hstart : .start ∉ later) :
    query.name ∈ state.fresh pool := by
  have hrecorded := recorded_of_run? hrun
  obtain ⟨before, -, hafter⟩ := run?_append_eq_some_iff.mp hrun
  obtain ⟨after, hstep, hlater⟩ := run?_cons_eq_some_iff.mp hafter
  refine mem_fresh_iff.mpr ⟨?_, ?_⟩
  · have hended : query ∈ ended (earlier ++ event :: later) :=
      List.mem_filterMap.mpr ⟨event, List.mem_append_right _ List.mem_cons_self, hends⟩
    have hstarted : query ∈ state.started :=
      hrecorded.account.mem_iff.mpr (List.mem_append_right _ hended)
    exact hrecorded.pooled _ (List.mem_append_right _ (List.mem_map_of_mem hstarted))
  · intro hmem
    exact notMem_inFlight_of_ended? (step_of_step?_eq_some hstep) hends
      (mem_inFlight_of_run? hlater hstart hmem)

/-- The devices of unfinished queries and those in the queue make up the marks. -/
theorem perm_occupied (hrun : run? pool {} events = some state) :
    state.occupied.Perm (state.queue ++ (state.unfinished events).map Query.name) :=
  ((recorded_of_run? hrun).perm_active.map Query.name).append_left state.queue

/-- The queries account for the marks, and the marks for what is skipped. -/
structure SkipsOnlyUnfinished (catalog : Catalog) (threads : Nat) (events : List Event)
    (state : Gathering) : Prop where
  /-- No device is asked twice at the same time. -/
  once : ((state.unfinished events).map Query.name).Nodup
  /-- No device waits twice, or waits while it is asked. -/
  apart : (state.queue ++ (state.unfinished events).map Query.name).Nodup
  /-- The marked devices are those that wait and those that are asked. -/
  marked : ∀ name, name ∈ state.inFlight ↔
    name ∈ state.queue ∨ ∃ query ∈ state.unfinished events, query.name = name
  /-- Without a running gather they are those that are asked. -/
  between : state.isRunning = false → ∀ name,
    name ∈ state.inFlight ↔ ∃ query ∈ state.unfinished events, query.name = name
  /-- The next gather skips the devices that are still asked, and no others. In
  particular it takes up every device whose query has ended since the last
  gather began. -/
  next : state.isRunning = false →
    ∃ begun, step? (Pool.ofCatalog catalog threads) state .start = some begun ∧
      (∀ name, name ∈ begun.queue ↔
        (∃ entry ∈ catalog.entries, entry.isPollable ∧ entry.name = name) ∧
          ¬ ∃ query ∈ state.unfinished events, query.name = name) ∧
      ∀ (earlier later : List Event) (event : Event) (query : Query),
        events = earlier ++ event :: later → event.ended? = some query → .start ∉ later →
          query.name ∈ begun.queue

/-- In every run of gathers, whatever the order of events, a device is marked
exactly while it waits or a query of it is running, and skipped exactly when a
gather begins while a query of it is running. -/
theorem skipsOnlyUnfinished_of_run (catalog : Catalog) (threads : Nat) (events : List Event)
    (state : Gathering) (hrun : run? (Pool.ofCatalog catalog threads) {} events = some state) :
    SkipsOnlyUnfinished catalog threads events state := by
  have hmarks := marksExact_of_run? hrun
  have hperm := perm_occupied hrun
  have hdistinct := hperm.nodup_iff.mp hmarks.distinct
  have hmarked : ∀ name, name ∈ state.inFlight ↔
      name ∈ state.queue ∨ ∃ query ∈ state.unfinished events, query.name = name := by
    intro name
    rw [hmarks.marked, hperm.mem_iff, List.mem_append, List.mem_map]
  have hbetween : state.isRunning = false → ∀ name,
      name ∈ state.inFlight ↔ ∃ query ∈ state.unfinished events, query.name = name := by
    intro hidle name
    rw [hmarked, hmarks.drained (isRunning_eq_false_iff.mp hidle)]
    simp
  refine ⟨(List.nodup_append'.mp hdistinct).2.1, hdistinct, hmarked, hbetween, ?_⟩
  intro hidle
  refine ⟨state.begin (Pool.ofCatalog catalog threads), ?_, ?_, ?_⟩
  · exact step?_start_eq_some_iff.mpr ⟨isRunning_eq_false_iff.mp hidle, rfl⟩
  · intro name
    show name ∈ state.fresh (Pool.ofCatalog catalog threads) ↔ _
    rw [mem_fresh_iff, Pool.mem_devices_ofCatalog_iff, hbetween hidle]
  · intro earlier later event query hevents hends hstart
    exact mem_fresh_of_ended (hevents ▸ hrun) hends hstart

/-- Two workers ask four devices. The one that asks `h3` dies and the one that
asks `r1` is late, so `r2` and `r3` are left over. The second gather skips `r1`,
whose answer comes while that gather waits for `r2` in vain. -/
def interrupted : List Event :=
  [.start, .pick, .pick, .crash ⟨1, "h3"⟩, .leave .timeOver, .close,
    .start, .pick, .pick, .crash ⟨2, "h3"⟩, .answer ⟨1, "r1"⟩ none, .leave .timeOver,
    .send ⟨1, "r1"⟩, .close]

/-- After the interrupted gathers only `r2` is marked. -/
theorem skipsOnlyUnfinished_interrupted :
    ∃ state, run? (Pool.ofCatalog Sample.routedTriangle.catalog 2) {} interrupted = some state ∧
      state.inFlight.toList = ["r2"] ∧
      SkipsOnlyUnfinished Sample.routedTriangle.catalog 2 interrupted state := by
  have hmarked : (run? (Pool.ofCatalog Sample.routedTriangle.catalog 2) {} interrupted).map
      (fun state => state.inFlight.toList) = some ["r2"] := by decide
  obtain ⟨state, hrun, hlist⟩ := Option.map_eq_some_iff.mp hmarked
  exact ⟨state, hrun, hlist, skipsOnlyUnfinished_of_run _ 2 interrupted state hrun⟩

end NetTopology.Polling.Gathering
