/-
# Marks are exact

At every moment the marked devices are those that wait in the queue and those
that a query is asking, and none of them is both or is asked twice. A mark is
set when a device is put into the queue, passes from the queue to a query, and
goes with the query or, if nobody has asked the device, with the queue.
-/

import NetTopology.Proofs.Polling.Run
import Mathlib.Data.List.Nodup

namespace NetTopology.Polling

namespace Gathering

/-- The devices that have a mark to account for: those in the queue and those
that are being asked. -/
def occupied (state : Gathering) : List String :=
  state.queue ++ state.active.map Query.name

/-- What the marks mean. -/
structure MarksExact (state : Gathering) : Prop where
  /-- No device waits twice, is asked twice, or waits while it is asked. -/
  distinct : state.occupied.Nodup
  /-- The marked devices are those that wait or are asked. -/
  marked : ∀ name, name ∈ state.inFlight ↔ name ∈ state.occupied
  /-- Without a running gather no device waits. -/
  drained : state.phase = .idle → state.queue = []

variable {pool : Pool} {state next : Gathering}

/-! ## One step -/

theorem mem_fresh_iff {name : String} :
    name ∈ state.fresh pool ↔ name ∈ pool.devices ∧ name ∉ state.inFlight := by
  rw [fresh, List.mem_filter, ← Std.ExtTreeSet.contains_iff_mem, Bool.not_eq_true,
    Bool.not_eq_true']

theorem mem_foldl_erase_iff {marked : Std.ExtTreeSet String} {names : List String}
    {name : String} :
    name ∈ names.foldl (fun marked name => marked.erase name) marked ↔
      name ∈ marked ∧ name ∉ names := by
  induction names generalizing marked with
  | nil => simp
  | cons first later ih =>
      rw [List.foldl_cons, ih, Std.ExtTreeSet.mem_erase, List.mem_cons]
      simp only [ne_eq, Std.compare_eq_iff_eq]
      tauto

/-- A gather that starts puts the unmarked devices into the queue. -/
theorem MarksExact.begin (hmarks : state.MarksExact) (hidle : state.phase = .idle) :
    (state.begin pool).MarksExact := by
  have hqueue : state.queue = [] := hmarks.drained hidle
  have hactive : ∀ name, name ∈ state.inFlight ↔ name ∈ state.active.map Query.name := by
    intro name
    rw [hmarks.marked, occupied, hqueue, List.nil_append]
  refine ⟨?_, ?_, ?_⟩
  · show (state.fresh pool ++ state.active.map Query.name).Nodup
    refine (pool.distinct.filter _).append ?_ ?_
    · have hdistinct := hmarks.distinct
      rwa [occupied, hqueue, List.nil_append] at hdistinct
    · intro name hname hasked
      exact (mem_fresh_iff.mp hname).2 ((hactive name).mpr hasked)
  · intro name
    show name ∈ state.inFlight.insertMany (state.fresh pool) ↔
      name ∈ state.fresh pool ++ state.active.map Query.name
    rw [Std.ExtTreeSet.mem_insertMany_list, hactive, List.mem_append, List.contains_iff_mem,
      or_comm]
  · intro hphase
    show state.fresh pool = []
    by_cases hempty : state.fresh pool = []
    · exact hempty
    · simp [Gathering.begin, hempty] at hphase

/-- A device that is asked keeps its mark. -/
theorem MarksExact.ask {name : String} {waiting : List String} (hmarks : state.MarksExact)
    (hqueue : state.queue = name :: waiting) : (state.ask name waiting).MarksExact := by
  have hmoved : (state.ask name waiting).occupied.Perm state.occupied := by
    rw [occupied, occupied, hqueue]
    show (waiting ++ (state.active ++ [(⟨state.number, name⟩ : Query)]).map Query.name).Perm _
    rw [List.map_append, ← List.append_assoc]
    exact List.perm_append_singleton name _
  refine ⟨hmoved.nodup_iff.mpr hmarks.distinct, ?_, ?_⟩
  · intro other
    rw [hmoved.mem_iff]
    exact hmarks.marked other
  · intro hidle
    have hempty := hmarks.drained hidle
    rw [hqueue] at hempty
    cases hempty

/-- A query that ends takes the mark of its device along. -/
theorem MarksExact.finish {query : Query} (hmarks : state.MarksExact)
    (hactive : query ∈ state.active) : (state.finish query).MarksExact := by
  have hsplit : state.occupied.Perm (query.name :: (state.finish query).occupied) := by
    have hnames := (List.perm_cons_erase hactive).map Query.name
    exact (hnames.append_left state.queue).trans List.perm_middle
  obtain ⟨hfree, hdistinct⟩ := List.nodup_cons.mp (hsplit.nodup_iff.mp hmarks.distinct)
  refine ⟨hdistinct, ?_, hmarks.drained⟩
  intro name
  show name ∈ state.inFlight.erase query.name ↔ _
  rw [Std.ExtTreeSet.mem_erase, hmarks.marked, hsplit.mem_iff, List.mem_cons]
  constructor
  · rintro ⟨hother, rfl | hmem⟩
    · simp at hother
    · exact hmem
  · intro hmem
    refine ⟨?_, Or.inr hmem⟩
    intro hsame
    obtain rfl := Std.compare_eq_iff_eq.mp hsame
    exact hfree hmem

/-- The devices that nobody has asked lose their marks when the gather ends. -/
theorem MarksExact.finishGather (hmarks : state.MarksExact) : state.finishGather.MarksExact := by
  have hdistinct := List.nodup_append'.mp hmarks.distinct
  refine ⟨hdistinct.2.1, ?_, fun _ => rfl⟩
  intro name
  show name ∈ state.queue.foldl (fun marked name => marked.erase name) state.inFlight ↔
    name ∈ state.active.map Query.name
  rw [mem_foldl_erase_iff, hmarks.marked, occupied, List.mem_append]
  have hapart : name ∈ state.queue → name ∉ state.active.map Query.name :=
    fun hqueue hasked => hdistinct.2.2 hqueue hasked
  tauto

/-- Every step keeps the marks exact. -/
theorem MarksExact.step {event : Event} (hmarks : state.MarksExact)
    (hstep : Step pool state event next) : next.MarksExact := by
  cases hstep with
  | start hidle => exact hmarks.begin hidle
  | pick hqueue hready => exact hmarks.ask hqueue
  | retire hqueue hready => exact ⟨hmarks.distinct, hmarks.marked, hmarks.drained⟩
  | answer result hactive =>
      have hfinished := hmarks.finish hactive
      exact ⟨hfinished.distinct, hfinished.marked, hfinished.drained⟩
  | crash hactive => exact hmarks.finish hactive
  | deliver hresult hrunning hown => exact ⟨hmarks.distinct, hmarks.marked, hmarks.drained⟩
  | lose hresult hlate => exact ⟨hmarks.distinct, hmarks.marked, hmarks.drained⟩
  | receive hchannel hwaiting hopen => exact ⟨hmarks.distinct, hmarks.marked, hmarks.drained⟩
  | leave hwaiting hmay => exact ⟨hmarks.distinct, hmarks.marked, by intro hidle; cases hidle⟩
  | close hleaving => exact hmarks.finishGather

/-- The marks are exact in every run. -/
theorem marksExact_of_run? {events : List Event} (hrun : run? pool {} events = some state) :
    state.MarksExact := by
  refine run?_induction (motive := fun _ state => state.MarksExact) ?_ ?_ hrun
  · exact ⟨List.nodup_nil, fun name => by simp [occupied], fun _ => rfl⟩
  · intro events event state next _ hmarks hstep
    exact hmarks.step hstep

end Gathering

end NetTopology.Polling
