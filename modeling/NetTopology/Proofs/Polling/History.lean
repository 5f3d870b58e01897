/-
# What a run has done to its queries

A query is started once and ends at most once. The queries in progress are
those that the run has started and not ended, so what a state says about them
can be read from the events alone.
-/

import NetTopology.Proofs.Polling.Marks

namespace NetTopology.Polling

/-- The query that an event ends: it returns, or it takes its worker down. -/
def Event.ended? : Event → Option Query
  | .answer query _ => some query
  | .crash query => some query
  | _ => none

namespace Gathering

/-- The queries that have ended, in the order of the events. -/
def ended (events : List Event) : List Query :=
  events.filterMap Event.ended?

/-- The queries that were started and that none of the events has ended. -/
def unfinished (state : Gathering) (events : List Event) : List Query :=
  state.started.filter fun query => query ∉ ended events

/-- What the events of a run say about the queries of its last state. -/
structure Recorded (pool : Pool) (events : List Event) (state : Gathering) : Prop where
  /-- No query is started twice. -/
  distinct : state.started.Nodup
  /-- A query that was started is in progress or has ended once. -/
  account : state.started.Perm (state.active ++ ended events)
  /-- A query is started by a gather that has begun. -/
  past : ∀ query ∈ state.started, query.gather ≤ state.number
  /-- What waits in the queue is not asked yet. -/
  unasked : ∀ name ∈ state.queue, ⟨state.number, name⟩ ∉ state.started
  /-- Only devices of the pool wait or are asked. -/
  pooled : ∀ name ∈ state.queue ++ state.started.map Query.name, name ∈ pool.devices

variable {pool : Pool} {events : List Event} {state next : Gathering}

theorem ended_append (earlier later : List Event) :
    ended (earlier ++ later) = ended earlier ++ ended later :=
  List.filterMap_append

theorem mem_unfinished_iff {query : Query} :
    query ∈ state.unfinished events ↔ query ∈ state.started ∧ query ∉ ended events := by
  simp [unfinished]

/-! ## One step -/

/-- A step that starts no query and no gather keeps the record, if it accounts
for the queries in progress. -/
theorem Recorded.keep {later : List Event} (hrecorded : Recorded pool events state)
    (hnumber : next.number = state.number) (hqueue : next.queue ⊆ state.queue)
    (hstarted : next.started = state.started)
    (haccount : (state.active ++ ended events).Perm (next.active ++ ended (events ++ later))) :
    Recorded pool (events ++ later) next := by
  refine ⟨?_, ?_, ?_, ?_, ?_⟩
  · rw [hstarted]
    exact hrecorded.distinct
  · rw [hstarted]
    exact hrecorded.account.trans haccount
  · rw [hstarted, hnumber]
    exact hrecorded.past
  · intro name hname
    rw [hstarted, hnumber]
    exact hrecorded.unasked name (hqueue hname)
  · intro name hname
    rw [hstarted] at hname
    exact hrecorded.pooled name ((List.append_subset.mpr
      ⟨List.subset_append_of_subset_left _ hqueue, List.subset_append_right _ _⟩) hname)

/-- A query that ends passes from those in progress to those that have ended. -/
theorem perm_ended_concat {event : Event} {query : Query} (hactive : query ∈ state.active)
    (hends : event.ended? = some query) :
    (state.active ++ ended events).Perm
      ((state.finish query).active ++ ended (events ++ [event])) := by
  have hlast : ended [event] = [query] := by rw [ended, List.filterMap_cons_some hends]; rfl
  rw [ended_append, hlast, ← List.append_assoc]
  show (state.active ++ ended events).Perm (state.active.erase query ++ ended events ++ [query])
  exact ((List.perm_cons_erase hactive).append_right _).trans
    (List.perm_append_singleton query _).symm

/-- A new gather has a new number, so its queries will be new ones. -/
theorem Recorded.begin (hrecorded : Recorded pool events state) :
    Recorded pool (events ++ [.start]) (state.begin pool) := by
  refine ⟨hrecorded.distinct, ?_, ?_, ?_, ?_⟩
  · rw [ended_append]
    show state.started.Perm (state.active ++ (ended events ++ []))
    rw [List.append_nil]
    exact hrecorded.account
  · intro query hquery
    exact Nat.le_succ_of_le (hrecorded.past query hquery)
  · intro name _ hasked
    exact Nat.not_succ_le_self _ (hrecorded.past _ hasked)
  · intro name hname
    rcases List.mem_append.mp hname with hfresh | hasked
    · exact (mem_fresh_iff.mp hfresh).1
    · exact hrecorded.pooled name (List.mem_append_right _ hasked)

/-- The query that a worker starts is a new one and has not ended. -/
theorem Recorded.ask {name : String} {waiting : List String} (hmarks : state.MarksExact)
    (hrecorded : Recorded pool events state) (hqueue : state.queue = name :: waiting) :
    Recorded pool (events ++ [.pick]) (state.ask name waiting) := by
  have hname : name ∈ state.queue := hqueue ▸ List.mem_cons_self
  have hwaiting : waiting ⊆ state.queue := hqueue ▸ List.subset_cons_self name waiting
  have hnew : (⟨state.number, name⟩ : Query) ∉ state.started := hrecorded.unasked name hname
  have hdistinct : (name :: waiting).Nodup := by
    rw [← hqueue]
    exact (List.nodup_append'.mp hmarks.distinct).1
  have hmem : ∀ query, query ∈ (state.ask name waiting).started ↔
      query ∈ state.started ∨ query = ⟨state.number, name⟩ := by
    intro query
    show query ∈ state.started ++ [(⟨state.number, name⟩ : Query)] ↔ _
    rw [List.mem_append, List.mem_singleton]
  refine ⟨?_, ?_, ?_, ?_, ?_⟩
  · exact List.nodup_append'.mpr ⟨hrecorded.distinct, List.nodup_singleton _,
      List.disjoint_singleton.mpr hnew⟩
  · rw [ended_append]
    show (state.started ++ [(⟨state.number, name⟩ : Query)]).Perm
      (state.active ++ [(⟨state.number, name⟩ : Query)] ++ (ended events ++ []))
    rw [List.append_nil, List.append_assoc]
    exact (hrecorded.account.append_right _).trans
      ((List.append_assoc _ _ _).symm ▸ (List.perm_append_comm.append_left _))
  · intro query hquery
    rcases (hmem query).mp hquery with hold | rfl
    · exact hrecorded.past query hold
    · exact Nat.le_refl _
  · intro other hother hasked
    rcases (hmem _).mp hasked with hold | hsame
    · exact hrecorded.unasked other (hwaiting hother) hold
    · -- the queue names no device twice
      obtain rfl : other = name := congrArg Query.name hsame
      exact (List.nodup_cons.mp hdistinct).1 hother
  · intro other hother
    apply hrecorded.pooled
    rcases List.mem_append.mp hother with hlater | hasked
    · exact List.mem_append_left _ (hwaiting hlater)
    · obtain ⟨query, hquery, rfl⟩ := List.mem_map.mp hasked
      rcases (hmem query).mp hquery with hold | rfl
      · exact List.mem_append_right _ (List.mem_map_of_mem hold)
      · exact List.mem_append_left _ hname

/-- Every step keeps the record. -/
theorem Recorded.step {event : Event} (hmarks : state.MarksExact)
    (hrecorded : Recorded pool events state) (hstep : Step pool state event next) :
    Recorded pool (events ++ [event]) next := by
  have hquiet : event.ended? = none → ended (events ++ [event]) = ended events := by
    intro hnone
    rw [ended_append]
    simp [ended, hnone]
  cases hstep with
  | start hidle => exact hrecorded.begin
  | pick hqueue hready => exact hrecorded.ask hmarks hqueue
  | retire hqueue hready =>
      exact hrecorded.keep rfl (List.Subset.refl _) rfl (by rw [hquiet rfl]; rfl)
  | answer result hactive =>
      exact hrecorded.keep rfl (List.Subset.refl _) rfl (perm_ended_concat hactive rfl)
  | crash hactive =>
      exact hrecorded.keep rfl (List.Subset.refl _) rfl (perm_ended_concat hactive rfl)
  | deliver hresult hrunning hown =>
      exact hrecorded.keep rfl (List.Subset.refl _) rfl (by rw [hquiet rfl]; rfl)
  | lose hresult hlate =>
      exact hrecorded.keep rfl (List.Subset.refl _) rfl (by rw [hquiet rfl]; rfl)
  | receive hchannel hwaiting hopen =>
      exact hrecorded.keep rfl (List.Subset.refl _) rfl (by rw [hquiet rfl]; rfl)
  | leave hwaiting hmay =>
      exact hrecorded.keep rfl (List.Subset.refl _) rfl (by rw [hquiet rfl])
  | close hleaving =>
      exact hrecorded.keep rfl (List.nil_subset _) rfl (by rw [hquiet rfl]; rfl)

/-- The record is right in every run. -/
theorem recorded_of_run? (hrun : run? pool {} events = some state) :
    Recorded pool events state := by
  refine run?_induction (motive := Recorded pool) ?_ ?_ hrun
  · refine ⟨List.nodup_nil, List.Perm.refl _, ?_, ?_, ?_⟩
    · intro query hquery
      cases hquery
    · intro name hname
      cases hname
    · intro name hname
      cases hname
  · intro events event state next hearlier hrecorded hstep
    exact hrecorded.step (marksExact_of_run? hearlier) hstep

/-! ## Reading the record -/

/-- No query ends twice. -/
theorem Recorded.nodup_ended (hrecorded : Recorded pool events state) : (ended events).Nodup :=
  (List.nodup_append'.mp (hrecorded.account.nodup_iff.mp hrecorded.distinct)).2.1

/-- The queries in progress are the unfinished ones. -/
theorem Recorded.perm_active (hrecorded : Recorded pool events state) :
    state.active.Perm (state.unfinished events) := by
  obtain ⟨hactive, -, hapart⟩ :=
    List.nodup_append'.mp (hrecorded.account.nodup_iff.mp hrecorded.distinct)
  have hunfinished : (state.unfinished events).Nodup := hrecorded.distinct.filter _
  rw [List.perm_ext_iff_of_nodup hactive hunfinished]
  intro query
  rw [mem_unfinished_iff, hrecorded.account.mem_iff, List.mem_append]
  constructor
  · intro hmem
    exact ⟨Or.inl hmem, fun hended => hapart hmem hended⟩
  · rintro ⟨hmem | hended, hopen⟩
    · exact hmem
    · exact absurd hended hopen

end Gathering

end NetTopology.Polling
