/-
# Every worker is accounted for

While a gather waits, each of its devices is at one place: it waits in the
queue, it engages a worker, or its message is on the way or received. As long
as the queue is not empty, a worker is ready or engaged by a device. A device
engages its worker until the result is sent; a worker that dies is engaged for
good. So when nobody is ready and devices still wait, every worker is engaged
by a device of its own.
-/

import NetTopology.Proofs.Polling.Answers
import Mathlib.Data.List.Perm.Subperm

namespace NetTopology.Polling.Gathering

/-- The queries that have taken their worker down. -/
def crashed (events : List Event) : List Query :=
  events.filterMap fun event =>
    match event with
    | .crash query => some query
    | _ => none

/-- The queries that have not sent a result: those in progress, those that have
returned, and those that never will. -/
def unsent (state : Gathering) (events : List Event) : List Query :=
  state.active ++ state.returned.map Prod.fst ++ crashed events

/-- The devices that engage a worker of the last gather. -/
def engaged (state : Gathering) (events : List Event) : List String :=
  ((state.unsent events).filter state.isOwn).map Query.name

/-- Where the devices and the workers of a gather are while it waits, some
events after it began. -/
structure Accounted (begun : Gathering) (events : List Event) (state : Gathering) : Prop where
  /-- Each device is at one place. -/
  devices : begun.queue.Perm (state.queue ++ state.engaged events ++
    (state.channel ++ state.received).map Prod.fst)
  /-- While devices wait, each worker is ready or engaged. -/
  workers : state.queue ≠ [] → state.ready + (state.engaged events).length = begun.ready
  /-- The gather waits for all its devices. -/
  expected : state.expected = begun.queue.length

variable {pool : Pool} {events : List Event} {begun state next : Gathering}

theorem crashed_append (earlier later : List Event) :
    crashed (earlier ++ later) = crashed earlier ++ crashed later :=
  List.filterMap_append

/-! ## Who engages a worker -/

/-- An event that crashes nobody leaves the workers that have died. -/
theorem unsent_concat {event : Event} (hquiet : crashed [event] = []) :
    state.unsent (events ++ [event]) = state.unsent events := by
  rw [unsent, unsent, crashed_append, hquiet, List.append_nil]

theorem unsent_ask_perm (state : Gathering) (events : List Event) (name : String)
    (waiting : List String) :
    ((state.ask name waiting).unsent (events ++ [.pick])).Perm
      ([⟨state.number, name⟩] ++ state.unsent events) := by
  rw [unsent_concat rfl]
  show (state.active ++ [(⟨state.number, name⟩ : Query)] ++ state.returned.map Prod.fst ++
    crashed events).Perm _
  rw [List.append_assoc, List.append_assoc]
  exact List.perm_middle.trans (by rw [unsent, List.append_assoc]; exact .refl _)

/-- A query that returns still engages its worker. -/
theorem unsent_keep_perm {query : Query} {result : Option Observation}
    (hactive : query ∈ state.active) :
    ((state.keep query result).unsent (events ++ [.answer query result])).Perm
      (state.unsent events) := by
  rw [unsent_concat rfl]
  show (state.active.erase query ++ (state.returned ++ [(query, result)]).map Prod.fst ++
    crashed events).Perm _
  rw [List.map_append, ← List.append_assoc]
  refine List.Perm.append_right _ ?_
  show (state.active.erase query ++ state.returned.map Prod.fst ++ [query]).Perm _
  exact (List.perm_append_singleton query _).trans
    ((List.perm_cons_erase hactive).symm.append_right _)

/-- A query that takes its worker down engages it for good. -/
theorem unsent_finish_perm {query : Query} (hactive : query ∈ state.active) :
    ((state.finish query).unsent (events ++ [.crash query])).Perm (state.unsent events) := by
  rw [unsent, crashed_append, ← List.append_assoc]
  show (state.active.erase query ++ state.returned.map Prod.fst ++ crashed events ++
    [query]).Perm _
  rw [List.append_assoc (state.active.erase query)]
  refine (List.perm_append_singleton query _).trans ?_
  rw [unsent, List.append_assoc]
  exact (List.perm_cons_erase hactive).symm.append_right _

/-- A worker that has sent its result is engaged no longer. -/
theorem unsent_dropResult_perm (events : List Event) {query : Query}
    {result : Option Observation} (hresult : state.resultOf? query = some result) :
    (state.unsent events).Perm ([query] ++ (state.dropResult query).unsent events) := by
  obtain ⟨pair, before, after, -, hquery, hreturned, herased⟩ := List.exists_of_eraseP
    (p := fun result => result.1 == query) (mem_returned_of_resultOf? hresult) (by simp)
  obtain rfl : pair.1 = query := by simpa using hquery
  have hperm : state.returned.Perm (pair :: (state.dropResult pair.1).returned) := by
    show state.returned.Perm (pair :: state.returned.eraseP fun result => result.1 == pair.1)
    rw [herased, hreturned]
    exact List.perm_middle
  exact (((hperm.map Prod.fst).append_left state.active).trans List.perm_middle).append_right _

theorem engaged_concat {event : Event} (hquiet : crashed [event] = []) :
    state.engaged (events ++ [event]) = state.engaged events := by
  rw [engaged, engaged, unsent_concat hquiet]

/-- Of the queries by which two states differ, those of the last gather engage a
worker with their device. -/
theorem perm_engaged {earlier later : List Event} (more : List Query)
    (hunsent : (next.unsent later).Perm (more ++ state.unsent earlier))
    (hnumber : next.number = state.number) :
    (next.engaged later).Perm
      ((more.filter state.isOwn).map Query.name ++ state.engaged earlier) := by
  rw [engaged, engaged, isOwn_eq hnumber, ← List.map_append, ← List.filter_append]
  exact (hunsent.filter _).map Query.name

theorem perm_engaged_ask (state : Gathering) (events : List Event) (name : String)
    (waiting : List String) :
    ((state.ask name waiting).engaged (events ++ [.pick])).Perm (name :: state.engaged events) := by
  have hown : state.isOwn ⟨state.number, name⟩ := isOwn_iff.mpr rfl
  have hperm := perm_engaged [⟨state.number, name⟩] (unsent_ask_perm state events name waiting) rfl
  rw [List.filter_cons_of_pos hown] at hperm
  exact hperm

/-- A worker of the last gather that sends its result lets go of its device. -/
theorem perm_engaged_deliver (events : List Event) {query : Query} {result : Option Observation}
    (hresult : state.resultOf? query = some result) (hown : state.isOwn query) :
    (state.engaged events).Perm
      (query.name :: (state.deliver query result).engaged (events ++ [.send query])) := by
  have hsame : (state.dropResult query).isOwn query := hown
  have hperm := perm_engaged [query] (unsent_dropResult_perm events hresult) rfl
  rw [List.filter_cons_of_pos hsame] at hperm
  rw [engaged_concat rfl]
  exact hperm

/-- Any other worker has engaged no device of the last gather. -/
theorem perm_engaged_lose (events : List Event) {query : Query} {result : Option Observation}
    (hresult : state.resultOf? query = some result) (hforeign : state.isOwn query = false) :
    ((state.dropResult query).engaged (events ++ [.send query])).Perm (state.engaged events) := by
  have hsame : ¬ (state.dropResult query).isOwn query := by
    show ¬ state.isOwn query
    rw [hforeign]
    exact Bool.false_ne_true
  have hperm := perm_engaged [query] (unsent_dropResult_perm events hresult) rfl
  rw [List.filter_cons_of_neg hsame] at hperm
  rw [engaged_concat rfl]
  exact hperm.symm

/-! ## One step -/

/-- A step that leaves every device at its place and every worker at its work. -/
theorem Accounted.keep {event : Event} (haccounted : Accounted begun events state)
    (hqueue : next.queue = state.queue) (hready : next.ready = state.ready)
    (hexpected : next.expected = state.expected)
    (hengaged : (next.engaged (events ++ [event])).Perm (state.engaged events))
    (hmessages : (next.channel ++ next.received).Perm (state.channel ++ state.received)) :
    Accounted begun (events ++ [event]) next := by
  refine ⟨?_, ?_, hexpected.trans haccounted.expected⟩
  · rw [hqueue]
    exact haccounted.devices.trans
      ((hengaged.symm.append_left _).append (hmessages.symm.map Prod.fst))
  · rw [hqueue, hready, hengaged.length_eq]
    exact haccounted.workers

/-- A device leaves the queue and engages a worker that was ready. -/
theorem Accounted.ask {name : String} {waiting : List String}
    (haccounted : Accounted begun events state) (hqueue : state.queue = name :: waiting)
    (hready : 0 < state.ready) :
    Accounted begun (events ++ [.pick]) (state.ask name waiting) := by
  have hengaged := perm_engaged_ask state events name waiting
  refine ⟨?_, ?_, haccounted.expected⟩
  · have hmoved : (state.queue ++ state.engaged events).Perm
        (waiting ++ (state.ask name waiting).engaged (events ++ [.pick])) := by
      rw [hqueue, List.cons_append]
      exact List.perm_middle.symm.trans (hengaged.symm.append_left waiting)
    exact haccounted.devices.trans (hmoved.append_right _)
  · intro _
    have hworkers := haccounted.workers (by rw [hqueue]; exact List.cons_ne_nil _ _)
    have hlength := hengaged.length_eq
    rw [List.length_cons] at hlength
    show state.ready - 1 + _ = begun.ready
    omega

/-- The message of a device is on the way, and its worker is ready again. -/
theorem Accounted.deliver {query : Query} {result : Option Observation}
    (haccounted : Accounted begun events state) (hresult : state.resultOf? query = some result)
    (hown : state.isOwn query) :
    Accounted begun (events ++ [.send query]) (state.deliver query result) := by
  have hengaged := perm_engaged_deliver events hresult hown
  refine ⟨?_, ?_, haccounted.expected⟩
  · have hqueue : (state.deliver query result).queue = state.queue := rfl
    have hchannel : (state.deliver query result).channel =
        state.channel ++ [(query.name, result)] := rfl
    have hreceived : (state.deliver query result).received = state.received := rfl
    rw [List.perm_iff_count, hqueue, hchannel, hreceived]
    intro name
    have hbefore := haccounted.devices.count_eq name
    have hmoved := hengaged.count_eq name
    simp only [List.count_append, List.count_cons, List.map_append, List.map_cons, List.map_nil,
      List.count_nil] at hbefore hmoved ⊢
    omega
  · intro hqueue
    have hworkers := haccounted.workers hqueue
    have hlength := hengaged.length_eq
    rw [List.length_cons] at hlength
    show state.ready + 1 + _ = begun.ready
    omega

/-- While the gather waits, every step keeps the account. -/
theorem Accounted.step {event : Event} (haccounted : Accounted begun events state)
    (hstep : Step pool state event next) (hbefore : state.phase = .waiting)
    (hafter : next.phase = .waiting) : Accounted begun (events ++ [event]) next := by
  cases hstep with
  | start hidle =>
      rw [hbefore] at hidle
      cases hidle
  | pick hqueue hready => exact haccounted.ask hqueue hready
  | retire hqueue hready =>
      refine ⟨?_, fun hwaiting => absurd hqueue hwaiting, haccounted.expected⟩
      have hsame : state.dismiss.engaged (events ++ [.retire]) = state.engaged events :=
        engaged_concat rfl
      rw [hsame]
      exact haccounted.devices
  | @answer query result hactive =>
      exact haccounted.keep rfl rfl rfl
        (perm_engaged [] (unsent_keep_perm hactive) rfl) (.refl _)
  | @crash query hactive =>
      exact haccounted.keep rfl rfl rfl
        (perm_engaged [] (unsent_finish_perm hactive) rfl) (.refl _)
  | deliver hresult hrunning hown => exact haccounted.deliver hresult hown
  | lose hresult hlate =>
      have hforeign := hlate.resolve_left (by rw [hbefore]; decide)
      exact haccounted.keep rfl rfl rfl (perm_engaged_lose events hresult hforeign) (.refl _)
  | @receive message later hchannel hwaiting hopen =>
      have hsame : (state.accept message later).engaged (events ++ [.receive]) =
          state.engaged events := engaged_concat rfl
      refine haccounted.keep rfl rfl rfl (hsame ▸ .refl _) ?_
      show (later ++ (state.received ++ [message])).Perm (state.channel ++ state.received)
      rw [hchannel, ← List.append_assoc]
      exact List.perm_append_singleton message _
  | leave hwaiting hmay => cases hafter
  | close hleaving => cases hafter

/-! ## A whole wait -/

/-- Only a new gather begins to wait. -/
theorem waiting_of_step {event : Event} (hstep : Step pool state event next)
    (hstart : event ≠ .start) (hafter : next.phase = .waiting) : state.phase = .waiting := by
  cases hstep with
  | start hidle => exact absurd rfl hstart
  | pick hqueue hready => exact hafter
  | retire hqueue hready => exact hafter
  | answer result hactive => exact hafter
  | crash hactive => exact hafter
  | deliver hresult hrunning hown => exact hafter
  | lose hresult hlate => exact hafter
  | receive hchannel hwaiting hopen => exact hwaiting
  | leave hwaiting hmay => exact hwaiting
  | close hleaving => cases hafter

/-- A gather begins with all its devices in the queue and all its workers ready. -/
theorem accounted_begin {earlier : List Event} (hrun : run? pool {} earlier = some state)
    (hidle : state.phase = .idle) : Accounted (state.begin pool) [] (state.begin pool) := by
  have hrecorded := recorded_of_run? hrun
  have hsourced := sourced_of_run? hrun
  have hpast : ∀ query ∈ (state.begin pool).unsent [], query ∈ state.started := by
    intro query hquery
    rw [hrecorded.account.mem_iff, List.mem_append]
    rcases List.mem_append.mp hquery with hbusy | hcrashed
    · rcases List.mem_append.mp hbusy with hactive | hreturned
      · exact Or.inl hactive
      · obtain ⟨⟨_, result⟩, hresult, rfl⟩ := List.mem_map.mp hreturned
        have hanswer := hsourced.returned _ result hresult
        exact Or.inr (List.mem_filterMap.mpr ⟨_, hanswer, rfl⟩)
    · cases hcrashed
  have hengaged : (state.begin pool).engaged [] = [] := by
    rw [engaged, List.map_eq_nil_iff, List.filter_eq_nil_iff]
    intro query hquery hown
    have hgather : query.gather = state.number + 1 := isOwn_iff.mp hown
    have hbefore := hrecorded.past query (hpast query hquery)
    omega
  refine ⟨?_, ?_, rfl⟩
  · have hchannel : (state.begin pool).channel = [] := hsourced.closed hidle
    have hreceived : (state.begin pool).received = [] := rfl
    rw [hengaged, hchannel, hreceived, List.append_nil, List.append_nil, List.map_nil,
      List.append_nil]
  · intro _
    rw [hengaged]
    rfl

/-- While a gather waits, its devices and workers are accounted for. -/
theorem accounted_of_run? (hbegun : Accounted begun [] begun)
    (hrun : run? pool begun events = some state) (hstart : .start ∉ events)
    (hwaiting : state.phase = .waiting) : Accounted begun events state := by
  revert hstart hwaiting
  refine run?_induction (motive := fun events state => .start ∉ events →
    state.phase = .waiting → Accounted begun events state) ?_ ?_ hrun
  · intro _ _
    exact hbegun
  · intro earlier event middle next _ ih hstep hstart hafter
    rw [List.mem_append, List.mem_singleton, not_or] at hstart
    have hbefore := waiting_of_step hstep (Ne.symm hstart.2) hafter
    exact (ih hstart.1 hbefore).step hstep hbefore hafter

/-! ## Who is left over -/

section

variable {held : List String} (haccounted : Accounted begun events state)
  (hdistinct : begun.queue.Nodup)

include haccounted

/-- When a gather has heard from as many devices as it asks, no device is left
elsewhere. -/
theorem Accounted.eq_nil_of_isComplete (hcomplete : state.isComplete) :
    state.queue = [] ∧ state.engaged events = [] ∧ state.channel = [] := by
  have hlength := haccounted.devices.length_eq
  have hall : begun.queue.length ≤ state.received.length := by
    rw [← haccounted.expected]
    simpa [isComplete] using hcomplete
  simp only [List.length_append, List.length_map] at hlength
  refine ⟨List.length_eq_zero_iff.mp ?_, List.length_eq_zero_iff.mp ?_,
    List.length_eq_zero_iff.mp ?_⟩ <;> omega

/-- A gather that may stop waiting has received all messages. -/
theorem Accounted.channel_of_mayLeave {reason : Reason} (hmay : state.mayLeave reason) :
    state.channel = [] := by
  cases reason with
  | complete => exact (haccounted.eq_nil_of_isComplete hmay).2.2
  | timeOver => simpa using (Bool.and_eq_true_iff.mp hmay).2
  | deserted =>
      obtain ⟨hopen, -⟩ := Bool.and_eq_true_iff.mp hmay
      simpa using (Bool.and_eq_true_iff.mp hopen).2

/-- A gather that has heard from as many devices as it asks has heard from all. -/
theorem Accounted.received_of_isComplete (hcomplete : state.isComplete) {name : String}
    (hname : name ∈ begun.queue) : name ∈ state.received.map Prod.fst := by
  obtain ⟨hqueue, hengaged, hchannel⟩ := haccounted.eq_nil_of_isComplete hcomplete
  have hplace := haccounted.devices.mem_iff.mp hname
  rw [hqueue, hengaged, hchannel] at hplace
  exact hplace

include hdistinct

/-- A device that the gather has heard from neither waits nor engages a worker. -/
theorem Accounted.notMem_of_received {name : String}
    (hreceived : name ∈ state.received.map Prod.fst) :
    name ∉ state.queue ++ state.engaged events := by
  intro hbusy
  have hapart := (List.nodup_append'.mp (haccounted.devices.nodup_iff.mp hdistinct)).2.2
  apply hapart hbusy
  rw [List.map_append]
  exact List.mem_append_right _ hreceived

/-- When nobody is ready and only some devices engage workers, but another one
still waits, these devices are at least as many as the workers of the pool. -/
theorem Accounted.threads_le_of_stalled
    (hworkers : begun.ready = min (max pool.threads 1) begun.queue.length)
    (hengaged : ∀ name ∈ state.engaged events, name ∈ held) (hstalled : state.ready = 0)
    {name : String} (hname : name ∈ state.queue) (hother : name ∉ held) :
    max pool.threads 1 ≤ (begun.queue.filter fun name => name ∈ held).length := by
  have hnodup : (state.queue ++ state.engaged events).Nodup :=
    (List.nodup_append'.mp (haccounted.devices.nodup_iff.mp hdistinct)).1
  have hsubset : state.engaged events ⊆ begun.queue.filter fun name => name ∈ held := by
    intro busy hbusy
    rw [List.mem_filter, haccounted.devices.mem_iff]
    exact ⟨List.mem_append_left _ (List.mem_append_right _ hbusy), by simpa using hengaged busy hbusy⟩
  have hbusy : (state.engaged events).length ≤
      (begun.queue.filter fun name => name ∈ held).length :=
    (List.subperm_of_subset (List.nodup_append'.mp hnodup).2.1 hsubset).length_le
  -- the waiting device is not among them, so the workers are fewer than the devices
  have hfewer : (begun.queue.filter fun name => name ∈ held).length < begun.queue.length := by
    rw [List.length_filter_lt_length_iff_exists]
    refine ⟨name, ?_, by simpa using hother⟩
    rw [haccounted.devices.mem_iff]
    exact List.mem_append_left _ (List.mem_append_left _ hname)
  have hcount := haccounted.workers (List.ne_nil_of_mem hname)
  omega

/-- When fewer devices engage workers than the pool has, nothing is on the way
and no other work is left, the gather has heard from all other devices. -/
theorem Accounted.received_of_stalled
    (hworkers : begun.ready = min (max pool.threads 1) begun.queue.length)
    (hengaged : ∀ name ∈ state.engaged events, name ∈ held)
    (hfew : (begun.queue.filter fun name => name ∈ held).length < max pool.threads 1)
    (hchannel : state.channel = [])
    (hstalled : state.ready = 0 ∨ ∀ name ∈ state.queue, name ∈ held)
    {name : String} (hname : name ∈ begun.queue) (hother : name ∉ held) :
    name ∈ state.received.map Prod.fst := by
  have hqueue : name ∉ state.queue := by
    intro hwaits
    rcases hstalled with hready | hwaiting
    · have hmany := haccounted.threads_le_of_stalled hdistinct hworkers hengaged hready hwaits hother
      omega
    · exact hother (hwaiting name hwaits)
  have hfree : name ∉ state.engaged events := fun hbusy => hother (hengaged name hbusy)
  have hplace := haccounted.devices.mem_iff.mp hname
  rw [hchannel, List.nil_append, List.mem_append, List.mem_append] at hplace
  tauto

end

end NetTopology.Polling.Gathering
