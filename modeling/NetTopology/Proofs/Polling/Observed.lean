/-
# What a cycle observes

An observation of a cycle is what the query of this very cycle returned for a
pollable device that was not in flight. The cycle has it exactly when the
result was sent before the gather stopped waiting; it is not enough that the
query returned, since a result is only on the way once its worker has sent it.
As long as the devices that hold up workers are fewer than the workers, no
other device is missed, in whatever order the workers proceed and however the
gather ends. The pollable devices without an observation are the ones reported
as down.
-/

import NetTopology.Polling.Rehearsal
import NetTopology.Samples
import NetTopology.Proofs.Alert
import NetTopology.Proofs.Polling.Cycle

namespace NetTopology.Polling.Cycle

open Gathering

variable {pool : Pool} (cycle : Cycle pool)

/-! ## What is received -/

/-- The gather hears at most once from each of its devices, and from no other. -/
theorem subperm_received :
    (cycle.after.received.map Prod.fst).Subperm cycle.begun.queue := by
  rcases cycle.wait_cases with ⟨-, hnothing⟩ | ⟨early, _, _, left, hbody, hleft, -, hreceived⟩
  · rw [hnothing]
    exact List.nil_subperm
  · rw [hreceived]
    have hdevices := (cycle.accounted_of_leave hbody hleft).devices
    refine List.Sublist.subperm ?_ |>.trans hdevices.symm.subperm
    rw [List.map_append, ← List.append_assoc]
    exact List.sublist_append_right _ _

theorem nodup_received : (cycle.after.received.map Prod.fst).Nodup := by
  obtain ⟨names, hperm, hsublist⟩ := cycle.subperm_received
  exact hperm.nodup_iff.mp (hsublist.nodup cycle.nodup_queue)

/-- A message of a cycle is what the query of this cycle returned. -/
theorem answer_mem_body {name : String} {result : Option Observation}
    (hmessage : (name, result) ∈ cycle.after.received) :
    .answer ⟨cycle.begun.number, name⟩ result ∈ cycle.body := by
  have hanswer := (sourced_of_run? cycle.run_eq).messages name result
    (List.mem_append_right _ hmessage)
  rw [number_after] at hanswer
  rcases List.mem_append.mp hanswer with hearlier | hlater
  · -- an answer before the cycle is one to a query started before it
    exfalso
    apply cycle.notMem_started_before name
    rw [(recorded_of_run? cycle.reached).account.mem_iff]
    exact List.mem_append_right _ (List.mem_filterMap.mpr ⟨_, hearlier, rfl⟩)
  · rcases List.mem_cons.mp hlater with hstart | hbody
    · cases hstart
    · exact hbody

/-- The query of a cycle returns only one result. -/
theorem answer_unique {name : String} {first second : Option Observation}
    (hfirst : .answer ⟨cycle.begun.number, name⟩ first ∈ cycle.body)
    (hsecond : .answer ⟨cycle.begun.number, name⟩ second ∈ cycle.body) : first = second :=
  (recorded_of_run? cycle.run_eq).answer_unique
    (List.mem_append_right _ (List.mem_cons_of_mem _ hfirst))
    (List.mem_append_right _ (List.mem_cons_of_mem _ hsecond))

/-- The gather hears from a device exactly when the result is sent in time. -/
theorem mem_received_iff_sendsInTime {name : String} :
    name ∈ cycle.after.received.map Prod.fst ↔ cycle.SendsInTime name := by
  constructor
  · intro hname
    rcases cycle.wait_cases with
      ⟨-, hnothing⟩ | ⟨early, reason, later, left, hbody, hleft, -, hreceived⟩
    · rw [hnothing] at hname
      cases hname
    · rw [hreceived, cycle.mem_received_iff_isSent hbody hleft] at hname
      exact ⟨early, reason, later, hbody, hname⟩
  · rintro ⟨early, reason, later, hbody, hsent⟩
    obtain ⟨left, hleft, -, -, hreceived⟩ := cycle.exists_left_of_eq_append hbody
    rw [hreceived, cycle.mem_received_iff_isSent hbody hleft]
    exact hsent

/-- An observation is what a query has returned and sent in time. -/
theorem observations_eq_some_iff {name : String} {observation : Observation} :
    cycle.after.observations[name]? = some observation ↔
      .answer ⟨cycle.begun.number, name⟩ (some observation) ∈ cycle.body ∧
        cycle.SendsInTime name := by
  rw [← mem_received_iff_sendsInTime]
  constructor
  · intro hobserved
    have hmessage := mem_received_of_observations hobserved
    exact ⟨cycle.answer_mem_body hmessage, List.mem_map_of_mem hmessage⟩
  · rintro ⟨hanswer, hname⟩
    obtain ⟨⟨_, result⟩, hmessage, rfl⟩ := List.mem_map.mp hname
    obtain rfl := cycle.answer_unique (cycle.answer_mem_body hmessage) hanswer
    exact observations_of_mem_received cycle.nodup_received hmessage

/-! ## Who is missed -/

/-- The devices that engage a worker when the wait ends have crashed it or are
among those that hold it up. -/
theorem mem_held_of_engaged {held : List String} {early later : List Event} {reason : Reason}
    {left : Gathering} (hbody : cycle.body = early ++ .leave reason :: later)
    (hleft : cycle.begun.run? pool early = some left)
    (hcrashes : ∀ name, .crash ⟨cycle.begun.number, name⟩ ∈ cycle.body → name ∈ held)
    (hbusy : ∀ name, (⟨cycle.begun.number, name⟩ ∈ left.active ∨
      ∃ result, (⟨cycle.begun.number, name⟩, result) ∈ left.returned) → name ∈ held) :
    ∀ name ∈ left.engaged early, name ∈ held := by
  have hnumber := number_of_run? hleft (cycle.start_notMem_of_eq_append hbody)
  intro name hname
  obtain ⟨query, hquery, rfl⟩ := List.mem_map.mp hname
  obtain ⟨hunsent, hown⟩ := List.mem_filter.mp hquery
  have hgather : query.gather = cycle.begun.number := by
    rw [← hnumber]
    exact isOwn_iff.mp hown
  have hsame : query = ⟨cycle.begun.number, query.name⟩ := by
    rw [← hgather]
  rcases List.mem_append.mp hunsent with halive | hdead
  · apply hbusy
    rw [← hsame]
    rcases List.mem_append.mp halive with hactive | hreturned
    · exact Or.inl hactive
    · obtain ⟨⟨_, result⟩, hresult, rfl⟩ := List.mem_map.mp hreturned
      exact Or.inr ⟨result, hresult⟩
  · apply hcrashes
    rw [← hsame, hbody]
    obtain ⟨event, hevent, hcrash⟩ := List.mem_filterMap.mp hdead
    apply List.mem_append_left
    cases event with
    | crash other =>
        obtain rfl := Option.some.inj hcrash
        exact hevent
    | _ => cases hcrash

/-- A gather that no worker serves any more has no query in progress. -/
theorem free_of_isDeserted {early later : List Event} {reason : Reason} {left : Gathering}
    (hbody : cycle.body = early ++ .leave reason :: later)
    (hleft : cycle.begun.run? pool early = some left) (hdeserted : left.isDeserted) :
    left.ready = 0 ∧ ∀ name, ¬ (⟨cycle.begun.number, name⟩ ∈ left.active ∨
      ∃ result, (⟨cycle.begun.number, name⟩, result) ∈ left.returned) := by
  have hnumber := number_of_run? hleft (cycle.start_notMem_of_eq_append hbody)
  have hown : ∀ name, left.isOwn ⟨cycle.begun.number, name⟩ :=
    fun name => isOwn_iff.mpr hnumber.symm
  obtain ⟨hrest, hreturned⟩ := Bool.and_eq_true_iff.mp hdeserted
  obtain ⟨hready, hactive⟩ := Bool.and_eq_true_iff.mp hrest
  rw [Bool.not_eq_true', List.any_eq_false] at hactive hreturned
  refine ⟨beq_iff_eq.mp hready, ?_⟩
  rintro name (hasked | ⟨result, hresult⟩)
  · exact hactive _ hasked (hown name)
  · exact hreturned _ hresult (hown name)

/-- When the devices that hold up workers are fewer than the workers, the gather
hears from every other device it asks. -/
theorem mem_received_of_few {held : List String} (hheld : cycle.HeldUpBy held)
    (hfew : (cycle.begun.queue.filter fun name => name ∈ held).length < max pool.threads 1)
    {name : String} (hname : name ∈ cycle.begun.queue) (hother : name ∉ held) :
    name ∈ cycle.after.received.map Prod.fst := by
  rcases cycle.wait_cases with
    ⟨hempty, -⟩ | ⟨early, reason, later, left, hbody, hleft, hmay, hreceived⟩
  · rw [hempty] at hname
    cases hname
  · rw [hreceived]
    have haccounted := cycle.accounted_of_leave hbody hleft
    have hchannel := haccounted.channel_of_mayLeave hmay
    have hworkers : cycle.begun.ready = min (max pool.threads 1) cycle.begun.queue.length := by
      rw [begun_eq]
      rfl
    cases reason with
    | complete => exact haccounted.received_of_isComplete hmay hname
    | timeOver =>
        exact haccounted.received_of_stalled cycle.nodup_queue hworkers
          (cycle.mem_held_of_engaged hbody hleft hheld.crashes
            (hheld.inTime early later left hbody hleft))
          hfew hchannel (hheld.asked early later left hbody hleft) hname hother
    | deserted =>
        obtain ⟨-, hdeserted⟩ := Bool.and_eq_true_iff.mp hmay
        obtain ⟨hready, hnobody⟩ := cycle.free_of_isDeserted hbody hleft hdeserted
        exact haccounted.received_of_stalled cycle.nodup_queue hworkers
          (cycle.mem_held_of_engaged hbody hleft hheld.crashes
            fun name hbusy => absurd hbusy (hnobody name))
          hfew hchannel (Or.inl hready) hname hother

/-! ## The observations of a cycle -/

/-- A cycle observes of a device what its own query returned, if the device is
pollable and was not in flight, and nothing else. It does so exactly when the
result is sent before the gather stops waiting. When the devices that hold up
workers are fewer than the workers, it observes what every other device it asks
returns; that is so in particular if the results of all others are sent before
the time is over. The alerts name the pollable devices that it did not
observe. -/
theorem observations_eq_answers (catalog : Catalog) (options : Options)
    (cycle : Cycle (Pool.ofCatalog catalog options.threads)) :
    (∀ name observation, cycle.after.observations[name]? = some observation →
      (∃ entry ∈ catalog.entries, entry.isPollable ∧ entry.name = name) ∧
      name ∉ cycle.before.inFlight ∧
      ⟨cycle.begun.number, name⟩ ∉ cycle.before.started ∧
      ⟨cycle.begun.number, name⟩ ∈ cycle.after.started ∧
      ∀ result, .answer ⟨cycle.begun.number, name⟩ result ∈ cycle.body ↔
        result = some observation) ∧
    (∀ name observation, cycle.after.observations[name]? = some observation ↔
      .answer ⟨cycle.begun.number, name⟩ (some observation) ∈ cycle.body ∧
        cycle.SendsInTime name) ∧
    (∀ held, cycle.HeldUpBy held →
      (cycle.begun.queue.filter fun name => name ∈ held).length < max options.threads 1 →
      ∀ name ∈ cycle.begun.queue, name ∉ held →
        ∃ result, .answer ⟨cycle.begun.number, name⟩ result ∈ cycle.body ∧
          cycle.after.observations[name]? = result) ∧
    (∀ held, cycle.InTimeBut held Query.IsSent → cycle.HeldUpBy held) ∧
    (cycle.after.snapshot catalog options).openAlerts.filter
        (fun alert => alert.key == Alert.downKey) =
      (catalog.entries.filter fun entry =>
        entry.isPollable && cycle.after.observations[entry.name]?.isNone).map fun entry =>
          Alert.down ⟨entry, none⟩ := by
  refine ⟨?_, fun _ _ => cycle.observations_eq_some_iff, ?_,
    fun _ => cycle.heldUpBy_of_isSent, ?_⟩
  · intro name observation hobserved
    have hmessage := mem_received_of_observations hobserved
    have hanswer := cycle.answer_mem_body hmessage
    have hasked : name ∈ cycle.begun.queue :=
      cycle.subperm_received.subset (List.mem_map_of_mem hmessage)
    rw [queue_begun, mem_fresh_iff, Pool.mem_devices_ofCatalog_iff] at hasked
    refine ⟨hasked.1, hasked.2, cycle.notMem_started_before name, ?_, ?_⟩
    · rw [(recorded_of_run? cycle.run_eq).account.mem_iff]
      exact List.mem_append_right _ (List.mem_filterMap.mpr
        ⟨_, List.mem_append_right _ (List.mem_cons_of_mem _ hanswer), rfl⟩)
    · intro result
      constructor
      · intro hother
        exact cycle.answer_unique hother hanswer
      · rintro rfl
        exact hanswer
  · intro held hheld hfew name hname hother
    obtain ⟨⟨_, result⟩, hmessage, rfl⟩ :=
      List.mem_map.mp (cycle.mem_received_of_few hheld hfew hname hother)
    exact ⟨result, cycle.answer_mem_body hmessage,
      observations_of_mem_received cycle.nodup_received hmessage⟩
  · exact (Network.filter_openAlerts_downKey _ _).trans (Network.map_down_missingDevices _)

/-- One of two workers is held up by `h3`, and the other one asks the routers. -/
def heldUp : List Event :=
  [.pick, .pick, .answer ⟨1, "r1"⟩ (some default), .send ⟨1, "r1"⟩, .receive,
    .pick, .answer ⟨1, "r2"⟩ (some default), .send ⟨1, "r2"⟩, .receive,
    .pick, .answer ⟨1, "r3"⟩ none, .send ⟨1, "r3"⟩, .receive, .retire]

/-- The held up worker does not keep the gather from hearing from `r2`. -/
theorem observations_eq_answers_heldUp :
    ∃ cycle : Cycle (Pool.ofCatalog Sample.routedTriangle.catalog 2),
      cycle.body = heldUp ++ [.leave .timeOver, .close] ∧
      cycle.InTimeBut ["h3"] Query.IsSent ∧ cycle.HeldUpBy ["h3"] ∧
      (cycle.begun.queue.filter fun name => name ∈ ["h3"]).length < max 2 1 ∧
      "r2" ∈ cycle.begun.queue ∧ "r2" ∉ ["h3"] ∧
      ∃ result, .answer ⟨cycle.begun.number, "r2"⟩ result ∈ cycle.body ∧
        cycle.after.observations["r2"]? = result := by
  let pool := Pool.ofCatalog Sample.routedTriangle.catalog 2
  have hend : (run? pool (begin {} pool) (heldUp ++ [.leave .timeOver, .close])).map isRunning =
      some false := by decide
  obtain ⟨cycle, hbegun, hbody, -⟩ := exists_first (by simp [heldUp]) hend
  have hnumber : cycle.begun.number = 1 := by
    rw [hbegun]
    rfl
  have hnames : cycle.begun.queue = ["h3", "r1", "r2", "r3"] := by
    rw [hbegun]
    decide
  have hinTime : cycle.InTimeBut ["h3"] Query.IsSent := by
    apply cycle.inTimeBut_of_body_eq hbody (by simp [heldUp]) (by simp)
    · intro name hcrash
      rw [hbody] at hcrash
      simp [heldUp] at hcrash
    · intro name hname hother
      rw [hnames] at hname
      have hrouter := (List.mem_cons.mp hname).resolve_left fun hsame => hother (by simp [hsame])
      simp only [List.mem_cons, List.not_mem_nil, or_false] at hrouter
      rw [hnumber]
      rcases hrouter with rfl | rfl | rfl <;> simp [Query.IsSent, heldUp]
  obtain ⟨-, -, hobserves, hheldUp, -⟩ :=
    observations_eq_answers Sample.routedTriangle.catalog { threads := 2 } cycle
  have hfew : (cycle.begun.queue.filter fun name => name ∈ ["h3"]).length < max 2 1 := by
    rw [hnames]
    decide
  have hqueue : "r2" ∈ cycle.begun.queue := by
    rw [hnames]
    decide
  have hother : "r2" ∉ ["h3"] := by decide
  have hheld := hheldUp ["h3"] hinTime
  exact ⟨cycle, hbody, hinTime, hheld, hfew, hqueue, hother,
    hobserves ["h3"] hheld hfew "r2" hqueue hother⟩

/-! ## A result that is sent too late -/

/-- A catalog with a single device. -/
def oneRouter : Catalog :=
  Sample.declare [("router", { ip := Sample.ip 10 0 0 1 })]

/-- The query returns in time, but its worker sends the result only when the
gather waits no longer. -/
def tooLate : List Event :=
  [.pick, .answer ⟨1, "router"⟩ (some default), .leave .timeOver, .send ⟨1, "router"⟩, .close]

/-- It is not enough that the queries of all other devices return before the
time is over: a device is missed that has returned an observation by then. -/
theorem not_forall_observed_of_hasReturned :
    ¬ ∀ (catalog : Catalog) (options : Options)
        (cycle : Cycle (Pool.ofCatalog catalog options.threads)) (held : List String),
      cycle.InTimeBut held Query.HasReturned →
      (cycle.begun.queue.filter fun name => name ∈ held).length < max options.threads 1 →
      ∀ name ∈ cycle.begun.queue, name ∉ held → ∀ observation,
        .answer ⟨cycle.begun.number, name⟩ (some observation) ∈ cycle.body →
          (cycle.after.observations[name]?).isSome := by
  intro hall
  let pool := Pool.ofCatalog oneRouter 1
  have hend : (run? pool (begin {} pool) tooLate).map isRunning = some false := by decide
  obtain ⟨cycle, hbegun, hbody, hafter⟩ := exists_first (by simp [tooLate]) hend
  have hnumber : cycle.begun.number = 1 := by
    rw [hbegun]
    rfl
  have hnames : cycle.begun.queue = ["router"] := by
    rw [hbegun]
    decide
  have hunheard : cycle.after.received.map Prod.fst = [] := by
    have hreceived : (run? pool (begin {} pool) tooLate).map
        (fun state => state.received.map Prod.fst) = some [] := by decide
    rw [hafter] at hreceived
    exact Option.some.inj hreceived
  have hinTime : cycle.InTimeBut [] Query.HasReturned := by
    have hsplit : cycle.body = [.pick, .answer ⟨1, "router"⟩ (some default)] ++
        .leave .timeOver :: [.send ⟨1, "router"⟩, .close] := hbody
    apply cycle.inTimeBut_of_body_eq hsplit (by simp) (by simp)
    · intro name hcrash
      rw [hbody] at hcrash
      simp [tooLate] at hcrash
    · intro name hname _
      rw [hnames] at hname
      obtain rfl := List.mem_singleton.mp hname
      rw [hnumber]
      exact ⟨some default, by simp⟩
  have hanswer : .answer ⟨cycle.begun.number, "router"⟩ (some default) ∈ cycle.body := by
    rw [hnumber, hbody]
    simp [tooLate]
  have hobserved := hall oneRouter { threads := 1 } cycle [] hinTime (by simp) "router"
    (by rw [hnames]; exact List.mem_singleton_self _) List.not_mem_nil default hanswer
  obtain ⟨observation, hobservation⟩ := Option.isSome_iff_exists.mp hobserved
  have hheard := List.mem_map_of_mem (f := Prod.fst) (mem_received_of_observations hobservation)
  rw [hunheard] at hheard
  cases hheard

end NetTopology.Polling.Cycle
