/-
# What is sent is heard

A gather hears of a query when the result is sent, not when the query returns.
While it waits, what it has received and what is on the way are the results that
its own queries have sent, in the same order. When it stops waiting, nothing is
on the way, so it has received what was sent until then and nothing else.
-/

import NetTopology.Proofs.Polling.Workers

namespace NetTopology.Polling

/-- A query has returned. -/
def Query.HasReturned (query : Query) (events : List Event) : Prop :=
  ∃ result, .answer query result ∈ events

/-- What a query has returned is sent. -/
def Query.IsSent (query : Query) (events : List Event) : Prop :=
  .send query ∈ events

namespace Gathering

/-- The queries whose results are sent, in the order of the events. -/
def sent (events : List Event) : List Query :=
  events.filterMap fun event =>
    match event with
    | .send query => some query
    | _ => none

/-- The devices whose results are sent by queries of the last gather. -/
def reported (state : Gathering) (events : List Event) : List String :=
  ((sent events).filter state.isOwn).map Query.name

variable {pool : Pool} {events : List Event} {begun state next : Gathering}

theorem mem_sent_iff {query : Query} : query ∈ sent events ↔ query.IsSent events := by
  rw [sent, List.mem_filterMap, Query.IsSent]
  constructor
  · rintro ⟨event, hevent, hquery⟩
    cases event with
    | send other =>
        obtain rfl := Option.some.inj hquery
        exact hevent
    | _ => cases hquery
  · intro hsend
    exact ⟨_, hsend, rfl⟩

theorem mem_reported_iff {name : String} :
    name ∈ state.reported events ↔ Query.IsSent ⟨state.number, name⟩ events := by
  rw [reported, List.mem_map, ← mem_sent_iff]
  constructor
  · rintro ⟨query, hquery, rfl⟩
    obtain ⟨hsent, hown⟩ := List.mem_filter.mp hquery
    have hgather : query.gather = state.number := isOwn_iff.mp hown
    rw [← hgather]
    exact hsent
  · intro hsent
    exact ⟨_, List.mem_filter.mpr ⟨hsent, isOwn_iff.mpr rfl⟩, rfl⟩

theorem reported_append (hnumber : next.number = state.number) (earlier later : List Event) :
    next.reported (earlier ++ later) = state.reported earlier ++ state.reported later := by
  rw [reported, sent, List.filterMap_append, List.filter_append, List.map_append, isOwn_eq hnumber]
  rfl

/-- While the gather waits, a step adds to the messages what it reports. -/
theorem map_messages_step {event : Event} (hstep : Step pool state event next)
    (hbefore : state.phase = .waiting) (hafter : next.phase = .waiting) :
    (next.received ++ next.channel).map Prod.fst =
      (state.received ++ state.channel).map Prod.fst ++ state.reported [event] := by
  cases hstep with
  | start hidle =>
      rw [hbefore] at hidle
      cases hidle
  | @deliver query result hresult hrunning hown =>
      have hreported : state.reported [.send query] = [query.name] := by
        show ([query].filter state.isOwn).map Query.name = _
        rw [List.filter_cons_of_pos hown]
        rfl
      rw [hreported]
      show (state.received ++ (state.channel ++ [(query.name, result)])).map Prod.fst = _
      rw [← List.append_assoc, List.map_append]
      rfl
  | @lose query result hresult hlate =>
      have hforeign := hlate.resolve_left (by rw [hbefore]; decide)
      have hreported : state.reported [.send query] = [] := by
        show ([query].filter state.isOwn).map Query.name = _
        rw [List.filter_cons_of_neg (by rw [hforeign]; exact Bool.false_ne_true)]
        rfl
      rw [hreported, List.append_nil]
      rfl
  | @receive message later hchannel hwaiting hopen =>
      show (state.received ++ [message] ++ later).map Prod.fst = _ ++ []
      rw [hchannel, List.append_nil, List.append_cons state.received message later]
  | leave hwaiting hmay => cases hafter
  | close hleaving => cases hafter
  | _ => exact (List.append_nil _).symm

/-- While a gather waits, its messages are those that its queries have sent. -/
theorem map_messages_of_run? (hbegun : begun.received ++ begun.channel = [])
    (hrun : run? pool begun events = some state) (hstart : .start ∉ events)
    (hwaiting : state.phase = .waiting) :
    (state.received ++ state.channel).map Prod.fst = state.reported events := by
  revert hstart hwaiting
  refine run?_induction (motive := fun events state => .start ∉ events →
    state.phase = .waiting →
      (state.received ++ state.channel).map Prod.fst = state.reported events) ?_ ?_ hrun
  · intro _ _
    rw [hbegun]
    rfl
  · intro earlier event middle next _ ih hstep hstart hafter
    rw [List.mem_append, List.mem_singleton, not_or] at hstart
    have hbefore := waiting_of_step hstep (Ne.symm hstart.2) hafter
    rw [map_messages_step hstep hbefore hafter, ih hstart.1 hbefore,
      reported_append (number_of_step hstep (Ne.symm hstart.2))]

end Gathering

end NetTopology.Polling
