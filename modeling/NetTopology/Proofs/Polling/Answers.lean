/-
# What is received was answered

A message that the gather receives is what a query of this very gather has
returned. The result of a query of an earlier gather never enters the channel:
its worker has nobody to send it to. Since no query returns twice, a message
tells what its query returned.
-/

import NetTopology.Proofs.Polling.History

namespace NetTopology.Polling.Gathering

/-- Where results and messages come from. -/
structure Sourced (events : List Event) (state : Gathering) : Prop where
  /-- A result that waits to be sent was returned by its query. -/
  returned : ∀ query result, (query, result) ∈ state.returned → .answer query result ∈ events
  /-- A message was returned by the query of the last gather. -/
  messages : ∀ name result, (name, result) ∈ state.channel ++ state.received →
    .answer ⟨state.number, name⟩ result ∈ events
  /-- Without a running gather the channel is empty. -/
  closed : state.phase = .idle → state.channel = []

variable {pool : Pool} {events : List Event} {state next : Gathering}

theorem mem_returned_of_resultOf? {query : Query} {result : Option Observation}
    (hresult : state.resultOf? query = some result) : (query, result) ∈ state.returned := by
  obtain ⟨pair, hfind, rfl⟩ := Option.map_eq_some_iff.mp hresult
  have hquery : pair.1 = query := by simpa using List.find?_some hfind
  rw [← hquery]
  exact List.mem_of_find?_eq_some hfind

/-- A step that brings no result and no message keeps the sources. -/
theorem Sourced.keep {event : Event} (hsourced : Sourced events state)
    (hreturned : next.returned ⊆ state.returned) (hnumber : next.number = state.number)
    (hmessages : next.channel ++ next.received ⊆ state.channel ++ state.received)
    (hclosed : next.phase = .idle → next.channel = []) : Sourced (events ++ [event]) next := by
  refine ⟨?_, ?_, hclosed⟩
  · intro query result hresult
    exact List.mem_append_left _ (hsourced.returned query result (hreturned hresult))
  · intro name result hmessage
    rw [hnumber]
    exact List.mem_append_left _ (hsourced.messages name result (hmessages hmessage))

/-- What a query returns waits to be sent. -/
theorem Sourced.answer {query : Query} (hsourced : Sourced events state)
    (result : Option Observation) :
    Sourced (events ++ [.answer query result]) (state.keep query result) := by
  refine ⟨?_, ?_, hsourced.closed⟩
  · intro other found hfound
    rcases List.mem_append.mp hfound with hold | hnew
    · exact List.mem_append_left _ (hsourced.returned other found hold)
    · obtain ⟨rfl, rfl⟩ := Prod.mk.inj (List.mem_singleton.mp hnew)
      exact List.mem_append_right _ List.mem_cons_self
  · intro name found hmessage
    exact List.mem_append_left _ (hsourced.messages name found hmessage)

/-- A message that is sent was returned by a query of the running gather. -/
theorem Sourced.deliver {query : Query} {result : Option Observation}
    (hsourced : Sourced events state) (hresult : state.resultOf? query = some result)
    (hrunning : state.phase ≠ .idle) (hown : state.isOwn query) :
    Sourced (events ++ [.send query]) (state.deliver query result) := by
  refine ⟨?_, ?_, fun hidle => absurd hidle hrunning⟩
  · intro other found hfound
    exact List.mem_append_left _ (hsourced.returned other found (List.eraseP_subset hfound))
  · intro name found hmessage
    apply List.mem_append_left
    rcases List.mem_append.mp hmessage with hsent | hreceived
    · rcases List.mem_append.mp hsent with hold | hnew
      · exact hsourced.messages name found (List.mem_append_left _ hold)
      · obtain ⟨rfl, rfl⟩ := Prod.mk.inj (List.mem_singleton.mp hnew)
        have hgather : query.gather = state.number := isOwn_iff.mp hown
        show Event.answer ⟨state.number, query.name⟩ found ∈ events
        rw [← hgather]
        exact hsourced.returned query found (mem_returned_of_resultOf? hresult)
    · exact hsourced.messages name found (List.mem_append_right _ hreceived)

/-- Every step keeps the sources. -/
theorem Sourced.step {event : Event} (hsourced : Sourced events state)
    (hstep : Step pool state event next) : Sourced (events ++ [event]) next := by
  cases hstep with
  | start hidle =>
      refine ⟨?_, ?_, fun _ => hsourced.closed hidle⟩
      · intro query result hresult
        exact List.mem_append_left _ (hsourced.returned query result hresult)
      · intro name result hmessage
        have hempty : (state.begin pool).channel ++ (state.begin pool).received = [] := by
          show state.channel ++ [] = []
          rw [hsourced.closed hidle, List.append_nil]
        rw [hempty] at hmessage
        cases hmessage
  | pick hqueue hready =>
      exact hsourced.keep (List.Subset.refl _) rfl (List.Subset.refl _) hsourced.closed
  | retire hqueue hready =>
      exact hsourced.keep (List.Subset.refl _) rfl (List.Subset.refl _) hsourced.closed
  | answer result hactive => exact hsourced.answer result
  | crash hactive =>
      exact hsourced.keep (List.Subset.refl _) rfl (List.Subset.refl _) hsourced.closed
  | deliver hresult hrunning hown => exact hsourced.deliver hresult hrunning hown
  | lose hresult hlate =>
      exact hsourced.keep List.eraseP_subset rfl (List.Subset.refl _) hsourced.closed
  | @receive message later hchannel hwaiting hopen =>
      refine hsourced.keep (List.Subset.refl _) rfl ?_ ?_
      · intro other hother
        rw [hchannel]
        have hmoved : (later ++ (state.received ++ [message])).Perm
            (message :: later ++ state.received) := by
          rw [← List.append_assoc]
          exact List.perm_append_singleton message _
        exact hmoved.mem_iff.mp hother
      · intro hidle
        have hphase : state.phase = .idle := hidle
        rw [hwaiting] at hphase
        cases hphase
  | leave hwaiting hmay =>
      refine hsourced.keep (List.Subset.refl _) rfl (List.Subset.refl _) ?_
      intro hidle
      cases hidle
  | close hleaving =>
      exact hsourced.keep (List.Subset.refl _) rfl (List.subset_append_right _ _) fun _ => rfl

/-- In every run, results and messages come from the queries they name. -/
theorem sourced_of_run? (hrun : run? pool {} events = some state) : Sourced events state := by
  refine run?_induction (motive := Sourced) ?_ ?_ hrun
  · refine ⟨?_, ?_, fun _ => rfl⟩
    · intro query result hresult
      cases hresult
    · intro name result hmessage
      cases hmessage
  · intro events event state next _ hsourced hstep
    exact hsourced.step hstep

/-- Only one event ends a query. -/
theorem Recorded.ended?_unique {query : Query} {first second : Event}
    (hrecorded : Recorded pool events state) (hfirst : first ∈ events) (hsecond : second ∈ events)
    (hleft : first.ended? = some query) (hright : second.ended? = some query) :
    first = second := by
  have hpairs := List.pairwise_filterMap.mp hrecorded.nodup_ended
  have hunique := List.Pairwise.forall_of_forall_of_flip
    (R := fun left right : Event => left.ended? = some query → right.ended? = some query →
      left = right)
    (fun _ _ _ _ => rfl)
    (hpairs.imp fun hne hleft hright => absurd rfl (hne query hleft query hright))
    (hpairs.imp fun hne hleft hright => absurd rfl (hne query hright query hleft))
  exact hunique hfirst hsecond hleft hright

/-- A query returns only one result. -/
theorem Recorded.answer_unique {query : Query} {first second : Option Observation}
    (hrecorded : Recorded pool events state) (hfirst : .answer query first ∈ events)
    (hsecond : .answer query second ∈ events) : first = second :=
  (Event.answer.inj (hrecorded.ended?_unique hfirst hsecond rfl rfl)).2

end NetTopology.Polling.Gathering
