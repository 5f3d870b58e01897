/-
# Next hops are exactly the forwarding directions

A device forwards to another one when one of its routes names that device as
the owner of its next hop, or, without an owned next hop, has it in the
destination. The next-hop relations show every such direction and nothing else:
one line for a pair that forwards both ways, from the smaller address to the
larger one, and an arrow for a pair that forwards one way. Seen as a graph, the
snapshot has one next-hop edge for each direction.
-/

import NetTopology.Proofs.Graph
import NetTopology.Proofs.Owner
import NetTopology.Proofs.Reconciliation
import NetTopology.Proofs.Relation.Pairing

namespace NetTopology

namespace Network

variable (net : Network)

/-- The device with the address `a` answered and forwards traffic to the other
device `b`: a route of it has `b` as the owner of its next hop, or has no owner
of a next hop and `b` in its destination. -/
def Forwards (a b : Address) : Prop :=
  a ≠ b ∧ ∃ device ∈ net.polledDevices, device.adminIp = a ∧ ∃ route ∈ device.routes,
    (net.resolve device route).viaIp? = some b ∨
      (net.resolve device route).viaIp? = none ∧ b ∈ (net.resolve device route).destinations

end Network

namespace NextHop

/-- A next-hop line between two devices. -/
def line (a b : Address) (style : Relation.Style) : Relation where
  kind := .nextHop
  left := a
  right := b
  predicate := predicate
  style := style
  middleLabels := [.small "next hop" 1]

theorem edges_line_directed (a b : Address) :
    (line a b .directed).edges = [⟨a, b, .nextHop⟩] := rfl

theorem edges_line_bidirectional (a b : Address) :
    (line a b .bidirectional).edges = [⟨a, b, .nextHop⟩, ⟨b, a, .nextHop⟩] := rfl

end NextHop

namespace ResolvedRoute

/-- The devices that a route forwards to, by whether its next hop has an owner. -/
theorem mem_hops_iff {resolved : ResolvedRoute} {hop : Address} :
    hop ∈ resolved.hops ↔
      resolved.src ≠ hop ∧
        (resolved.viaIp? = some hop ∨
          resolved.viaIp? = none ∧ hop ∈ resolved.destinations) := by
  rw [hops, List.mem_filter, forwardsTo, bne_iff_ne, and_comm]
  refine and_congr ne_comm ?_
  cases hvia : resolved.viaIp? with
  | none => simp
  | some via => simp [eq_comm]

end ResolvedRoute

namespace Network

variable {net : Network}

theorem mem_resolvedRoutes_iff {resolved : ResolvedRoute} :
    resolved ∈ net.resolvedRoutes ↔
      ∃ device ∈ net.polledDevices, ∃ route ∈ device.routes,
        net.resolve device route = resolved := by
  rw [resolvedRoutes, List.mem_flatMap]
  constructor
  · rintro ⟨device, hdevice, hroute⟩
    exact ⟨device, hdevice, List.mem_map.mp hroute⟩
  · rintro ⟨device, hdevice, hroute⟩
    exact ⟨device, hdevice, List.mem_map.mpr hroute⟩

/-- The resolved routes of one device are those of its table, in order. -/
theorem filter_src_resolvedRoutes (net : Network) (src : Address) :
    (net.resolvedRoutes.filter fun resolved => resolved.src == src) =
      (net.polledDevices.find? fun device => device.adminIp == src).elim [] fun device =>
        device.routes.map (net.resolve device) := by
  have hsrc (device : Device) : ((fun resolved => resolved.src == src) ∘ net.resolve device) =
      fun _ => device.adminIp == src := rfl
  simp only [resolvedRoutes, List.filter_flatMap, List.filter_map, hsrc]
  rw [flatMap_eq_of_adminIp (pairwise_adminIp_ne_polled net)]
  · cases hfind : net.polledDevices.find? fun device => device.adminIp == src with
    | none => rfl
    | some device =>
        obtain ⟨-, rfl⟩ := find?_polledDevices_eq_some_iff.mp hfind
        rw [Option.elim_some, Option.elim_some, beq_self_eq_true, List.filter_true]
  · intro device _ hother
    rw [beq_eq_false_iff_ne.mpr hother, List.filter_false, List.map_nil]

theorem via_resolve (device : Device) (route : Route) :
    (net.resolve device route).via =
      if device.isDirect route then none
      else net.owner? device.adminIp route.viaIp .hostMask := rfl

theorem viaIp?_resolve (device : Device) (route : Route) :
    (net.resolve device route).viaIp? =
      if device.isDirect route then none
      else net.ownerIp? device.adminIp route.viaIp .hostMask := by
  rw [ResolvedRoute.viaIp?, via_resolve]
  split <;> rfl

/-- A device that answered is not the next hop of its own routes. -/
theorem ne_adminIp_of_viaIp?_eq_some {device : Device} (hdevice : device ∈ net.polledDevices)
    {route : Route} {via : Address} (hvia : (net.resolve device route).viaIp? = some via) :
    via ≠ device.adminIp := by
  rw [viaIp?_resolve] at hvia
  split at hvia
  · cases hvia
  · exact ownerIp?_ne_observer hdevice hvia

/-- The arcs of the next hops are the forwarding directions. -/
theorem exists_mem_hops_iff {a b : Address} {tag : String} :
    (∃ resolved, ((⟨a, b, tag⟩ : Arc String), resolved) ∈ net.hops) ↔
      tag = NextHop.predicate ∧ net.Forwards a b := by
  constructor
  · rintro ⟨resolved, hmem⟩
    obtain ⟨found, hfound, harcs⟩ := List.mem_flatMap.mp hmem
    obtain ⟨hop, hhop, hpair⟩ := List.mem_map.mp harcs
    obtain ⟨harc, rfl⟩ := Prod.mk.inj hpair
    obtain ⟨rfl, rfl, rfl⟩ := Arc.mk.inj harc
    obtain ⟨device, hdevice, route, hroute, rfl⟩ := mem_resolvedRoutes_iff.mp hfound
    obtain ⟨hne, hforward⟩ := ResolvedRoute.mem_hops_iff.mp hhop
    exact ⟨rfl, hne, device, hdevice, rfl, route, hroute, hforward⟩
  · rintro ⟨rfl, hne, device, hdevice, rfl, route, hroute, hforward⟩
    refine ⟨net.resolve device route, List.mem_flatMap.mpr ⟨net.resolve device route, ?_, ?_⟩⟩
    · exact mem_resolvedRoutes_iff.mpr ⟨device, hdevice, route, hroute, rfl⟩
    · exact List.mem_map.mpr ⟨b, ResolvedRoute.mem_hops_iff.mpr ⟨hne, hforward⟩, rfl⟩

theorem isSome_getElem?_hops_iff {a b : Address} {tag : String} :
    (lastWrites net.hops)[(⟨a, b, tag⟩ : Arc String)]?.isSome ↔
      tag = NextHop.predicate ∧ net.Forwards a b := by
  rw [getElem?_lastWrites, isSome_lastWriteTo_iff, exists_mem_hops_iff]

/-- Every next-hop relation is the line of a pair that forwards both ways, or
the arrow of a direction without its reverse, and these are all there. -/
theorem mem_nextHopRelations_iff {relation : Relation} :
    relation ∈ net.nextHopRelations.toList ↔
      ∃ a b, net.Forwards a b ∧
        (net.Forwards b a ∧ a < b ∧ relation = NextHop.line a b .bidirectional ∨
          ¬ net.Forwards b a ∧ relation = NextHop.line a b .directed) := by
  have hreverse (a b : Address) (tag : String) :
      (⟨a, b, tag⟩ : Arc String).reverse = ⟨b, a, tag⟩ := rfl
  rw [nextHopRelations, mem_toList_drawn_iff (arc_eq_of_key_eq fun _ => rfl)]
  constructor
  · rintro ⟨⟨⟨a, b, tag⟩, value, back⟩, hpair, rfl⟩
    obtain ⟨hvalue, hback, horder⟩ := mem_pairUp_iff.mp hpair
    obtain ⟨rfl, hforward⟩ := isSome_getElem?_hops_iff.mp (Option.isSome_of_mem hvalue)
    refine ⟨a, b, hforward, ?_⟩
    rw [hreverse] at hback
    cases back with
    | some route =>
        have hbackward := (isSome_getElem?_hops_iff.mp (Option.isSome_of_mem hback)).2
        exact Or.inl ⟨hbackward, horder rfl, rfl⟩
    | none =>
        refine Or.inr ⟨fun hbackward => ?_, rfl⟩
        have hsome := isSome_getElem?_hops_iff.mpr ⟨rfl, hbackward⟩
        rw [hback] at hsome
        cases hsome
  · rintro ⟨a, b, hforward, hcases⟩
    obtain ⟨route, hroute⟩ := Option.isSome_iff_exists.mp
      (isSome_getElem?_hops_iff.mpr ⟨rfl, hforward⟩)
    rcases hcases with ⟨hbackward, hlt, rfl⟩ | ⟨hone, rfl⟩
    · obtain ⟨back, hback⟩ := Option.isSome_iff_exists.mp
        (isSome_getElem?_hops_iff.mpr ⟨rfl, hbackward⟩)
      exact ⟨⟨⟨a, b, NextHop.predicate⟩, route, some back⟩,
        mem_pairUp_iff.mpr ⟨hroute, hback, fun _ => hlt⟩, rfl⟩
    · have hnone : (lastWrites net.hops)[(⟨b, a, NextHop.predicate⟩ : Arc String)]? = none := by
        rw [← Option.not_isSome_iff_eq_none, isSome_getElem?_hops_iff]
        exact fun hbackward => hone hbackward.2
      exact ⟨⟨⟨a, b, NextHop.predicate⟩, route, none⟩,
        mem_pairUp_iff.mpr ⟨hroute, hnone, fun hsome => by cases hsome⟩, rfl⟩

/-- The arrows of a direction without its reverse, and the lines of a pair that
forwards both ways, are told apart by the order of the ends. -/
theorem nextHop_between_eq_line {a b : Address} {style : Relation.Style}
    (hmem : NextHop.line a b style ∈ net.nextHopRelations.toList) :
    net.nextHopRelations.between .nextHop a b = [NextHop.line a b style] := by
  apply RelationSet.between_eq_singleton hmem
  intro other hother _ hleft hright
  apply RelationSet.eq_of_mem_of_key_eq hother hmem
  obtain ⟨c, d, -, ⟨-, -, rfl⟩ | ⟨-, rfl⟩⟩ := mem_nextHopRelations_iff.mp hother
  · cases hleft
    cases hright
    rfl
  · cases hleft
    cases hright
    rfl

/-- Nothing leads from `a` to `b` when `a` does not forward to `b`, and nothing
either when the line of the pair starts at `b`. -/
theorem nextHop_between_eq_nil {a b : Address}
    (habsent : ¬ net.Forwards a b ∨ net.Forwards b a ∧ b < a) :
    net.nextHopRelations.between .nextHop a b = [] := by
  apply RelationSet.between_eq_nil
  rintro relation hmem - rfl rfl
  obtain ⟨c, d, hforward, ⟨-, hlt, rfl⟩ | ⟨hone, rfl⟩⟩ := mem_nextHopRelations_iff.mp hmem
  · rcases habsent with hnot | ⟨-, hgt⟩
    · exact hnot hforward
    · exact Address.not_lt_of_lt hlt hgt
  · rcases habsent with hnot | ⟨hback, -⟩
    · exact hnot hforward
    · exact hone hback

/-! ## The graph -/

/-- A next-hop edge comes from the line of its pair, or from its own arrow. -/
theorem forwards_of_mem_edges {x y : Address} {relation : Relation}
    (hmem : relation ∈ net.nextHopRelations.toList)
    (hedge : (⟨x, y, .nextHop⟩ : Edge) ∈ relation.edges) :
    net.Forwards x y ∧
      (net.Forwards y x ∧ x < y ∧ relation = NextHop.line x y .bidirectional ∨
        net.Forwards y x ∧ y < x ∧ relation = NextHop.line y x .bidirectional ∨
        ¬ net.Forwards y x ∧ relation = NextHop.line x y .directed) := by
  obtain ⟨a, b, hforward, ⟨hback, hlt, rfl⟩ | ⟨hone, rfl⟩⟩ := mem_nextHopRelations_iff.mp hmem
  · rw [NextHop.edges_line_bidirectional, List.mem_pair] at hedge
    rcases hedge with hedge | hedge
    · obtain ⟨rfl, rfl, -⟩ := Edge.mk.inj hedge
      exact ⟨hforward, Or.inl ⟨hback, hlt, rfl⟩⟩
    · obtain ⟨rfl, rfl, -⟩ := Edge.mk.inj hedge
      exact ⟨hback, Or.inr (Or.inl ⟨hforward, hlt, rfl⟩)⟩
  · rw [NextHop.edges_line_directed, List.mem_singleton] at hedge
    obtain ⟨rfl, rfl, -⟩ := Edge.mk.inj hedge
    exact ⟨hforward, Or.inr (Or.inr ⟨hone, rfl⟩)⟩

/-- Only one next-hop relation leads from one device to another. -/
theorem eq_of_mem_edges {x y : Address} {first second : Relation}
    (hfirst : first ∈ net.nextHopRelations.toList)
    (hsecond : second ∈ net.nextHopRelations.toList)
    (hfirstEdge : (⟨x, y, .nextHop⟩ : Edge) ∈ first.edges)
    (hsecondEdge : (⟨x, y, .nextHop⟩ : Edge) ∈ second.edges) : first = second := by
  obtain ⟨-, hcases⟩ := forwards_of_mem_edges hfirst hfirstEdge
  obtain ⟨-, hother⟩ := forwards_of_mem_edges hsecond hsecondEdge
  rcases hcases with ⟨hback, hlt, rfl⟩ | ⟨hback, hgt, rfl⟩ | ⟨hone, rfl⟩ <;>
    rcases hother with ⟨hback', hlt', rfl⟩ | ⟨hback', hgt', rfl⟩ | ⟨hone', rfl⟩
  · rfl
  · exact absurd hgt' (Address.not_lt_of_lt hlt)
  · exact absurd hback hone'
  · exact absurd hgt (Address.not_lt_of_lt hlt')
  · rfl
  · exact absurd hback hone'
  · exact absurd hback' hone
  · exact absurd hback' hone
  · rfl

/-- A forwarding direction is an edge of a next-hop relation, and only once. -/
theorem exists_count_edges_eq_one {x y : Address} (hforward : net.Forwards x y) :
    ∃ relation ∈ net.nextHopRelations.toList,
      relation.edges.count (⟨x, y, .nextHop⟩ : Edge) = 1 := by
  have hne : (⟨y, x, .nextHop⟩ : Edge) ≠ ⟨x, y, .nextHop⟩ := by
    intro heq
    exact hforward.1 (Edge.mk.inj heq).2.1
  by_cases hback : net.Forwards y x
  · rcases Address.lt_or_lt_of_ne hforward.1 with hlt | hgt
    · refine ⟨NextHop.line x y .bidirectional, mem_nextHopRelations_iff.mpr
        ⟨x, y, hforward, Or.inl ⟨hback, hlt, rfl⟩⟩, ?_⟩
      rw [NextHop.edges_line_bidirectional, List.count_cons_self, List.count_singleton,
        if_neg (by simpa using hne)]
    · refine ⟨NextHop.line y x .bidirectional, mem_nextHopRelations_iff.mpr
        ⟨y, x, hback, Or.inl ⟨hforward, hgt, rfl⟩⟩, ?_⟩
      rw [NextHop.edges_line_bidirectional, List.count_cons_of_ne hne, List.count_singleton_self]
  · refine ⟨NextHop.line x y .directed, mem_nextHopRelations_iff.mpr
      ⟨x, y, hforward, Or.inr ⟨hback, rfl⟩⟩, ?_⟩
    rw [NextHop.edges_line_directed, List.count_singleton_self]

/-- The next hop that a route resolves to is a device of the network. -/
theorem exists_device_of_viaIp?_eq_some {device : Device} {route : Route} {via : Address}
    (hvia : (net.resolve device route).viaIp? = some via) :
    ∃ other ∈ net.devices, other.adminIp = via := by
  rw [viaIp?_resolve] at hvia
  by_cases hdirect : device.isDirect route = true
  · rw [if_pos hdirect] at hvia
    cases hvia
  · rw [if_neg hdirect] at hvia
    exact exists_device_of_ownerIp?_eq_some hvia

/-- Both ends of a forwarding direction are devices of the network. -/
theorem Forwards.exists_devices {a b : Address} (hforward : net.Forwards a b) :
    (∃ device ∈ net.devices, device.adminIp = a) ∧ ∃ device ∈ net.devices, device.adminIp = b := by
  obtain ⟨-, device, hdevice, rfl, route, -, hcases⟩ := hforward
  refine ⟨⟨device, mem_devices_of_mem_polledDevices hdevice, rfl⟩, ?_⟩
  rcases hcases with hvia | ⟨-, hdestination⟩
  · exact exists_device_of_viaIp?_eq_some hvia
  · exact exists_device_of_mem_devicesIn hdestination

/-- The next-hop relations of the whole set are those of the routing tables. -/
theorem mem_relations_nextHop_iff {relation : Relation} (hkind : relation.kind = .nextHop) :
    relation ∈ net.relations.toList ↔ relation ∈ net.nextHopRelations.toList := by
  rw [mem_relations_iff, hkind]
  rfl

/-- A next-hop edge stands in the graph of the snapshot once for each forwarding
direction, and for nothing else. -/
theorem count_graph_nextHop (net : Network) (thresholds : Thresholds) (x y : Address) :
    (net.Forwards x y →
      (net.snapshot thresholds).graph.edges.count (⟨x, y, .nextHop⟩ : Edge) = 1) ∧
    (¬ net.Forwards x y →
      (net.snapshot thresholds).graph.edges.count (⟨x, y, .nextHop⟩ : Edge) = 0) := by
  have hnextHop {relation : Relation} (hmem : relation ∈ net.relations.toList)
      (hedge : (⟨x, y, .nextHop⟩ : Edge) ∈ relation.edges) :
      relation ∈ net.nextHopRelations.toList := by
    apply (mem_relations_nextHop_iff _).mp hmem
    rcases Relation.mem_edges_iff.mp hedge with heq | ⟨-, heq⟩
    · exact (Edge.mk.inj heq).2.2.symm
    · exact (Edge.mk.inj heq).2.2.symm
  constructor
  · intro hforward
    obtain ⟨relation, hmem, hone⟩ := exists_count_edges_eq_one hforward
    have hedge : (⟨x, y, .nextHop⟩ : Edge) ∈ relation.edges := by
      rw [← List.count_pos_iff, hone]
      exact Nat.one_pos
    obtain ⟨a, b, hends, hcases⟩ := mem_nextHopRelations_iff.mp hmem
    have hline : relation.kind = .nextHop ∧ relation.left = a ∧ relation.right = b := by
      rcases hcases with ⟨-, -, rfl⟩ | ⟨-, rfl⟩ <;> exact ⟨rfl, rfl, rfl⟩
    obtain ⟨hkind, rfl, rfl⟩ := hline
    apply count_graph_eq_one ((mem_relations_nextHop_iff hkind).mpr hmem)
      hends.exists_devices.1 hends.exists_devices.2 hone
    intro other hother hotherEdge
    exact eq_of_mem_edges (hnextHop hother hotherEdge) hmem hotherEdge hedge
  · intro hnot
    rw [List.count_eq_zero]
    intro hedge
    obtain ⟨relation, hmem, hedge⟩ := exists_relation_of_mem_graph hedge
    exact hnot (forwards_of_mem_edges (hnextHop hmem hedge) hedge).1

/-- For every pair of addresses the next-hop relations hold one line from the
smaller to the larger one when the two forward to each other, one arrow when
only one of them forwards, and nothing when neither does. No relation leads
from a device to itself, and the graph of the snapshot has one next-hop edge
for each forwarding direction and no other. -/
theorem nextHopRelations_eq_forwardingDirections (net : Network) (thresholds : Thresholds) :
    (∀ a b, a < b →
      (net.Forwards a b ∧ net.Forwards b a →
        net.nextHopRelations.between .nextHop a b = [NextHop.line a b .bidirectional] ∧
          net.nextHopRelations.between .nextHop b a = []) ∧
      (net.Forwards a b ∧ ¬ net.Forwards b a →
        net.nextHopRelations.between .nextHop a b = [NextHop.line a b .directed] ∧
          net.nextHopRelations.between .nextHop b a = []) ∧
      (¬ net.Forwards a b ∧ net.Forwards b a →
        net.nextHopRelations.between .nextHop a b = [] ∧
          net.nextHopRelations.between .nextHop b a = [NextHop.line b a .directed]) ∧
      (¬ net.Forwards a b ∧ ¬ net.Forwards b a →
        net.nextHopRelations.between .nextHop a b = [] ∧
          net.nextHopRelations.between .nextHop b a = [])) ∧
    (∀ relation ∈ net.nextHopRelations.toList,
      relation.kind = .nextHop ∧ relation.left ≠ relation.right) ∧
    ∀ x y,
      (net.Forwards x y →
        (net.snapshot thresholds).graph.edges.count (⟨x, y, .nextHop⟩ : Edge) = 1) ∧
      (¬ net.Forwards x y →
        (net.snapshot thresholds).graph.edges.count (⟨x, y, .nextHop⟩ : Edge) = 0) := by
  refine ⟨?_, ?_, count_graph_nextHop net thresholds⟩
  · intro a b hlt
    refine ⟨?_, ?_, ?_, ?_⟩
    · rintro ⟨hforward, hback⟩
      have hmem : NextHop.line a b .bidirectional ∈ net.nextHopRelations.toList :=
        mem_nextHopRelations_iff.mpr ⟨a, b, hforward, Or.inl ⟨hback, hlt, rfl⟩⟩
      exact ⟨nextHop_between_eq_line hmem, nextHop_between_eq_nil (Or.inr ⟨hforward, hlt⟩)⟩
    · rintro ⟨hforward, hnot⟩
      have hmem : NextHop.line a b .directed ∈ net.nextHopRelations.toList :=
        mem_nextHopRelations_iff.mpr ⟨a, b, hforward, Or.inr ⟨hnot, rfl⟩⟩
      exact ⟨nextHop_between_eq_line hmem, nextHop_between_eq_nil (Or.inl hnot)⟩
    · rintro ⟨hnot, hback⟩
      have hmem : NextHop.line b a .directed ∈ net.nextHopRelations.toList :=
        mem_nextHopRelations_iff.mpr ⟨b, a, hback, Or.inr ⟨hnot, rfl⟩⟩
      exact ⟨nextHop_between_eq_nil (Or.inl hnot), nextHop_between_eq_line hmem⟩
    · rintro ⟨hnot, hnotBack⟩
      exact ⟨nextHop_between_eq_nil (Or.inl hnot), nextHop_between_eq_nil (Or.inl hnotBack)⟩
  · intro relation hmem
    obtain ⟨a, b, hforward, ⟨-, -, rfl⟩ | ⟨-, rfl⟩⟩ := mem_nextHopRelations_iff.mp hmem
    · exact ⟨rfl, hforward.1⟩
    · exact ⟨rfl, hforward.1⟩

end Network

end NetTopology
