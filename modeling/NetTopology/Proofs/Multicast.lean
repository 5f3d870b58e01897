/-
# Multicast trees hold what the devices on them report

A multicast tree belongs to a group and a source other than `0.0.0.0`. Its
edges are read off the reports: where a device on the tree receives the traffic
from, who reported a membership of the group to it, and over which next hops
the first device that owns the source sends the traffic. The multicast relations
show every such edge under the predicate of its tree and nothing else. The
predicate names the tree, so the edges of two trees never replace each other,
and since an edge keeps its direction it is not replaced by its reverse either.
-/

import NetTopology.Proofs.Address.Text
import NetTopology.Proofs.NameOrder
import NetTopology.Proofs.Reconciliation

namespace NetTopology

namespace Multicast

/-- The key of an edge of the tree of `group` from `source`. -/
def key (kind : Relation.Kind) (left right group source : Address) : Relation.Key where
  kind := kind
  left := left
  right := right
  predicate := predicate group source

/-- The display predicate names the tree. -/
theorem eq_and_eq_of_predicate_eq {group source otherGroup otherSource : Address}
    (heq : predicate group source = predicate otherGroup otherSource) :
    group = otherGroup ∧ source = otherSource := by
  have htext := congrArg String.toList heq
  simp only [predicate, String.toList_append, List.append_assoc] at htext
  have hseparator : Address.isTextChar '_' = false := by decide
  obtain ⟨hgroup, hrest⟩ :=
    Address.eq_and_eq_of_toText_append_eq hseparator (List.append_cancel_left htext)
  have hsource : "from_".toList ++ source.toText.toList =
      "from_".toList ++ otherSource.toText.toList := hrest
  exact ⟨hgroup,
    Address.toText_injective (String.toList_injective (List.append_cancel_left hsource))⟩

theorem tree_eq_of_key_eq {kind otherKind : Relation.Kind}
    {left right group source otherLeft otherRight otherGroup otherSource : Address}
    (heq : key kind left right group source =
      key otherKind otherLeft otherRight otherGroup otherSource) :
    group = otherGroup ∧ source = otherSource :=
  eq_and_eq_of_predicate_eq (Relation.Key.mk.inj heq).2.2.2.2

end Multicast

namespace Network

variable (net : Network)

/-- The first device in the order of names, of those that answered, that owns
the address. -/
def IsFirstOwner (address : Address) (device : Device) : Prop :=
  device ∈ net.polledDevices ∧ device.ownsIp address ∧
    ∀ other ∈ net.polledDevices, other.ownsIp address → ¬ other.Precedes device

/-- A device that answered is on the tree of `group` from `source`. -/
def IsTree (group source : Address) : Prop :=
  ∃ device ∈ net.polledDevices, ∃ route ∈ device.mroutes,
    route.group = group ∧ route.source = source

/-- The edges of the tree of `group` from `source`, by their kind and ends. -/
inductive TreeEdge (group source : Address) : Relation.Kind → Address → Address → Prop
  /-- A device on the tree receives the traffic from another one. -/
  | upstream {device : Device} {route : MulticastRoute} {upstream : Address}
      (hdevice : device ∈ net.polledDevices) (hroute : route ∈ device.mroutes)
      (hgroup : route.group = group) (hsource : route.source = source)
      (howner : net.ownerIp? device.adminIp route.upstream .hostMask = some upstream) :
      TreeEdge group source .multicastUpstream upstream device.adminIp
  /-- A member of the group reported to a device on the tree. -/
  | downstream {device : Device} {route : MulticastRoute} {membership : Membership}
      {reporter : Address} (hdevice : device ∈ net.polledDevices)
      (hroute : route ∈ device.mroutes) (hgroup : route.group = group)
      (hsource : route.source = source) (hmembership : membership ∈ device.igmps)
      (hmember : membership.group = group)
      (howner : net.ownerIp? device.adminIp membership.reporter .hostMask = some reporter) :
      TreeEdge group source .multicastDownstream device.adminIp reporter
  /-- The owner of the source sends the traffic over a next hop. -/
  | gateway {origin : Device} {route : Route} {gateway : Address}
      (htree : net.IsTree group source) (horigin : net.IsFirstOwner source origin)
      (hroute : route ∈ origin.routes) (hvia : route.viaIp ≠ .unspecified)
      (howner : net.ownerIp? origin.adminIp route.viaIp .hostMask = some gateway) :
      TreeEdge group source .multicastGateway origin.adminIp gateway

variable {net}

theorem originOf?_eq_some_iff {source : Address} {origin : Device} :
    net.originOf? source = some origin ↔ net.IsFirstOwner source origin :=
  find?_eq_some_iff_of_pairwise ((pairwise_precedes net).filter _) fun _ _ => Device.Precedes.asymm

theorem mem_treeEntries_iff {device : Device} {route : MulticastRoute} :
    route ∈ device.treeEntries ↔ route ∈ device.mroutes ∧ route.source ≠ .unspecified := by
  simp [Device.treeEntries, MulticastRoute.isLocal]

/-! ## The edges of one entry -/

theorem mem_upstreamEdges_iff {device : Device} {route : MulticastRoute} {relation : Relation} :
    relation ∈ net.upstreamEdges device route ↔
      ∃ upstream, net.ownerIp? device.adminIp route.upstream .hostMask = some upstream ∧
        Multicast.upstreamRelation route upstream device.adminIp = relation := by
  simp only [upstreamEdges, List.mem_map, Option.mem_toList]

theorem mem_downstreamEdges_iff {device : Device} {route : MulticastRoute}
    {relation : Relation} :
    relation ∈ net.downstreamEdges device route ↔
      ∃ membership ∈ device.igmps, membership.group = route.group ∧
        ∃ reporter, net.reporterIp? device membership = some reporter ∧
          Multicast.downstreamRelation route membership device.adminIp reporter = relation := by
  simp only [downstreamEdges, List.mem_filterMap, List.mem_filter, beq_iff_eq,
    Option.map_eq_some_iff, and_assoc]

theorem mem_gatewaysOf_iff {origin : Device} {gateway : Address} :
    gateway ∈ net.gatewaysOf origin ↔
      ∃ route ∈ origin.routes, route.viaIp ≠ .unspecified ∧
        net.ownerIp? origin.adminIp route.viaIp .hostMask = some gateway := by
  simp only [gatewaysOf, Route.isAttached, List.mem_filterMap, List.mem_filter,
    Bool.not_eq_true', beq_eq_false_iff_ne, and_assoc, ne_eq]

theorem mem_gatewayEdges_iff {route : MulticastRoute} {relation : Relation} :
    relation ∈ net.gatewayEdges route ↔
      ∃ origin, net.originOf? route.source = some origin ∧ ∃ gateway ∈ net.gatewaysOf origin,
        Multicast.gatewayRelation route origin.adminIp gateway = relation := by
  rw [gatewayEdges]
  cases net.originOf? route.source <;> simp

/-- The edges that one entry of a device contributes. -/
theorem treeEdge_of_mem {device : Device} {route : MulticastRoute} {relation : Relation}
    (hdevice : device ∈ net.polledDevices) (hroute : route ∈ device.mroutes)
    (hmem : relation ∈ net.upstreamEdges device route ++ net.downstreamEdges device route ++
      net.gatewayEdges route) :
    net.TreeEdge route.group route.source relation.kind relation.left relation.right ∧
      relation.style = .directed ∧
      relation.key = Multicast.key relation.kind relation.left relation.right route.group
        route.source := by
  rw [List.mem_append, List.mem_append] at hmem
  rcases hmem with (hmem | hmem) | hmem
  · obtain ⟨upstream, howner, rfl⟩ := mem_upstreamEdges_iff.mp hmem
    exact ⟨.upstream hdevice hroute rfl rfl howner, rfl, rfl⟩
  · obtain ⟨membership, hmembership, hmember, reporter, howner, rfl⟩ :=
      mem_downstreamEdges_iff.mp hmem
    exact ⟨.downstream hdevice hroute rfl rfl hmembership hmember howner, rfl, rfl⟩
  · obtain ⟨origin, horigin, gateway, hgateway, rfl⟩ := mem_gatewayEdges_iff.mp hmem
    obtain ⟨next, hnext, hvia, howner⟩ := mem_gatewaysOf_iff.mp hgateway
    exact ⟨.gateway ⟨device, hdevice, route, hroute, rfl, rfl⟩ (originOf?_eq_some_iff.mp horigin)
      hnext hvia howner, rfl, rfl⟩

/-- Every edge of a tree is contributed by an entry of the tree. -/
theorem TreeEdge.exists_mem {group source left right : Address} {kind : Relation.Kind}
    (hedge : net.TreeEdge group source kind left right) :
    ∃ device ∈ net.polledDevices, ∃ route ∈ device.mroutes, route.source = source ∧
      ∃ relation ∈ net.upstreamEdges device route ++ net.downstreamEdges device route ++
        net.gatewayEdges route,
        relation.key = Multicast.key kind left right group source := by
  simp only [List.mem_append]
  cases hedge with
  | upstream hdevice hroute hgroup hsource howner =>
      subst hgroup hsource
      exact ⟨_, hdevice, _, hroute, rfl, _,
        Or.inl (Or.inl (mem_upstreamEdges_iff.mpr ⟨_, howner, rfl⟩)), rfl⟩
  | downstream hdevice hroute hgroup hsource hmembership hmember howner =>
      subst hgroup hsource
      exact ⟨_, hdevice, _, hroute, rfl, _, Or.inl (Or.inr (mem_downstreamEdges_iff.mpr
        ⟨_, hmembership, hmember, _, howner, rfl⟩)), rfl⟩
  | gateway htree horigin hroute hvia howner =>
      obtain ⟨device, hdevice, entry, hentry, rfl, rfl⟩ := htree
      exact ⟨_, hdevice, _, hentry, rfl, _, Or.inr (mem_gatewayEdges_iff.mpr
        ⟨_, originOf?_eq_some_iff.mpr horigin, _, mem_gatewaysOf_iff.mpr
          ⟨_, hroute, hvia, howner⟩, rfl⟩), rfl⟩

/-! ## The whole set -/

/-- Every multicast relation is contributed by an entry of a device. -/
theorem exists_entry_of_mem_multicastRelations {relation : Relation}
    (hmem : relation ∈ net.multicastRelations.toList) :
    ∃ device ∈ net.polledDevices, ∃ route ∈ device.mroutes, route.source ≠ .unspecified ∧
      relation ∈ net.upstreamEdges device route ++ net.downstreamEdges device route ++
        net.gatewayEdges route := by
  obtain ⟨device, hdevice, hentries⟩ :=
    List.mem_flatMap.mp (RelationSet.mem_of_mem_toList_ofList hmem)
  obtain ⟨route, hroute, hedges⟩ := List.mem_flatMap.mp hentries
  obtain ⟨hroute, hsource⟩ := mem_treeEntries_iff.mp hroute
  exact ⟨device, hdevice, route, hroute, hsource, hedges⟩

theorem exists_tree_of_mem_multicastRelations {relation : Relation}
    (hmem : relation ∈ net.multicastRelations.toList) :
    relation.style = .directed ∧ ∃ group source, source ≠ .unspecified ∧
      net.TreeEdge group source relation.kind relation.left relation.right ∧
      relation.key = Multicast.key relation.kind relation.left relation.right group source := by
  obtain ⟨device, hdevice, route, hroute, hsource, hedges⟩ :=
    exists_entry_of_mem_multicastRelations hmem
  obtain ⟨hedge, hstyle, hkey⟩ := treeEdge_of_mem hdevice hroute hedges
  exact ⟨hstyle, route.group, route.source, hsource, hedge, hkey⟩

/-- An edge to a gateway is labelled without data of a record. -/
theorem drawing_of_mem_multicastRelations {relation : Relation}
    (hmem : relation ∈ net.multicastRelations.toList) (hkind : relation.kind = .multicastGateway) :
    relation.drawing = { style := .directed, middleLabels := [.small "gateway" 2] } := by
  obtain ⟨device, -, route, -, -, hedges⟩ := exists_entry_of_mem_multicastRelations hmem
  rw [List.mem_append, List.mem_append] at hedges
  rcases hedges with (hupstream | hdownstream) | hgateway
  · obtain ⟨_, -, rfl⟩ := mem_upstreamEdges_iff.mp hupstream
    cases hkind
  · obtain ⟨_, -, -, _, -, rfl⟩ := mem_downstreamEdges_iff.mp hdownstream
    cases hkind
  · obtain ⟨_, -, _, -, rfl⟩ := mem_gatewayEdges_iff.mp hgateway
    rfl

/-- The keys of the multicast relations are those of the edges of the trees. -/
theorem isSome_get?_multicastRelations_iff {kind : Relation.Kind}
    {left right group source : Address} :
    (net.multicastRelations.get? (Multicast.key kind left right group source)).isSome ↔
      source ≠ .unspecified ∧ net.TreeEdge group source kind left right := by
  constructor
  · intro hsome
    obtain ⟨relation, hmem, hkey⟩ := RelationSet.isSome_get?_iff.mp hsome
    obtain ⟨-, foundGroup, foundSource, hsource, hedge, hfound⟩ :=
      exists_tree_of_mem_multicastRelations hmem
    obtain ⟨rfl, rfl⟩ := Multicast.tree_eq_of_key_eq (hfound.symm.trans hkey)
    obtain ⟨rfl, rfl, rfl, -⟩ := Relation.Key.mk.inj hkey
    exact ⟨hsource, hedge⟩
  · rintro ⟨hsource, hedge⟩
    obtain ⟨device, hdevice, route, hroute, rfl, relation, hmem, hkey⟩ := hedge.exists_mem
    apply RelationSet.isSome_get?_ofList_iff.mpr
    refine ⟨relation, List.mem_flatMap.mpr ⟨device, hdevice, List.mem_flatMap.mpr
      ⟨route, mem_treeEntries_iff.mpr ⟨hroute, hsource⟩, hmem⟩⟩, hkey⟩

/-- Every membership relation is drawn from a report whose reporter is known. -/
theorem exists_report_of_mem_membershipRelations {relation : Relation}
    (hmem : relation ∈ net.membershipRelations.toList) :
    ∃ device ∈ net.polledDevices, ∃ membership ∈ device.igmps, ∃ reporter,
      net.reporterIp? device membership = some reporter ∧
        Multicast.membershipRelation membership device.adminIp reporter = relation := by
  obtain ⟨device, hdevice, hreports⟩ :=
    List.mem_flatMap.mp (RelationSet.mem_of_mem_toList_ofList hmem)
  obtain ⟨membership, hmembership, hreporter⟩ := List.mem_filterMap.mp hreports
  obtain ⟨reporter, howner, hrelation⟩ := Option.map_eq_some_iff.mp hreporter
  exact ⟨device, hdevice, membership, hmembership, reporter, howner, hrelation⟩

/-- Every report whose reporter is known has a membership relation. -/
theorem exists_membershipRelation_of_report {device : Device} {membership : Membership}
    {reporter : Address} (hdevice : device ∈ net.polledDevices)
    (hmembership : membership ∈ device.igmps)
    (howner : net.reporterIp? device membership = some reporter) :
    ∃ relation ∈ net.membershipRelations.toList,
      relation.key = (Multicast.membershipRelation membership device.adminIp reporter).key := by
  apply RelationSet.isSome_get?_iff.mp
  apply RelationSet.isSome_get?_ofList_iff.mpr
  exact ⟨_, List.mem_flatMap.mpr ⟨device, hdevice, List.mem_filterMap.mpr
    ⟨membership, hmembership, Option.map_eq_some_iff.mpr ⟨reporter, howner, rfl⟩⟩⟩, rfl⟩

/-- A member on a tree is also shown as a member outside of any tree. -/
theorem TreeEdge.exists_membership {group source device reporter : Address}
    (hedge : net.TreeEdge group source .multicastDownstream device reporter) :
    ∃ relation ∈ net.membershipRelations.toList,
      relation.kind = .igmp ∧ relation.left = device ∧ relation.right = reporter := by
  cases hedge with
  | @downstream device route membership reporter hdevice _ _ _ hmembership _ howner =>
      obtain ⟨relation, hmem, hkey⟩ :=
        exists_membershipRelation_of_report hdevice hmembership howner
      obtain ⟨hkind, hleft, hright, -⟩ := Relation.Key.mk.inj hkey
      exact ⟨relation, hmem, hkind, hleft, hright⟩

/-- The multicast relations are exactly the edges of the trees, each under the
predicate of its tree. There is no tree from `0.0.0.0`, an edge is an arrow and
never joined with its reverse, different trees have different keys, and every
member that a tree leads to is also shown by a membership relation. -/
theorem multicastRelations_eq_treeEdges (net : Network) :
    (∀ kind left right group source,
      (net.multicastRelations.get? (Multicast.key kind left right group source)).isSome ↔
        source ≠ .unspecified ∧ net.TreeEdge group source kind left right) ∧
    (∀ relation ∈ net.multicastRelations.toList,
      relation.style = .directed ∧ ∃ group source, source ≠ .unspecified ∧
        relation.key = Multicast.key relation.kind relation.left relation.right group source) ∧
    (∀ kind left right group source otherKind otherLeft otherRight otherGroup otherSource,
      Multicast.key kind left right group source =
          Multicast.key otherKind otherLeft otherRight otherGroup otherSource →
        group = otherGroup ∧ source = otherSource) ∧
    ∀ relation ∈ net.multicastRelations.toList, relation.kind = .multicastDownstream →
      ∃ membership ∈ net.membershipRelations.toList,
        membership.kind = .igmp ∧ membership.left = relation.left ∧
          membership.right = relation.right := by
  refine ⟨?_, ?_, ?_, ?_⟩
  · intro kind left right group source
    exact isSome_get?_multicastRelations_iff
  · intro relation hmem
    obtain ⟨hstyle, group, source, hsource, -, hkey⟩ := exists_tree_of_mem_multicastRelations hmem
    exact ⟨hstyle, group, source, hsource, hkey⟩
  · intro kind left right group source otherKind otherLeft otherRight otherGroup otherSource heq
    exact Multicast.tree_eq_of_key_eq heq
  · intro relation hmem hkind
    obtain ⟨-, group, source, -, hedge, -⟩ := exists_tree_of_mem_multicastRelations hmem
    rw [hkind] at hedge
    exact hedge.exists_membership

end Network

end NetTopology
