/-
# Relations join devices

What the six parts of the reconciliation draw starts and ends at devices of the
catalog, wherever the ends are taken from: declared links, owners of addresses,
devices in a subnet, or the links that stand for an unknown next hop. The graph
of a snapshot therefore leaves out no relation, and its nodes are the devices in
the order of names. Apart from declared links, every relation was reported by a
device that answered, and one that leads in both directions by both of its ends.
-/

import NetTopology.Proofs.Adjacency
import NetTopology.Proofs.Catalog.Links
import NetTopology.Proofs.Multicast
import NetTopology.Proofs.Selection.Selecting

namespace NetTopology

namespace Catalog

variable {catalog : Catalog}

/-- A device of the catalog has this administrative address. -/
def HasIp (catalog : Catalog) (ip : Address) : Prop :=
  ∃ entry ∈ catalog.entries, entry.ip = ip

theorem hasIp_of_adminIp?_eq_some {name : String} {ip : Address}
    (hfound : catalog.adminIp? name = some ip) : catalog.HasIp ip := by
  obtain ⟨entry, hentry, -, hip⟩ := adminIp?_eq_some_iff.mp hfound
  exact ⟨entry, hentry, hip⟩

/-- A link to or from a device is declared between devices of the catalog. -/
theorem hasIp_of_mem_linkedAdminIps {name : String} {ip : Address}
    (hmem : ip ∈ catalog.linkedAdminIps name) : catalog.HasIp ip := by
  rcases mem_linkedAdminIps_iff.mp hmem with ⟨_, -, -, _, -, htarget⟩ | ⟨entry, hentry, -, hip⟩
  · exact hasIp_of_adminIp?_eq_some htarget
  · exact ⟨entry, hentry, hip⟩

end Catalog

/-- The end of a relation at which it was reported. A tree is reported by the
device that receives the traffic, and everything else by the left end. -/
def Relation.observer (relation : Relation) : Address :=
  match relation.kind with
  | .multicastUpstream => relation.right
  | _ => relation.left

namespace Network

section

variable (net : Network)

/-- A device with this administrative address answered. -/
def Answered (ip : Address) : Prop :=
  ∃ device ∈ net.polledDevices, device.adminIp = ip

/-- The ends of a relation are devices, and so is the destination if it has one. -/
structure Joins (relation : Relation) : Prop where
  left : net.catalog.HasIp relation.left
  right : net.catalog.HasIp relation.right
  dst : ∀ dst, relation.dst = some dst → net.catalog.HasIp dst

/-- A relation between devices that was reported by one that answered, and by
both ends if it leads in both directions. -/
structure Backed (relation : Relation) : Prop extends net.Joins relation where
  observer : net.Answered relation.observer
  both : relation.style.direction = .bidirectional →
    net.Answered relation.left ∧ net.Answered relation.right

end

variable {net : Network} {relation : Relation}

theorem hasIp_of_exists_device {ip : Address}
    (hdevice : ∃ device ∈ net.devices, device.adminIp = ip) : net.catalog.HasIp ip := by
  obtain ⟨device, hmem, rfl⟩ := hdevice
  exact ⟨device.entry, (mem_devices_iff.mp hmem).1, rfl⟩

theorem hasIp_iff_exists_device {ip : Address} :
    net.catalog.HasIp ip ↔ ∃ device ∈ net.devices, device.adminIp = ip := by
  constructor
  · rintro ⟨entry, hentry, rfl⟩
    exact ⟨⟨entry, net.observations[entry.name]?⟩, mem_devices_iff.mpr ⟨hentry, rfl⟩, rfl⟩
  · exact hasIp_of_exists_device

theorem Answered.hasIp {ip : Address} (hanswered : net.Answered ip) : net.catalog.HasIp ip := by
  obtain ⟨device, hdevice, rfl⟩ := hanswered
  exact hasIp_of_exists_device ⟨device, mem_devices_of_mem_polledDevices hdevice, rfl⟩

theorem hasIp_of_ownerIp?_eq_some {observer ip mask found : Address}
    (hfound : net.ownerIp? observer ip mask = some found) : net.catalog.HasIp found :=
  hasIp_of_exists_device (exists_device_of_ownerIp?_eq_some hfound)

/-- An arrow without a destination that its left end reported. -/
theorem Backed.of_arrow (hobserver : relation.observer = relation.left)
    (hdst : relation.dst = none) (hdirection : relation.style.direction = .directed)
    (hleft : net.Answered relation.left) (hright : net.catalog.HasIp relation.right) :
    net.Backed relation where
  left := hleft.hasIp
  right := hright
  dst dst hfound := by
    rw [hdst] at hfound
    cases hfound
  observer := by rwa [hobserver]
  both hboth := by
    rw [hdirection] at hboth
    cases hboth

/-- A line without a destination that both ends reported. -/
theorem Backed.of_line (hobserver : relation.observer = relation.left)
    (hdst : relation.dst = none) (hleft : net.Answered relation.left)
    (hright : net.Answered relation.right) : net.Backed relation where
  left := hleft.hasIp
  right := hright.hasIp
  dst dst hfound := by
    rw [hdst] at hfound
    cases hfound
  observer := by rwa [hobserver]
  both _ := ⟨hleft, hright⟩

/-! ## The parts -/

theorem joins_of_mem_declaredRelations
    (hmem : relation ∈ net.catalog.declaredRelations.toList) : net.Joins relation := by
  obtain ⟨⟨source, target⟩, hlink, rfl⟩ :=
    List.mem_map.mp (RelationSet.mem_of_mem_toList_ofList hmem)
  obtain ⟨entry, hentry, hip, name, -, hname⟩ := Catalog.mem_declaredLinks_iff.mp hlink
  exact
    { left := ⟨entry, hentry, hip⟩
      right := Catalog.hasIp_of_adminIp?_eq_some hname
      dst := fun _ hdst => by cases hdst }

theorem Forwards.answered {a b : Address} (hforward : net.Forwards a b) : net.Answered a := by
  obtain ⟨-, device, hdevice, hip, -⟩ := hforward
  exact ⟨device, hdevice, hip⟩

theorem backed_of_mem_nextHopRelations (hmem : relation ∈ net.nextHopRelations.toList) :
    net.Backed relation := by
  obtain ⟨a, b, hforward, hcases⟩ := mem_nextHopRelations_iff.mp hmem
  rcases hcases with ⟨hback, -, rfl⟩ | ⟨-, rfl⟩
  · exact .of_line rfl rfl hforward.answered hback.answered
  · exact .of_arrow rfl rfl rfl hforward.answered
      (hasIp_of_exists_device hforward.exists_devices.2)

/-- A route selects devices only, both as next hops and as destinations. -/
theorem Selects.hasIp {device : Device} {route : Route} {via dst : Address}
    (hselects : net.Selects device route via dst) :
    net.catalog.HasIp via ∧ net.catalog.HasIp dst := by
  have hdestination {dst : Address} (hdst : dst ∈ (net.resolve device route).destinations) :
      net.catalog.HasIp dst := hasIp_of_exists_device (exists_device_of_mem_devicesIn hdst)
  cases hselects with
  | known hvia hdst _ =>
      have hhop := hasIp_of_exists_device (exists_device_of_viaIp?_eq_some hvia)
      exact ⟨hhop, hdestination hdst⟩
  | onlyLink _ _ hlinks hdst _ =>
      have hlink : via ∈ net.catalog.linkedAdminIps device.name := by
        rw [hlinks]
        exact List.mem_singleton_self via
      exact ⟨Catalog.hasIp_of_mem_linkedAdminIps hlink, hdestination hdst⟩
  | someLink _ _ _ hlinked _ =>
      have hip := Catalog.hasIp_of_mem_linkedAdminIps hlinked
      exact ⟨hip, hip⟩
  | direct _ hdst => exact ⟨hdestination hdst, hdestination hdst⟩

theorem backed_of_mem_selectionRelations (hmem : relation ∈ net.selectionRelations.toList) :
    net.Backed relation := by
  obtain ⟨device, hdevice, route, via, dst, hlast, rfl⟩ :=
    mem_selectionRelations_iff_exists_last.mp hmem
  have hleft : net.Answered device.adminIp := ⟨device, hdevice, rfl⟩
  obtain ⟨hvia, hdst⟩ := hlast.selects.hasIp
  exact
    { left := hleft.hasIp
      right := hvia
      dst := fun dst hfound => by
        obtain rfl := Option.some.inj hfound
        exact hdst
      observer := hleft
      both := fun hdirection => by cases hdirection }

theorem answered_of_lastLink?_eq_some {a b : Address} {predicate : String} {link : Link}
    (hlast : net.lastLink? a b predicate = some link) :
    net.Answered a ∧ net.catalog.HasIp b := by
  obtain ⟨device, hdevice, hip, -, hpeer, -⟩ := exists_of_lastLink?_eq_some hlast
  exact ⟨⟨device, hdevice, hip⟩, hasIp_of_ownerIp?_eq_some hpeer⟩

theorem backed_of_mem_adjacencies (hmem : relation ∈ net.linkRelations.toList) :
    net.Backed relation := by
  obtain ⟨a, b, predicate, forth, hforth, hcases⟩ := mem_linkRelations_iff.mp hmem
  obtain ⟨hleft, hright⟩ := answered_of_lastLink?_eq_some hforth
  rcases hcases with ⟨back, hback, -, rfl⟩ | ⟨-, rfl⟩
  · exact .of_line rfl rfl hleft (answered_of_lastLink?_eq_some hback).1
  · exact .of_arrow rfl rfl rfl hleft hright

theorem backed_of_mem_multicastRelations (hmem : relation ∈ net.multicastRelations.toList) :
    net.Backed relation := by
  obtain ⟨hstyle, group, source, -, hedge, hkey⟩ := exists_tree_of_mem_multicastRelations hmem
  have hdst (dst : Address) (hfound : relation.dst = some dst) : net.catalog.HasIp dst := by
    have hnone : relation.dst = none := congrArg Relation.Key.dst hkey
    rw [hnone] at hfound
    cases hfound
  have hboth (hdirection : relation.style.direction = .bidirectional) :
      net.Answered relation.left ∧ net.Answered relation.right := by
    rw [hstyle] at hdirection
    cases hdirection
  have hends : net.Answered relation.observer ∧ net.catalog.HasIp relation.left ∧
      net.catalog.HasIp relation.right := by
    rw [Relation.observer]
    generalize relation.kind = kind, relation.left = left, relation.right = right at hedge
    cases hedge with
    | @upstream device _ _ hdevice _ _ _ howner =>
        have hanswered : net.Answered device.adminIp := ⟨device, hdevice, rfl⟩
        exact ⟨hanswered, hasIp_of_ownerIp?_eq_some howner, hanswered.hasIp⟩
    | @downstream device _ _ _ hdevice _ _ _ _ _ howner =>
        have hanswered : net.Answered device.adminIp := ⟨device, hdevice, rfl⟩
        exact ⟨hanswered, hanswered.hasIp, hasIp_of_ownerIp?_eq_some howner⟩
    | @gateway origin _ _ _ horigin _ _ howner =>
        have hanswered : net.Answered origin.adminIp := ⟨origin, horigin.1, rfl⟩
        exact ⟨hanswered, hanswered.hasIp, hasIp_of_ownerIp?_eq_some howner⟩
  exact
    { left := hends.2.1
      right := hends.2.2
      dst := hdst
      observer := hends.1
      both := hboth }

theorem backed_of_mem_membershipRelations (hmem : relation ∈ net.membershipRelations.toList) :
    net.Backed relation := by
  obtain ⟨device, hdevice, membership, -, reporter, howner, rfl⟩ :=
    exists_report_of_mem_membershipRelations hmem
  exact .of_arrow rfl rfl rfl ⟨device, hdevice, rfl⟩ (hasIp_of_ownerIp?_eq_some howner)

/-! ## All relations -/

/-- Relations of all kinds but the declared links were reported. -/
theorem backed_of_mem_relations (hmem : relation ∈ net.relations.toList)
    (hkind : relation.kind ≠ .declared) : net.Backed relation := by
  have hpart := mem_relations_iff.mp hmem
  cases hfound : relation.kind with
  | declared => exact absurd hfound hkind
  | nextHop =>
      rw [hfound] at hpart
      exact backed_of_mem_nextHopRelations hpart
  | selection =>
      rw [hfound] at hpart
      exact backed_of_mem_selectionRelations hpart
  | link =>
      rw [hfound] at hpart
      exact backed_of_mem_adjacencies hpart
  | multicastUpstream | multicastDownstream | multicastGateway =>
      rw [hfound] at hpart
      exact backed_of_mem_multicastRelations hpart
  | igmp =>
      rw [hfound] at hpart
      exact backed_of_mem_membershipRelations hpart

theorem joins_of_mem_relations (hmem : relation ∈ net.relations.toList) : net.Joins relation := by
  by_cases hkind : relation.kind = .declared
  · have hpart := mem_relations_iff.mp hmem
    rw [hkind] at hpart
    exact joins_of_mem_declaredRelations hpart
  · exact (backed_of_mem_relations hmem hkind).toJoins

/-! ## The graph -/

variable {thresholds : Thresholds}

theorem hasEntity_snapshot_of_hasIp {ip : Address} (hip : net.catalog.HasIp ip) :
    (net.snapshot thresholds).hasEntity ip :=
  hasEntity_snapshot_iff.mpr (hasIp_iff_exists_device.mp hip)

/-- Every relation has its edges in the graph. -/
theorem edges_graph_eq_flatMap (net : Network) (thresholds : Thresholds) :
    (net.snapshot thresholds).graph.edges = net.relations.toList.flatMap Relation.edges := by
  rw [edges_graph_snapshot, List.filter_eq_self.mpr]
  intro relation hmem
  have hjoins := joins_of_mem_relations hmem
  rw [hasEntity_snapshot_of_hasIp hjoins.left, hasEntity_snapshot_of_hasIp hjoins.right]
  rfl

theorem nodes_graph_eq_map (net : Network) (thresholds : Thresholds) :
    (net.snapshot thresholds).graph.nodes = net.devices.map Device.adminIp := by
  show (net.devices.map Device.entity).map Entity.id = _
  rw [List.map_map]
  rfl

end Network

/-- A line without arrows and one with two of them lead in both directions. -/
theorem Relation.edges_eq (relation : Relation) :
    relation.edges =
      ⟨relation.left, relation.right, relation.kind⟩ ::
        if relation.style.direction = .undirected ∨ relation.style.direction = .bidirectional then
          [⟨relation.right, relation.left, relation.kind⟩]
        else [] := by
  rw [edges, Style.isSymmetric]
  cases relation.style.direction <;> rfl

namespace Network

/-- The ends and the destination of every relation are devices of the catalog,
so all of them are known to the snapshot and its graph leaves out no relation:
it has a node for each device in the order of names, and in the order of keys
the edge from left to right of each relation, followed by the reverse one if
the line has no arrow or two. The addresses of the nodes differ. A relation that
is not a declared link was reported by a device that answered, which is its left
end, or the right end of an upstream edge, and both ends answered if its line
has two arrows. -/
theorem relations_join_devices (net : Network) (thresholds : Thresholds) :
    (∀ relation ∈ net.relations.toList,
      net.catalog.HasIp relation.left ∧ net.catalog.HasIp relation.right ∧
        (∀ dst, relation.dst = some dst → net.catalog.HasIp dst) ∧
        (net.snapshot thresholds).hasEntity relation.left ∧
        (net.snapshot thresholds).hasEntity relation.right) ∧
    ((net.snapshot thresholds).graph.nodes = net.catalog.entries.map (fun entry => entry.ip) ∧
      (net.snapshot thresholds).graph.nodes.Nodup ∧
      net.catalog.entries.Pairwise fun first second => compare first.name second.name = .lt) ∧
    ((net.snapshot thresholds).graph.edges =
        (net.relations.toList.flatMap fun relation =>
          ⟨relation.left, relation.right, relation.kind⟩ ::
            if relation.style.direction = .undirected ∨
                relation.style.direction = .bidirectional then
              [⟨relation.right, relation.left, relation.kind⟩]
            else []) ∧
      net.relations.toList.Pairwise fun first second => compare first.key second.key = .lt) ∧
    ∀ relation ∈ net.relations.toList, relation.kind ≠ .declared →
      net.Answered relation.observer ∧
        (relation.style.direction = .bidirectional →
          net.Answered relation.left ∧ net.Answered relation.right) := by
  refine ⟨?_, ⟨?_, ?_, ?_⟩, ⟨?_, ?_⟩, ?_⟩
  · intro relation hmem
    have hjoins := joins_of_mem_relations hmem
    exact ⟨hjoins.left, hjoins.right, hjoins.dst, hasEntity_snapshot_of_hasIp hjoins.left,
      hasEntity_snapshot_of_hasIp hjoins.right⟩
  · rw [nodes_graph_eq_map, devices, List.map_map]
    rfl
  · rw [nodes_graph_eq_map, List.Nodup, List.pairwise_map]
    exact pairwise_adminIp_ne net
  · exact net.catalog.pairwise_names
  · rw [edges_graph_eq_flatMap]
    apply List.flatMap_congr
    intro relation _
    exact relation.edges_eq
  · exact RelationSet.pairwise_keys_toList net.relations
  · intro relation hmem hkind
    have hbacked := backed_of_mem_relations hmem hkind
    exact ⟨hbacked.observer, hbacked.both⟩

end Network

end NetTopology
