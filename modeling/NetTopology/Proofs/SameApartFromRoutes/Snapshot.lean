/-
# What the routes of one device can change

The routes of all devices are pooled before they become relations and tables:
next hops and selected paths are collected in maps that later routes overwrite,
next hops are paired with their reverse, and the table of each device is filtered
out of one list. Even so the routes of one device only decide about the next
hops that have it at one end, about the selected paths and the gateway edges
that start at it, and about its own routing table. Everything else that a cycle
shows is the same whatever routes it reports.
-/

import NetTopology.Proofs.Adjacency
import NetTopology.Proofs.Multicast
import NetTopology.Proofs.SameApartFromRoutes.Network
import NetTopology.Proofs.Selection
import NetTopology.Samples
import NetTopology.Snapshot

namespace NetTopology

/-- The two snapshots differ at most in what the routes of the device with the
address decide. -/
structure Snapshot.SameApartFromRoutes (ip : Address) (first second : Snapshot) : Prop where
  entities : first.entities = second.entities
  labels : first.labels = second.labels
  alerts : first.alerts = second.alerts
  /-- Relations of these kinds never come from routes. -/
  untouched : ∀ kind ∈ ([.declared, .link, .multicastUpstream, .multicastDownstream, .igmp] :
    List Relation.Kind), first.relations.ofKind kind = second.relations.ofKind kind
  /-- Next hops that do not have the device at one end. -/
  nextHops : ((first.relations.ofKind .nextHop).filter fun relation =>
      relation.left != ip && relation.right != ip) =
    (second.relations.ofKind .nextHop).filter fun relation =>
      relation.left != ip && relation.right != ip
  /-- Selected paths and gateway edges that start at another device. -/
  starting : ∀ kind ∈ ([.selection, .multicastGateway] : List Relation.Kind),
    ((first.relations.ofKind kind).filter fun relation => relation.left != ip) =
      (second.relations.ofKind kind).filter fun relation => relation.left != ip
  /-- All tables of the other devices. -/
  otherDetails : (first.details.filter fun details => details.target != ip) =
    second.details.filter fun details => details.target != ip
  /-- The descriptions and the interface tables of all devices. -/
  headers : (first.details.map fun details =>
      (details.target, details.systemInfo, details.interfaces)) =
    second.details.map fun details => (details.target, details.systemInfo, details.interfaces)

namespace Device

variable (device : Device)

theorem labels_withoutRoutes (rps bsrs : List Address) :
    device.withoutRoutes.labels rps bsrs = device.labels rps bsrs := by
  obtain ⟨entry, _ | observation⟩ := device <;> rfl

theorem ofDevice_withoutRoutes (thresholds : Thresholds) :
    Alert.ofDevice thresholds device.withoutRoutes = Alert.ofDevice thresholds device := by
  obtain ⟨entry, _ | observation⟩ := device <;> rfl

end Device

/-- A path looks the same when it is drawn from routes that show the same. -/
theorem Selection.relation_congr (path : Arc Address) {one other : ResolvedRoute}
    (hroute : one.route = other.route) (hinterface : one.interface = other.interface)
    (hunmodeled : one.hasUnmodeledVia = other.hasUnmodeledVia)
    (hvia : one.via.bind Owner.interface? = other.via.bind Owner.interface?) :
    relation path one = relation path other := by
  rw [relation, relation, leftLabels, leftLabels, middleLabels, middleLabels, rightLabels,
    rightLabels, hroute, hinterface, hunmodeled, hvia]

namespace Network.SameApartFromRoutes

variable {entry : CatalogEntry} {first second : Network}

/-! ## Entities, labels and alerts -/

theorem labels_eq (hsame : SameApartFromRoutes entry first second) (thresholds : Thresholds) :
    (first.snapshot thresholds).labels = (second.snapshot thresholds).labels := by
  have hrps : first.rendezvousPoints = second.rendezvousPoints :=
    hsame.flatMap_polledDevices_eq Device.pimRps_withoutRoutes
  have hbsrs : first.bootstrapRouters = second.bootstrapRouters :=
    hsame.flatMap_polledDevices_eq Device.pimBsrs_withoutRoutes
  show (first.devices.flatMap fun device =>
      device.labels first.rendezvousPoints first.bootstrapRouters) =
    second.devices.flatMap fun device =>
      device.labels second.rendezvousPoints second.bootstrapRouters
  rw [hrps, hbsrs]
  apply hsame.flatMap_devices_eq
  intro device
  exact device.labels_withoutRoutes _ _

/-! ## Relations that do not come from routes -/

theorem linkRelations_eq (hsame : SameApartFromRoutes entry first second) :
    first.linkRelations = second.linkRelations := by
  have hpeer : first.peerIp? = second.peerIp? := by
    funext device link
    exact hsame.ownerIp?_eq device.adminIp link.peerIp .hostMask
  have hadjacencies : first.adjacencies = second.adjacencies := by
    rw [adjacencies, adjacencies, hpeer]
    apply hsame.flatMap_polledDevices_eq
    intro device
    rw [device.links_withoutRoutes]
    rfl
  rw [linkRelations, linkRelations, hadjacencies]

theorem reporterIp?_eq (hsame : SameApartFromRoutes entry first second) :
    first.reporterIp? = second.reporterIp? := by
  funext device membership
  exact hsame.ownerIp?_eq device.adminIp membership.reporter .hostMask

theorem membershipRelations_eq (hsame : SameApartFromRoutes entry first second) :
    first.membershipRelations = second.membershipRelations := by
  rw [membershipRelations, membershipRelations, hsame.reporterIp?_eq, hsame.flatMap_polledDevices_eq]
  intro device
  rw [device.igmps_withoutRoutes]
  rfl

/-! ## Multicast trees -/

/-- The owner of a source is the same device in both networks, with the same
gateways unless it is the device that differs. -/
theorem originOf?_cases (hsame : SameApartFromRoutes entry first second) (source : Address) :
    (first.originOf? source = none ∧ second.originOf? source = none) ∨
    (∃ one other, first.originOf? source = some one ∧ second.originOf? source = some other ∧
      one.adminIp = entry.ip ∧ other.adminIp = entry.ip) ∨
    ∃ origin, first.originOf? source = some origin ∧ second.originOf? source = some origin := by
  have hadminIp : (first.originOf? source).map Device.adminIp =
      (second.originOf? source).map Device.adminIp := by
    rw [originOf?, originOf?, polledDevices, polledDevices, List.find?_filter, List.find?_filter]
    apply hsame.correspond_sameAddresses.map_find?_devices_eq
    · intro one other haddresses
      rw [haddresses.isPolled_eq, haddresses.ownsIp_eq]
    · intro one other haddresses
      exact haddresses.adminIp_eq
  cases hfirst : first.originOf? source with
  | none =>
      rw [hfirst] at hadminIp
      exact Or.inl ⟨rfl, Option.map_eq_none_iff.mp hadminIp.symm⟩
  | some one =>
      rw [hfirst] at hadminIp
      obtain ⟨other, hsecond, hip⟩ := Option.map_eq_some_iff.mp hadminIp.symm
      refine Or.inr ?_
      by_cases hown : one.adminIp = entry.ip
      · exact Or.inl ⟨one, other, rfl, hsecond, hown, hip.trans hown⟩
      · have hone := hsame.mem_polledDevices (List.mem_of_find?_eq_some hfirst) hown
        have hother : other ∈ second.polledDevices := List.mem_of_find?_eq_some hsecond
        obtain rfl := eq_of_adminIp_eq (mem_devices_of_mem_polledDevices hone)
          (mem_devices_of_mem_polledDevices hother) hip.symm
        exact Or.inr ⟨one, rfl, hsecond⟩

theorem filter_gatewayEdges_eq (hsame : SameApartFromRoutes entry first second)
    (route : MulticastRoute) {key : Relation.Key}
    (hkey : key.kind = .multicastGateway → key.left ≠ entry.ip) :
    ((first.gatewayEdges route).filter fun relation => relation.key = key) =
      (second.gatewayEdges route).filter fun relation => relation.key = key := by
  have hnone (net : Network) (origin : Device) (hown : origin.adminIp = entry.ip) :
      (((net.gatewaysOf origin).map fun gateway =>
        Multicast.gatewayRelation route origin.adminIp gateway).filter fun relation =>
          relation.key = key) = [] := by
    rw [List.filter_eq_nil_iff]
    intro relation hmem hfound
    obtain ⟨gateway, -, rfl⟩ := List.mem_map.mp hmem
    obtain rfl := of_decide_eq_true hfound
    exact hkey rfl hown
  rw [gatewayEdges, gatewayEdges]
  rcases hsame.originOf?_cases route.source with
    ⟨hfirst, hsecond⟩ | ⟨one, other, hfirst, hsecond, hone, hother⟩ | ⟨origin, hfirst, hsecond⟩
  · rw [hfirst, hsecond]
  · rw [hfirst, hsecond]
    exact (hnone first one hone).trans (hnone second other hother).symm
  · have hgateways : first.gatewaysOf origin = second.gatewaysOf origin := by
      rw [gatewaysOf, gatewaysOf]
      apply List.filterMap_congr
      intro next _
      exact hsame.ownerIp?_eq origin.adminIp next.viaIp .hostMask
    rw [hfirst, hsecond]
    simp only [hgateways]

/-- A tree has the same edges apart from those over the gateways of the device. -/
theorem get?_multicastRelations_eq (hsame : SameApartFromRoutes entry first second)
    {key : Relation.Key} (hkey : key.kind = .multicastGateway → key.left ≠ entry.ip) :
    first.multicastRelations.get? key = second.multicastRelations.get? key := by
  have hupstream : first.upstreamEdges = second.upstreamEdges := by
    funext device route
    rw [upstreamEdges, upstreamEdges, hsame.ownerIp?_eq]
  have hdownstream : first.downstreamEdges = second.downstreamEdges := by
    funext device route
    rw [downstreamEdges, downstreamEdges, hsame.reporterIp?_eq]
  rw [multicastRelations, multicastRelations]
  apply RelationSet.get?_ofList_congr
  simp only [List.filter_flatMap, List.filter_append, hupstream, hdownstream,
    fun route => hsame.filter_gatewayEdges_eq route hkey]
  apply hsame.flatMap_polledDevices_eq
  intro device
  obtain ⟨found, _ | observation⟩ := device <;> rfl

/-! ## Next hops -/

theorem forwards (hsame : SameApartFromRoutes entry first second) {a b : Address}
    (hother : a ≠ entry.ip) (hforward : first.Forwards a b) : second.Forwards a b := by
  obtain ⟨hne, device, hdevice, rfl, route, hroute, hhop⟩ := hforward
  rw [hsame.viaIp?_resolve_eq, hsame.destinations_resolve_eq] at hhop
  exact ⟨hne, device, hsame.mem_polledDevices hdevice hother, rfl, route, hroute, hhop⟩

theorem forwards_iff (hsame : SameApartFromRoutes entry first second) {a b : Address}
    (hother : a ≠ entry.ip) : first.Forwards a b ↔ second.Forwards a b :=
  ⟨hsame.forwards hother, hsame.symm.forwards hother⟩

/-- A next hop between two other devices is in both networks. -/
theorem mem_nextHopRelations (hsame : SameApartFromRoutes entry first second)
    {relation : Relation} (hleft : relation.left ≠ entry.ip) (hright : relation.right ≠ entry.ip)
    (hmem : relation ∈ first.nextHopRelations.toList) :
    relation ∈ second.nextHopRelations.toList := by
  obtain ⟨a, b, hforward, hcases⟩ := mem_nextHopRelations_iff.mp hmem
  have hends : relation.left = a ∧ relation.right = b := by
    rcases hcases with ⟨-, -, rfl⟩ | ⟨-, rfl⟩ <;> exact ⟨rfl, rfl⟩
  obtain ⟨rfl, rfl⟩ := hends
  rw [hsame.forwards_iff hleft] at hforward
  rw [hsame.forwards_iff hright] at hcases
  exact mem_nextHopRelations_iff.mpr ⟨_, _, hforward, hcases⟩

theorem get?_nextHopRelations_eq (hsame : SameApartFromRoutes entry first second)
    {key : Relation.Key} (hleft : key.left ≠ entry.ip) (hright : key.right ≠ entry.ip) :
    first.nextHopRelations.get? key = second.nextHopRelations.get? key := by
  apply RelationSet.get?_eq_of_mem_iff
  rintro relation rfl
  exact ⟨hsame.mem_nextHopRelations hleft hright, hsame.symm.mem_nextHopRelations hleft hright⟩

/-! ## Selected paths -/

theorem hasUnmodeledVia_resolve_eq (hsame : SameApartFromRoutes entry first second)
    (device : Device) (route : Route) :
    (first.resolve device route).hasUnmodeledVia =
      (second.resolve device route).hasUnmodeledVia := by
  rw [ResolvedRoute.hasUnmodeledVia_eq, ResolvedRoute.hasUnmodeledVia_eq,
    hsame.viaIp?_resolve_eq]
  rfl

/-- A path that starts at another device looks the same in both networks. -/
theorem map_relation_lastWriteTo_eq (hsame : SameApartFromRoutes entry first second)
    {path : Arc Address} (hother : path.left ≠ entry.ip) :
    (lastWriteTo path first.selections).map (Selection.relation path) =
      (lastWriteTo path second.selections).map (Selection.relation path) := by
  have hdrawn (net : Network) : (lastWriteTo path net.selections).map (Selection.relation path) =
      ((((net.resolvedRoutes.filter fun resolved => resolved.src == path.left).map fun resolved =>
        ((net.selectedBy resolved).filter fun hop =>
          (⟨path.left, hop.1, hop.2⟩ : Arc Address) = path).map fun _ =>
            Selection.relation path resolved).flatten).getLast?) := by
    rw [lastWriteTo_eq_getLast?, filter_selections, Option.map_map, ← List.getLast?_map,
      List.map_flatMap, List.flatMap_def]
    simp only [List.map_map]
    rfl
  rw [hdrawn, hdrawn]
  congr 2
  apply hsame.map_filter_src_eq hother
  intro device route
  have hselected : first.selectedBy (first.resolve device route) =
      second.selectedBy (second.resolve device route) :=
    selectedBy_congr hsame.catalog rfl rfl rfl (hsame.viaIp?_resolve_eq device route)
      (hsame.destinations_resolve_eq device route)
  have hrelation : Selection.relation path (first.resolve device route) =
      Selection.relation path (second.resolve device route) :=
    Selection.relation_congr path rfl rfl (hsame.hasUnmodeledVia_resolve_eq device route)
      (hsame.interface?_via_resolve_eq device route)
  rw [hselected, hrelation]

theorem mem_selectionRelations (hsame : SameApartFromRoutes entry first second)
    {relation : Relation} (hleft : relation.left ≠ entry.ip)
    (hmem : relation ∈ first.selectionRelations.toList) :
    relation ∈ second.selectionRelations.toList := by
  obtain ⟨path, resolved, hlast, rfl⟩ := mem_selectionRelations_iff.mp hmem
  have hdrawn := hsame.map_relation_lastWriteTo_eq hleft
  rw [hlast] at hdrawn
  obtain ⟨other, hother, hrelation⟩ := Option.map_eq_some_iff.mp hdrawn.symm
  exact mem_selectionRelations_iff.mpr ⟨path, other, hother, hrelation⟩

theorem get?_selectionRelations_eq (hsame : SameApartFromRoutes entry first second)
    {key : Relation.Key} (hleft : key.left ≠ entry.ip) :
    first.selectionRelations.get? key = second.selectionRelations.get? key := by
  apply RelationSet.get?_eq_of_mem_iff
  rintro relation rfl
  exact ⟨hsame.mem_selectionRelations hleft, hsame.symm.mem_selectionRelations hleft⟩

/-! ## All relations -/

/-- The relations of a kind that does not come from routes are the same. -/
theorem ofKind_relations_eq (hsame : SameApartFromRoutes entry first second)
    {kind : Relation.Kind}
    (hkind : kind ∈ ([.declared, .link, .multicastUpstream, .multicastDownstream, .igmp] :
      List Relation.Kind)) :
    first.relations.ofKind kind = second.relations.ofKind kind := by
  apply RelationSet.ofKind_eq
  intro key hfound
  rw [get?_relations, get?_relations, hfound]
  cases kind with
  | declared =>
      show first.catalog.declaredRelations.get? key = second.catalog.declaredRelations.get? key
      rw [hsame.catalog]
  | link =>
      show first.linkRelations.get? key = second.linkRelations.get? key
      rw [hsame.linkRelations_eq]
  | multicastUpstream | multicastDownstream =>
      apply hsame.get?_multicastRelations_eq
      rw [hfound]
      intro hgateway
      cases hgateway
  | igmp =>
      show first.membershipRelations.get? key = second.membershipRelations.get? key
      rw [hsame.membershipRelations_eq]
  | nextHop | selection | multicastGateway => simp at hkind

theorem filter_nextHops_eq (hsame : SameApartFromRoutes entry first second) :
    ((first.relations.ofKind .nextHop).filter fun relation =>
        relation.left != entry.ip && relation.right != entry.ip) =
      (second.relations.ofKind .nextHop).filter fun relation =>
        relation.left != entry.ip && relation.right != entry.ip := by
  apply RelationSet.filter_ofKind_eq fun key => key.left != entry.ip && key.right != entry.ip
  intro key hkind hends
  rw [Bool.and_eq_true, bne_iff_ne, bne_iff_ne] at hends
  rw [get?_relations, get?_relations, hkind]
  exact hsame.get?_nextHopRelations_eq hends.1 hends.2

/-- The relations of a kind that routes of the left end decide are the same when
they start at another device. -/
theorem filter_left_ofKind_eq (hsame : SameApartFromRoutes entry first second)
    {kind : Relation.Kind}
    (hkind : kind ∈ ([.selection, .multicastGateway] : List Relation.Kind)) :
    ((first.relations.ofKind kind).filter fun relation => relation.left != entry.ip) =
      (second.relations.ofKind kind).filter fun relation => relation.left != entry.ip := by
  apply RelationSet.filter_ofKind_eq fun key => key.left != entry.ip
  intro key hfound hleft
  rw [bne_iff_ne] at hleft
  rw [get?_relations, get?_relations, hfound]
  cases kind with
  | selection => exact hsame.get?_selectionRelations_eq hleft
  | multicastGateway => exact hsame.get?_multicastRelations_eq fun _ => hleft
  | _ => simp at hkind

/-! ## Tables -/

theorem routeRow_resolve_eq (hsame : SameApartFromRoutes entry first second)
    (device : Device) (route : Route) :
    first.routeRow (first.resolve device route) =
      second.routeRow (second.resolve device route) := by
  have hname : first.nameOf? = second.nameOf? := by
    funext ip
    exact hsame.correspond_sameAddresses.nameOf?_eq ip
  have hdisplay : first.displayName = second.displayName := by
    funext observer ip
    exact hsame.correspond_sameAddresses.displayName_eq observer ip
  have hdestination : first.destinationText (first.resolve device route) =
      second.destinationText (second.resolve device route) := by
    rw [destinationText, destinationText, hsame.destinations_resolve_eq, hname]
    rfl
  have hvia : first.viaText (first.resolve device route) =
      second.viaText (second.resolve device route) := by
    rw [viaText, viaText, hdisplay]
    rfl
  rw [routeRow, routeRow, hdestination, hvia]
  rfl

/-- All tables of another device are the same. -/
theorem detailsOf_eq (hsame : SameApartFromRoutes entry first second) {device : Device}
    (hother : device.adminIp ≠ entry.ip) :
    first.detailsOf first.resolvedRoutes device = second.detailsOf second.resolvedRoutes device := by
  rw [detailsOf, detailsOf, routeRows, routeRows,
    hsame.map_filter_src_eq hother hsame.routeRow_resolve_eq]

theorem filter_details_eq (hsame : SameApartFromRoutes entry first second) :
    (first.details.filter fun details => details.target != entry.ip) =
      second.details.filter fun details => details.target != entry.ip := by
  have hothers (net : Network) : (net.details.filter fun details => details.target != entry.ip) =
      (net.polledDevices.filter fun device => device.adminIp != entry.ip).map
        (net.detailsOf net.resolvedRoutes) := by
    rw [details, List.filter_map]
    rfl
  rw [hothers, hothers, hsame.filter_polledDevices_eq]
  apply List.map_congr_left
  intro device hmem
  exact hsame.detailsOf_eq (bne_iff_ne.mp (List.mem_filter.mp hmem).2)

theorem headers_eq (hsame : SameApartFromRoutes entry first second) :
    (first.details.map fun details =>
        (details.target, details.systemInfo, details.interfaces)) =
      second.details.map fun details =>
        (details.target, details.systemInfo, details.interfaces) := by
  have hheaders (net : Network) : (net.details.map fun details =>
      (details.target, details.systemInfo, details.interfaces)) =
        net.polledDevices.map fun device =>
          (device.adminIp, if device.systemInfo = "" then none else some device.systemInfo,
            (device.interfaces.filter fun interface =>
              interface.isActive && interface.name != "").map Interface.row) := by
    rw [details, List.map_map]
    rfl
  rw [hheaders, hheaders]
  apply hsame.map_polledDevices_eq
  intro device
  rw [device.systemInfo_withoutRoutes, device.interfaces_withoutRoutes]
  rfl

end Network.SameApartFromRoutes

namespace Network

/-! ## The snapshot -/

/-- Two cycles that differ at most in the routes of one device show the same
entities, labels and alerts, the same relations of the kinds that do not come
from routes, the same next hops between other devices, the same selected paths
and gateway edges from other devices, all tables of the other devices, and the
description and the interface table of the device itself. -/
theorem snapshot_sameApartFromRoutes (catalog : Catalog) (thresholds : Thresholds)
    (entry : CatalogEntry) (first second : ObservationSet) (hentry : entry ∈ catalog.entries)
    (hsame : first.SameApartFromRoutes entry.name second) :
    Snapshot.SameApartFromRoutes entry.ip ((⟨catalog, first⟩ : Network).snapshot thresholds)
      ((⟨catalog, second⟩ : Network).snapshot thresholds) := by
  let one : Network := ⟨catalog, first⟩
  let other : Network := ⟨catalog, second⟩
  have hnetworks : SameApartFromRoutes entry one other := ⟨rfl, hentry, hsame⟩
  exact
    { entities := hnetworks.map_devices_eq fun _ => rfl
      labels := hnetworks.labels_eq thresholds
      alerts := hnetworks.flatMap_devices_eq fun device => device.ofDevice_withoutRoutes thresholds
      untouched := fun _ hkind => hnetworks.ofKind_relations_eq hkind
      nextHops := hnetworks.filter_nextHops_eq
      starting := fun _ hkind => hnetworks.filter_left_ofKind_eq hkind
      otherDetails := hnetworks.filter_details_eq
      headers := hnetworks.headers_eq }

/-! ## A router that loses its only route -/

namespace Rerouted

/-- A router with a neighbour that is down. -/
def catalog : Catalog :=
  Sample.declare [("host", { ip := Sample.ip 10 0 0 2 }), ("router", { ip := Sample.ip 10 0 0 1 })]

def router : CatalogEntry :=
  .of "router" { ip := Sample.ip 10 0 0 1 }

/-- The router reports a route to the host. -/
def routed : Observation where
  interfaces := [Sample.interface "1" "eth0" (Sample.ip 10 0 0 1) Sample.lan]
  routes := [Sample.route (Sample.ip 10 0 0 2) .hostMask (Sample.ip 10 0 0 2) "static" 1 "1"]

def network (observations : ObservationSet) : Network :=
  ⟨catalog, observations⟩

/-- Without the route there are no relations, but the rest stays. -/
theorem snapshot_sameApartFromRoutes_unrouted :
    ∃ first second : ObservationSet, router ∈ catalog.entries ∧
      first.SameApartFromRoutes router.name second ∧
      (network first).relations.isEmpty = false ∧ (network second).relations.isEmpty = true ∧
      Snapshot.SameApartFromRoutes router.ip ((network first).snapshot {})
        ((network second).snapshot {}) := by
  let first : ObservationSet := (∅ : ObservationSet).insert "router" routed
  let second : ObservationSet := first.insert "router" { routed with routes := [] }
  have hentry : router ∈ catalog.entries := by decide
  have hsame : first.SameApartFromRoutes router.name second :=
    ObservationSet.sameApartFromRoutes_insert Std.ExtTreeMap.getElem?_insert_self []
  have hfirst : (network first).relations.isEmpty = false := by decide
  have hsecond : (network second).relations.isEmpty = true := by decide
  exact ⟨first, second, hentry, hsame, hfirst, hsecond,
    snapshot_sameApartFromRoutes catalog {} router first second hentry hsame⟩

end Rerouted

end Network

end NetTopology
