/-
# Gateways and next hops

The device that owns the source of a multicast tree sends the traffic over its
gateways. They are found from the routes of that device, and so are the next
hops of the unicast topology, but only the latter leave out routes over one of
the device's own addresses. The gateways are therefore the next hops together
with the other devices that have such an address as well. Where no address of
the device is shared in this way, gateways and next hops are the same.
-/

import NetTopology.Proofs.Multicast
import NetTopology.Proofs.NextHop
import NetTopology.Samples

namespace NetTopology.Network

section

variable (net : Network)

/-- Where the gateway edges of a tree lead to. -/
def gatewayEnds (group source : Address) : List Address :=
  (net.multicastRelations.toList.filter fun relation =>
    relation.kind == .multicastGateway &&
      relation.predicate == Multicast.predicate group source).map fun relation => relation.right

/-- The owners of the next hops of a device, as its routes are resolved. -/
def nextHopsOf (device : Device) : List Address :=
  device.routes.filterMap fun route => (net.resolve device route).viaIp?

/-- The device has a route over an address that is its own and also that of `other`. -/
def SharesVia (device : Device) (other : Address) : Prop :=
  ∃ route ∈ device.routes, route.viaIp ≠ .unspecified ∧ device.ownsIp route.viaIp ∧
    net.ownerIp? device.adminIp route.viaIp .hostMask = some other

end

variable {net : Network}

theorem mem_gatewayEnds_iff {group source gateway : Address} :
    gateway ∈ net.gatewayEnds group source ↔
      source ≠ .unspecified ∧ ∃ origin, net.TreeEdge group source .multicastGateway origin gateway := by
  rw [gatewayEnds, List.mem_map]
  constructor
  · rintro ⟨relation, hmem, rfl⟩
    obtain ⟨hmem, hgateway⟩ := List.mem_filter.mp hmem
    rw [Bool.and_eq_true, beq_iff_eq, beq_iff_eq] at hgateway
    obtain ⟨hkind, hpredicate⟩ := hgateway
    obtain ⟨-, foundGroup, foundSource, hsource, hedge, hkey⟩ :=
      exists_tree_of_mem_multicastRelations hmem
    have hfound : relation.predicate = Multicast.predicate foundGroup foundSource :=
      congrArg Relation.Key.predicate hkey
    obtain ⟨rfl, rfl⟩ := Multicast.eq_and_eq_of_predicate_eq (hfound.symm.trans hpredicate)
    rw [hkind] at hedge
    exact ⟨hsource, relation.left, hedge⟩
  · rintro ⟨hsource, origin, hedge⟩
    obtain ⟨relation, hmem, hkey⟩ := RelationSet.isSome_get?_iff.mp
      (isSome_get?_multicastRelations_iff.mpr ⟨hsource, hedge⟩)
    obtain ⟨hkind, -, hright, -, hpredicate⟩ := Relation.Key.mk.inj hkey
    refine ⟨relation, List.mem_filter.mpr ⟨hmem, ?_⟩, hright⟩
    rw [Bool.and_eq_true, beq_iff_eq, beq_iff_eq]
    exact ⟨hkind, hpredicate⟩

theorem mem_nextHopsOf_iff {device : Device} {hop : Address} :
    hop ∈ net.nextHopsOf device ↔
      ∃ route ∈ device.routes, device.isDirect route = false ∧
        net.ownerIp? device.adminIp route.viaIp .hostMask = some hop := by
  simp only [nextHopsOf, List.mem_filterMap, viaIp?_resolve]
  constructor
  · rintro ⟨route, hroute, hvia⟩
    split at hvia
    · cases hvia
    · next hdirect => exact ⟨route, hroute, by simpa using hdirect, hvia⟩
  · rintro ⟨route, hroute, hdirect, howner⟩
    exact ⟨route, hroute, by simpa [hdirect] using howner⟩

/-- A route with a next hop either leads to another device, or over an address
of the device itself. -/
theorem mem_gatewaysOf_iff_or {origin : Device} {gateway : Address} :
    gateway ∈ net.gatewaysOf origin ↔
      gateway ∈ net.nextHopsOf origin ∨ net.SharesVia origin gateway := by
  have hdirect (route : Route) : origin.isDirect route = false ↔
      route.viaIp ≠ .unspecified ∧ ¬ origin.ownsIp route.viaIp := by
    simp [Device.isDirect, Route.isAttached]
  rw [mem_gatewaysOf_iff, mem_nextHopsOf_iff]
  constructor
  · rintro ⟨route, hroute, hvia, howner⟩
    by_cases hown : origin.ownsIp route.viaIp
    · exact Or.inr ⟨route, hroute, hvia, hown, howner⟩
    · exact Or.inl ⟨route, hroute, (hdirect route).mpr ⟨hvia, hown⟩, howner⟩
  · rintro (⟨route, hroute, hforeign, howner⟩ | ⟨route, hroute, hvia, -, howner⟩)
    · exact ⟨route, hroute, ((hdirect route).mp hforeign).1, howner⟩
    · exact ⟨route, hroute, hvia, howner⟩

theorem mem_gatewayEnds_iff_mem_gatewaysOf {group source : Address} {origin : Device}
    (htree : net.IsTree group source) (hsource : source ≠ .unspecified)
    (horigin : net.IsFirstOwner source origin) {gateway : Address} :
    gateway ∈ net.gatewayEnds group source ↔ gateway ∈ net.gatewaysOf origin := by
  rw [mem_gatewayEnds_iff, mem_gatewaysOf_iff]
  constructor
  · rintro ⟨-, left, hedge⟩
    cases hedge with
    | gateway _ hfirst hroute hvia howner =>
        have hsame := (originOf?_eq_some_iff.mpr horigin).symm.trans
          (originOf?_eq_some_iff.mpr hfirst)
        obtain rfl := Option.some.inj hsame
        exact ⟨_, hroute, hvia, howner⟩
  · rintro ⟨route, hroute, hvia, howner⟩
    exact ⟨hsource, origin.adminIp, .gateway htree horigin hroute hvia howner⟩

/-- The gateway edges of a tree lead to the next hops of the first owner of the
source, and to the devices with which it shares the address of a next hop. They
lead to the next hops alone exactly when those devices are next hops anyway. -/
theorem gatewayEnds_eq_nextHops_or_shared (net : Network) (group source : Address)
    (origin : Device) (htree : net.IsTree group source) (hsource : source ≠ .unspecified)
    (horigin : net.IsFirstOwner source origin) :
    (∀ gateway, gateway ∈ net.gatewayEnds group source ↔
      gateway ∈ net.nextHopsOf origin ∨ net.SharesVia origin gateway) ∧
    ((∀ gateway, gateway ∈ net.gatewayEnds group source ↔ gateway ∈ net.nextHopsOf origin) ↔
      ∀ gateway, net.SharesVia origin gateway → gateway ∈ net.nextHopsOf origin) := by
  have hends : ∀ gateway, gateway ∈ net.gatewayEnds group source ↔
      gateway ∈ net.nextHopsOf origin ∨ net.SharesVia origin gateway := by
    intro gateway
    rw [mem_gatewayEnds_iff_mem_gatewaysOf htree hsource horigin, mem_gatewaysOf_iff_or]
  refine ⟨hends, ?_⟩
  constructor
  · intro hsame gateway hshares
    exact (hsame gateway).mp ((hends gateway).mpr (Or.inr hshares))
  · intro hcovered gateway
    rw [hends gateway]
    exact ⟨fun hcases => hcases.elim id (hcovered gateway), Or.inl⟩

/-! ## Two routers with a virtual address -/

namespace VirtualGateway

/-- A router that owns the source of a stream, and has a route over the virtual
address `10.0.0.254` that it shares with another router. -/
def sender : Observation where
  interfaces :=
    [{ index := "1", ip := some (Sample.ip 10 0 0 1) },
      { index := "2", ip := some (Sample.ip 10 0 0 254) }]
  routes :=
    [{ dstSubnet := Sample.ip 10 1 0 0, dstMask := Sample.ip 255 255 0 0,
       viaIp := Sample.ip 10 0 0 254 }]

/-- The other router, which receives the stream. -/
def receiver : Observation where
  interfaces :=
    [{ index := "1", ip := some (Sample.ip 10 0 0 2) },
      { index := "2", ip := some (Sample.ip 10 0 0 254) }]
  mroutes :=
    [{ group := Sample.ip 226 1 1 1, source := Sample.ip 10 0 0 1,
       upstream := Sample.ip 10 0 0 1 }]

def network : Network where
  catalog := Sample.declare
    [("core-a", { ip := Sample.ip 10 0 0 1 }), ("core-b", { ip := Sample.ip 10 0 0 2 })]
  observations := .ofList [("core-a", sender), ("core-b", receiver)]

theorem isTree : network.IsTree (Sample.ip 226 1 1 1) (Sample.ip 10 0 0 1) := by
  unfold IsTree
  decide

/-- The sender has no next hop, because its route leads to itself. -/
theorem exists_isFirstOwner :
    ∃ origin, network.IsFirstOwner (Sample.ip 10 0 0 1) origin ∧ network.nextHopsOf origin = [] := by
  have hhops : (network.originOf? (Sample.ip 10 0 0 1)).map network.nextHopsOf = some [] := by
    decide
  obtain ⟨origin, horigin, hnone⟩ := Option.map_eq_some_iff.mp hhops
  exact ⟨origin, originOf?_eq_some_iff.mp horigin, hnone⟩

/-- The gateway edge of the stream leads to the device that shares the virtual address. -/
theorem gatewayEnds_eq_receiver :
    ∃ origin, network.IsTree (Sample.ip 226 1 1 1) (Sample.ip 10 0 0 1) ∧
      Sample.ip 10 0 0 1 ≠ .unspecified ∧ network.IsFirstOwner (Sample.ip 10 0 0 1) origin ∧
      network.gatewayEnds (Sample.ip 226 1 1 1) (Sample.ip 10 0 0 1) = [Sample.ip 10 0 0 2] ∧
      network.SharesVia origin (Sample.ip 10 0 0 2) := by
  have hsource : Sample.ip 10 0 0 1 ≠ .unspecified := by decide
  have hends : network.gatewayEnds (Sample.ip 226 1 1 1) (Sample.ip 10 0 0 1) =
      [Sample.ip 10 0 0 2] := by decide
  obtain ⟨origin, horigin, hnone⟩ := exists_isFirstOwner
  refine ⟨origin, isTree, hsource, horigin, hends, ?_⟩
  have hcases := ((gatewayEnds_eq_nextHops_or_shared network _ _ origin isTree hsource horigin).1
    (Sample.ip 10 0 0 2)).mp (by rw [hends]; exact List.mem_singleton_self _)
  rw [hnone] at hcases
  exact hcases.resolve_left List.not_mem_nil

/-- A route that leads to the device itself can yield a gateway. -/
theorem not_forall_gatewayEnds_eq_nextHops :
    ¬ ∀ (net : Network) (group source : Address) (origin : Device), net.IsTree group source →
      source ≠ .unspecified → net.IsFirstOwner source origin →
        ∀ gateway, gateway ∈ net.gatewayEnds group source ↔ gateway ∈ net.nextHopsOf origin := by
  intro hsame
  have hends : Sample.ip 10 0 0 2 ∈
      network.gatewayEnds (Sample.ip 226 1 1 1) (Sample.ip 10 0 0 1) := by decide
  obtain ⟨origin, horigin, hnone⟩ := exists_isFirstOwner
  have hhop := (hsame network _ _ origin isTree (by decide) horigin _).mp hends
  rw [hnone] at hhop
  exact List.not_mem_nil hhop

end VirtualGateway

end NetTopology.Network
