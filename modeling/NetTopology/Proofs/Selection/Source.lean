/-
# Selected paths that lead back to their source

A device that answered is never found as the owner of an address that it
observes, nor meant by a subnet of its own routes. The links of the catalog are
taken as they are declared, though, and a device may declare a link to itself.
Where such a link stands for the next hop of a route, the device is selected as
its own next hop, and where it stands for the destination, as its own
destination as well. No other path leads back to its source.
-/

import NetTopology.Proofs.Catalog.Links
import NetTopology.Proofs.Selection.Selecting

namespace NetTopology.Network

section

variable (net : Network) (device : Device) (route : Route)

/-- The ways in which a route selects its own device as the next hop towards an
address. In both of them nobody owns the next hop of the route, and the device
is linked to itself. -/
inductive SelectsItself : Address → Prop
  /-- There is no other link, so this one stands for the next hop. -/
  | onlyLink {dst : Address} (hforeign : ¬ device.LeadsToSelf route)
      (hunknown : (net.resolve device route).viaIp? = none)
      (hlinks : net.catalog.linkedAdminIps device.name = [device.adminIp])
      (hdst : dst ∈ (net.resolve device route).destinations) :
      SelectsItself dst
  /-- There are other links, and the device lies in the destination subnet. -/
  | someLink (hforeign : ¬ device.LeadsToSelf route)
      (hunknown : (net.resolve device route).viaIp? = none)
      (hself : device.name ∈ device.entry.links)
      (hlinks : (net.catalog.linkedAdminIps device.name).length ≠ 1)
      (hinside : device.adminIp.sameSubnet route.dstSubnet route.dstMask) :
      SelectsItself device.adminIp

end

variable {net : Network} {device : Device} {route : Route}

theorem adminIp_mem_linkedAdminIps_iff (hdevice : device ∈ net.devices) :
    device.adminIp ∈ net.catalog.linkedAdminIps device.name ↔ device.name ∈ device.entry.links :=
  Catalog.ip_mem_linkedAdminIps_iff (mem_devices_iff.mp hdevice).1

/-- A route that selects its own device is drawn as one whose next hop nobody owns. -/
theorem SelectsItself.color_relation {path : Arc Address} {dst : Address}
    (hitself : net.SelectsItself device route dst) :
    (Selection.relation path (net.resolve device route)).style.color = some .darkViolet := by
  rw [color_relation_eq_darkViolet_iff]
  cases hitself with
  | onlyLink hforeign hunknown _ _ => exact ⟨hforeign, hunknown⟩
  | someLink hforeign hunknown _ _ _ => exact ⟨hforeign, hunknown⟩

section

variable (hdevice : device ∈ net.polledDevices)

include hdevice

/-- A path that names its source leads over the source itself. -/
theorem Selects.selectsItself {via dst : Address} (hselects : net.Selects device route via dst)
    (hsource : via = device.adminIp ∨ dst = device.adminIp) :
    via = device.adminIp ∧ net.SelectsItself device route dst := by
  -- a destination of the route is another device, which leaves the next hop in the first case
  have hother {dst : Address} (hdst : dst ∈ (net.resolve device route).destinations) :
      dst ≠ device.adminIp := ne_observer_of_mem_devicesIn hdevice hdst
  cases hselects with
  | known hvia hdst hbehind =>
      exact absurd hsource (not_or.mpr ⟨ne_adminIp_of_viaIp?_eq_some hdevice hvia, hother hdst⟩)
  | onlyLink hforeign hunknown hlinks hdst hbehind =>
      have hvia := hsource.resolve_right (hother hdst)
      rw [hvia] at hlinks
      exact ⟨hvia, .onlyLink hforeign hunknown hlinks hdst⟩
  | someLink hforeign hunknown hlinks hmem hinside =>
      have hdst := or_self_iff.mp hsource
      rw [hdst] at hmem hinside ⊢
      have hself := (adminIp_mem_linkedAdminIps_iff
        (mem_devices_of_mem_polledDevices hdevice)).mp hmem
      exact ⟨rfl, .someLink hforeign hunknown hself hlinks hinside⟩
  | direct hself hdst => exact absurd (or_self_iff.mp hsource) (hother hdst)

theorem SelectsItself.selects {dst : Address} (hitself : net.SelectsItself device route dst) :
    net.Selects device route device.adminIp dst := by
  cases hitself with
  | onlyLink hforeign hunknown hlinks hdst =>
      exact .onlyLink hforeign hunknown hlinks hdst (ne_observer_of_mem_devicesIn hdevice hdst)
  | someLink hforeign hunknown hself hlinks hinside =>
      have hmem := (adminIp_mem_linkedAdminIps_iff
        (mem_devices_of_mem_polledDevices hdevice)).mpr hself
      exact .someLink hforeign hunknown hlinks hmem hinside

theorem SelectsItself.mem_links {dst : Address} (hitself : net.SelectsItself device route dst) :
    device.name ∈ device.entry.links := by
  cases hitself with
  | onlyLink _ _ hlinks _ =>
      rw [← adminIp_mem_linkedAdminIps_iff (mem_devices_of_mem_polledDevices hdevice), hlinks]
      exact List.mem_singleton_self device.adminIp
  | someLink _ _ hself _ _ => exact hself

end

/-- A relation that names its source is drawn from a route that selects its own device. -/
theorem exists_selectsItself_of_mem_selectionRelations {relation : Relation}
    (hmem : relation ∈ net.selectionRelations.toList)
    (hsource : relation.left = relation.right ∨ relation.dst = some relation.left) :
    ∃ device ∈ net.polledDevices, ∃ route ∈ device.routes, ∃ dst,
      net.SelectsItself device route dst ∧
        Selection.relation ⟨device.adminIp, device.adminIp, dst⟩ (net.resolve device route) =
          relation := by
  obtain ⟨device, hdevice, route, via, dst, hlast, rfl⟩ :=
    mem_selectionRelations_iff_exists_last.mp hmem
  obtain ⟨rfl, hitself⟩ :=
    hlast.selects.selectsItself hdevice (hsource.imp Eq.symm Option.some.inj)
  exact ⟨device, hdevice, route, hlast.mem_routes, dst, hitself, rfl⟩

/-- No selection relation names its source as the next hop or as the destination
exactly when no route selects its own device. A relation that does has its source
as the next hop in any case. It is dark violet, and the catalog links its source
to itself. -/
theorem selectionRelations_avoid_source_iff (net : Network) :
    ((∀ relation ∈ net.selectionRelations.toList,
        relation.left ≠ relation.right ∧ relation.dst ≠ some relation.left) ↔
      ∀ device ∈ net.polledDevices, ∀ route ∈ device.routes, ∀ dst,
        ¬ net.SelectsItself device route dst) ∧
    ∀ relation ∈ net.selectionRelations.toList,
      relation.left = relation.right ∨ relation.dst = some relation.left →
        relation.left = relation.right ∧ relation.style.color = some .darkViolet ∧
          ∃ device ∈ net.polledDevices, device.adminIp = relation.left ∧
            device.name ∈ device.entry.links := by
  refine ⟨⟨?_, ?_⟩, ?_⟩
  · intro havoid device hdevice route hroute dst hitself
    obtain ⟨last, hlast⟩ := exists_selectsLast hroute (hitself.selects hdevice)
    have hmem := mem_selectionRelations_iff_exists_last.mpr
      ⟨device, hdevice, last, device.adminIp, dst, hlast, rfl⟩
    exact (havoid _ hmem).1 rfl
  · intro hnone relation hmem
    rw [← not_or]
    intro hsource
    obtain ⟨device, hdevice, route, hroute, dst, hitself, -⟩ :=
      exists_selectsItself_of_mem_selectionRelations hmem hsource
    exact hnone device hdevice route hroute dst hitself
  · intro relation hmem hsource
    obtain ⟨device, hdevice, route, -, dst, hitself, rfl⟩ :=
      exists_selectsItself_of_mem_selectionRelations hmem hsource
    exact ⟨rfl, hitself.color_relation, device, hdevice, rfl, hitself.mem_links hdevice⟩

/-! ## A router that is linked to itself -/

namespace SelfLink

/-- A router with a route to its own network, over an address that nobody has. -/
def router : Observation where
  routes :=
    [{ dstSubnet := Sample.ip 10 0 0 0, dstMask := Sample.ip 255 255 0 0,
       viaIp := Sample.ip 10 9 9 9 }]

/-- The router is linked to a server and to itself. -/
def network : Network where
  catalog := Sample.declare
    [("router", { ip := Sample.ip 10 0 0 1, links := ["router", "server"] }),
      ("server", { ip := Sample.ip 10 1 0 2, kind := .external })]
  observations := .ofList [("router", router)]

/-- The router is drawn as the next hop to itself. -/
theorem exists_selection_of_source :
    ∃ relation ∈ network.selectionRelations.toList,
      relation.left = relation.right ∧ relation.dst = some relation.left := by
  decide +kernel

/-- A selection relation can name its source as the next hop and as the destination. -/
theorem not_forall_selection_avoids_source :
    ¬ ∀ net : Network, ∀ relation ∈ net.selectionRelations.toList,
      relation.left ≠ relation.right ∧ relation.dst ≠ some relation.left := by
  intro hall
  obtain ⟨relation, hmem, hright, -⟩ := exists_selection_of_source
  exact (hall network relation hmem).1 hright

end SelfLink

end NetTopology.Network
