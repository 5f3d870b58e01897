/-
# Routes over a next hop that nobody owns

When nobody owns the next hop of a route, the links of the catalog take its
place. A route of this sort either shows in a selected path, or an error names
its destination, its next hop and its device, with one exception: with a single
linked device no error is ever logged, so that the route leaves no trace when no
other device lies in its destination.
-/

import NetTopology.Proofs.Address.Text
import NetTopology.Proofs.Selection.Selecting
import NetTopology.Reconciliation

namespace NetTopology

namespace Diagnostic

theorem message_unreachable (subnet via : Address) (device : String) :
    (unreachable subnet via device).message =
      "Couldn't find dst " ++ subnet.toText ++ " via " ++ via.toText ++ " from " ++ device := rfl

/-- The text of the error tells the destination, the next hop and the device. -/
theorem eq_of_message_unreachable_eq {subnet via otherSubnet otherVia : Address}
    {device other : String}
    (heq : (unreachable subnet via device).message =
      (unreachable otherSubnet otherVia other).message) :
    subnet = otherSubnet ∧ via = otherVia ∧ device = other := by
  have hblank : Address.isTextChar ' ' = false := by decide
  have hvia : " via ".toList = ' ' :: "via ".toList := rfl
  have hfrom : " from ".toList = ' ' :: "from ".toList := rfl
  rw [message_unreachable, message_unreachable] at heq
  have htext := congrArg String.toList heq
  simp only [String.toList_append, List.append_assoc, hvia, hfrom, List.cons_append] at htext
  obtain ⟨hsubnet, hrest⟩ :=
    Address.eq_and_eq_of_toText_append_eq hblank (List.append_cancel_left htext)
  obtain ⟨hhop, hname⟩ :=
    Address.eq_and_eq_of_toText_append_eq hblank (List.append_cancel_left hrest)
  exact ⟨hsubnet, hhop, String.toList_injective (List.append_cancel_left hname)⟩

end Diagnostic

namespace Network

section

variable (net : Network) (device : Device) (route : Route)

/-- A selection relation of the device shows a path that the route selects. -/
def IsShown : Prop :=
  ∃ relation ∈ net.selectionRelations.toList, relation.left = device.adminIp ∧
    ∃ dst, relation.dst = some dst ∧ net.Selects device route relation.right dst

/-- An error names the destination and the next hop of the route, and the device. -/
def IsReported : Prop :=
  ∃ diagnostic ∈ net.diagnosticsOf .selection, diagnostic.severity = .error ∧
    diagnostic.message =
      "Couldn't find dst " ++ route.dstSubnet.toText ++ " via " ++ route.viaIp.toText ++
        " from " ++ device.name

end

variable {net : Network} {device : Device} {route : Route}

/-- Every path that a route selects is shown, be it by the route itself or by a later one. -/
theorem isShown_iff (hdevice : device ∈ net.polledDevices) (hroute : route ∈ device.routes) :
    net.IsShown device route ↔ ∃ via dst, net.Selects device route via dst := by
  constructor
  · rintro ⟨relation, -, -, dst, -, hselects⟩
    exact ⟨relation.right, dst, hselects⟩
  · rintro ⟨via, dst, hselects⟩
    obtain ⟨last, hlast⟩ := exists_selectsLast hroute hselects
    exact ⟨_, mem_selectionRelations_iff_exists_last.mpr
      ⟨device, hdevice, last, via, dst, hlast, rfl⟩, rfl, dst, rfl, hselects⟩

/-- The errors of the routing tables are those about unexplained routes. -/
theorem mem_diagnosticsOf_selection_and_error_iff {diagnostic : Diagnostic} :
    diagnostic ∈ net.diagnosticsOf .selection ∧ diagnostic.severity = .error ↔
      ∃ device ∈ net.polledDevices, ∃ route ∈ device.routes,
        net.isUnexplained (net.resolve device route) ∧
          .unreachable route.dstSubnet route.viaIp device.name = diagnostic := by
  rw [diagnosticsOf, List.mem_append]
  constructor
  · rintro ⟨hwarning | herror, hseverity⟩
    · obtain ⟨resolved, -, hmissing⟩ := List.mem_filterMap.mp hwarning
      split at hmissing
      · cases hmissing
      · obtain rfl := Option.some.inj hmissing
        cases hseverity
    · obtain ⟨resolved, hmem, rfl⟩ := List.mem_map.mp herror
      obtain ⟨hresolved, hunexplained⟩ := List.mem_filter.mp hmem
      obtain ⟨device, hdevice, route, hroute, rfl⟩ := mem_resolvedRoutes_iff.mp hresolved
      exact ⟨device, hdevice, route, hroute, hunexplained, rfl⟩
  · rintro ⟨device, hdevice, route, hroute, hunexplained, rfl⟩
    have hresolved := mem_resolvedRoutes_iff.mpr ⟨device, hdevice, route, hroute, rfl⟩
    exact ⟨Or.inr (List.mem_map.mpr
      ⟨_, List.mem_filter.mpr ⟨hresolved, hunexplained⟩, rfl⟩), rfl⟩

/-- An unexplained route of the device is reported in the same words as any other
one that agrees with it in its destination address and next hop. -/
theorem isReported_iff (hdevice : device ∈ net.polledDevices) :
    net.IsReported device route ↔
      ∃ other ∈ device.routes, other.dstSubnet = route.dstSubnet ∧ other.viaIp = route.viaIp ∧
        net.isUnexplained (net.resolve device other) := by
  constructor
  · rintro ⟨diagnostic, hmem, hseverity, hmessage⟩
    obtain ⟨source, hsource, other, hother, hunexplained, rfl⟩ :=
      mem_diagnosticsOf_selection_and_error_iff.mp ⟨hmem, hseverity⟩
    obtain ⟨hsubnet, hvia, hname⟩ := Diagnostic.eq_of_message_unreachable_eq
      (hmessage.trans (Diagnostic.message_unreachable _ _ _).symm)
    obtain rfl := eq_of_name_eq (mem_devices_of_mem_polledDevices hsource)
      (mem_devices_of_mem_polledDevices hdevice) hname
    exact ⟨other, hother, hsubnet, hvia, hunexplained⟩
  · rintro ⟨other, hother, hsubnet, hvia, hunexplained⟩
    obtain ⟨hmem, hseverity⟩ := mem_diagnosticsOf_selection_and_error_iff.mpr
      ⟨device, hdevice, other, hother, hunexplained, rfl⟩
    refine ⟨_, hmem, hseverity, ?_⟩
    rw [Diagnostic.message_unreachable, hsubnet, hvia]

theorem isUnexplained_resolve_iff :
    net.isUnexplained (net.resolve device route) ↔
      (net.resolve device route).hasUnmodeledVia ∧
        (net.catalog.linkedAdminIps device.name).length ≠ 1 ∧
        net.linkedDestinations (net.resolve device route) = [] := by
  rw [isUnexplained, Bool.and_eq_true, Bool.and_eq_true, bne_iff_ne, List.isEmpty_iff, and_assoc]
  rfl

section

variable (hdevice : device ∈ net.polledDevices) (hroute : route ∈ device.routes)
  (hunmodeled : (net.resolve device route).hasUnmodeledVia)

include hdevice

/-- No error is ever logged about a device with a single link. -/
theorem not_isReported_of_onlyLink {link : Address}
    (hlinks : net.catalog.linkedAdminIps device.name = [link]) :
    ¬ net.IsReported device route := by
  rw [isReported_iff hdevice]
  rintro ⟨other, -, -, -, hunexplained⟩
  obtain ⟨-, hseveral, -⟩ := isUnexplained_resolve_iff.mp hunexplained
  rw [hlinks] at hseveral
  exact hseveral rfl

include hroute hunmodeled

/-- A single link shows the route if another device lies in the destination. -/
theorem isShown_iff_of_onlyLink {link : Address}
    (hlinks : net.catalog.linkedAdminIps device.name = [link]) :
    net.IsShown device route ↔ ∃ dst ∈ (net.resolve device route).destinations, dst ≠ link := by
  obtain ⟨hforeign, hunknown⟩ := hasUnmodeledVia_resolve_iff.mp hunmodeled
  rw [isShown_iff hdevice hroute]
  constructor
  · rintro ⟨via, dst, hselects⟩
    rw [← mem_selectedBy_iff, selectedBy_of_onlyLink hforeign hunknown hlinks, mem_over_iff]
      at hselects
    exact ⟨dst, hselects.2⟩
  · rintro ⟨dst, hdst, hother⟩
    exact ⟨link, dst, .onlyLink hforeign hunknown hlinks hdst hother⟩

/-- With several links, or none, a route that is not shown is reported. -/
theorem isShown_or_isReported_of_someLink
    (hlinks : (net.catalog.linkedAdminIps device.name).length ≠ 1) :
    net.IsShown device route ∨ net.IsReported device route := by
  obtain ⟨hforeign, hunknown⟩ := hasUnmodeledVia_resolve_iff.mp hunmodeled
  cases hinside : net.linkedDestinations (net.resolve device route) with
  | nil =>
      exact Or.inr ((isReported_iff hdevice).mpr ⟨route, hroute, rfl, rfl,
        isUnexplained_resolve_iff.mpr ⟨hunmodeled, hlinks, hinside⟩⟩)
  | cons link others =>
      have hmem : link ∈ net.linkedDestinations (net.resolve device route) := by
        rw [hinside]
        exact List.mem_cons_self
      obtain ⟨hlinked, hsame⟩ := mem_linkedDestinations_iff.mp hmem
      exact Or.inl ((isShown_iff hdevice hroute).mpr
        ⟨link, link, .someLink hforeign hunknown hlinks hlinked hsame⟩)

end

/-- A route over a next hop that nobody owns is shown or reported, unless its
device has a single link and no other device lies in the destination. -/
theorem isShown_or_isReported_iff (net : Network) (device : Device)
    (hdevice : device ∈ net.polledDevices) (route : Route) (hroute : route ∈ device.routes)
    (hunmodeled : (net.resolve device route).hasUnmodeledVia) :
    net.IsShown device route ∨ net.IsReported device route ↔
      ¬ ∃ link, net.catalog.linkedAdminIps device.name = [link] ∧
        ∀ dst ∈ (net.resolve device route).destinations, dst = link := by
  by_cases hlinks : (net.catalog.linkedAdminIps device.name).length = 1
  · obtain ⟨link, hlink⟩ := List.length_eq_one_iff.mp hlinks
    rw [or_iff_left (not_isReported_of_onlyLink hdevice hlink),
      isShown_iff_of_onlyLink hdevice hroute hunmodeled hlink, hlink]
    constructor
    · rintro ⟨dst, hdst, hother⟩ ⟨only, honly, hall⟩
      obtain rfl := (List.cons.inj honly).1
      exact hother (hall dst hdst)
    · intro htrace
      by_contra hnone
      push Not at hnone
      exact htrace ⟨link, rfl, hnone⟩
  · refine iff_of_true (isShown_or_isReported_of_someLink hdevice hroute hunmodeled hlinks) ?_
    rintro ⟨link, hlink, -⟩
    rw [hlink] at hlinks
    exact hlinks rfl

/-! ## A router with a single link -/

namespace SingleLink

/-- A router with a route to a network that nobody is in, over an address that
nobody has. -/
def router : Observation where
  interfaces := [{ index := "1", name := "eth0", ip := some (Sample.ip 10 0 0 1) }]
  routes :=
    [{ dstSubnet := Sample.ip 172 16 0 0, dstMask := Sample.ip 255 255 0 0,
       viaIp := Sample.ip 10 9 9 9, ifindex := some "1" }]

/-- The router is linked to a server and to nobody else. -/
def network : Network where
  catalog := Sample.declare
    [("router", { ip := Sample.ip 10 0 0 1, links := ["server"] }),
      ("server", { ip := Sample.ip 10 1 0 2, kind := .external })]
  observations := .ofList [("router", router)]

theorem exists_unmodeled :
    ∃ device ∈ network.polledDevices, ∃ route ∈ device.routes,
      (network.resolve device route).hasUnmodeledVia ∧
        network.catalog.linkedAdminIps device.name = [Sample.ip 10 1 0 2] ∧
        (network.resolve device route).destinations = [] := by
  decide +kernel

/-- The route of the router is neither shown nor reported. -/
theorem isShown_or_isReported_iff_router :
    ∃ device ∈ network.polledDevices, ∃ route ∈ device.routes,
      (network.resolve device route).hasUnmodeledVia ∧
        ¬ (network.IsShown device route ∨ network.IsReported device route) := by
  obtain ⟨device, hdevice, route, hroute, hunmodeled, hlinks, hnone⟩ := exists_unmodeled
  refine ⟨device, hdevice, route, hroute, hunmodeled, ?_⟩
  rw [isShown_or_isReported_iff network device hdevice route hroute hunmodeled, not_not, hnone]
  exact ⟨_, hlinks, List.forall_mem_nil _⟩

/-- A route over a next hop that nobody owns can be dropped without an error. -/
theorem not_forall_isShown_or_isReported :
    ¬ ∀ net : Network, ∀ device ∈ net.polledDevices, ∀ route ∈ device.routes,
      (net.resolve device route).hasUnmodeledVia →
        net.IsShown device route ∨ net.IsReported device route := by
  intro hall
  obtain ⟨device, hdevice, route, hroute, hunmodeled, -⟩ := exists_unmodeled
  have hselection : network.selectionRelations.toList = [] := by decide +kernel
  have hdiagnostics : network.diagnosticsOf .selection = [] := by decide +kernel
  rcases hall network device hdevice route hroute hunmodeled with hshown | hreported
  · obtain ⟨relation, hmem, -⟩ := hshown
    rw [hselection] at hmem
    exact List.not_mem_nil hmem
  · obtain ⟨diagnostic, hmem, -⟩ := hreported
    rw [hdiagnostics] at hmem
    exact List.not_mem_nil hmem

end SingleLink

end Network

end NetTopology
