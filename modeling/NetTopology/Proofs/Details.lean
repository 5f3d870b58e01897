/-
# The tables of a device show what it reported

The rows of a routing table are taken out of the resolved routes of all devices
by the administrative address of the device that reported them, and then put in
the order of a text that depends on the whole network. Administrative addresses
are identities, so the rows are those of the device's own routes, and the sort
is stable, so rows with one destination stay in the order of the report. What a
destination resolves to is a device of the catalog, so it always has a name.
-/

import NetTopology.Proofs.Owner.Name

namespace NetTopology

/-- Sorting keeps the order of elements that are not told apart by it. -/
theorem filter_mergeSort_eq {α : Type} {le : α → α → Bool} {keep : α → Bool}
    (htrans : ∀ first second third, le first second → le second third → le first third)
    (htotal : ∀ first second, le first second || le second first)
    (htied : ∀ first second, keep first → keep second → le first second) (items : List α) :
    (items.mergeSort le).filter keep = items.filter keep := by
  have hordered : (items.filter keep).Pairwise fun first second => le first second := by
    rw [List.pairwise_filter]
    exact List.pairwise_of_forall htied
  have hlength : (items.filter keep).length = ((items.mergeSort le).filter keep).length :=
    ((List.mergeSort_perm items le).filter keep).length_eq.symm
  -- what is kept is ordered already, so the sort leaves it as a sublist
  have hsublist := (List.sublist_mergeSort htrans htotal hordered List.filter_sublist).filter keep
  simp only [List.filter_filter, Bool.and_self] at hsublist
  exact (hsublist.eq_of_length hlength).symm

/-- Whether an interface stands in the interface table: it is able to
communicate and has a name. -/
def Interface.IsListed (interface : Interface) : Prop :=
  (interface.status = "up" ∨ interface.status = "dormant") ∧ interface.name ≠ ""

instance (interface : Interface) : Decidable interface.IsListed :=
  inferInstanceAs (Decidable (_ ∧ _))

theorem Interface.isActive_and_name_ne (interface : Interface) :
    (interface.isActive && interface.name != "") = decide interface.IsListed := by
  rw [Bool.eq_iff_iff, decide_eq_true_iff, Bool.and_eq_true, bne_iff_ne, isActive, Bool.or_eq_true,
    beq_iff_eq, beq_iff_eq]
  rfl

/-- The destination of a route as the route itself states it. -/
def Route.cidr (route : Route) : String :=
  route.dstSubnet.cidr route.dstMask

/-- A name makes a destination longer. -/
theorem Route.cidr_ne_name_append (route : Route) (name : String) :
    route.cidr ≠ name ++ " " ++ route.cidr := by
  intro heq
  have hlength := congrArg String.length heq
  rw [String.length_append, String.length_append] at hlength
  have hblank : " ".length = 1 := rfl
  omega

namespace RouteRow

/-- The order of the routing table. -/
def le (first second : RouteRow) : Bool :=
  (compare first.destination second.destination).isLE

theorem le_trans (first second third : RouteRow) (hfirst : first.le second)
    (hsecond : second.le third) : first.le third :=
  Std.TransCmp.isLE_trans hfirst hsecond

theorem le_total (first second : RouteRow) : first.le second || second.le first := by
  have hswap : compare second.destination first.destination =
      (compare first.destination second.destination).swap := Std.OrientedCmp.eq_swap
  rw [le, le, hswap]
  cases compare first.destination second.destination <;> rfl

theorem le_of_destination_eq {first second : RouteRow}
    (hsame : first.destination = second.destination) : first.le second := by
  have hequal : compare first.destination second.destination = .eq := by
    rw [hsame]
    exact Std.ReflCmp.compare_self
  rw [le, hequal]
  rfl

end RouteRow

namespace Network

section

variable (net : Network)

/-- The rows of a device's own routes, in the order of the report. -/
def reportedRows (device : Device) : List RouteRow :=
  device.routes.map fun route => net.routeRow (net.resolve device route)

/-- The tables are those of the device: they have one row for each of its
routes, ordered by destination and then by the report, and one row for each
interface that is listed, under the name of the interface and in the order of
the report. -/
structure Shows (device : Device) (details : DeviceDetails) : Prop where
  target : details.target = device.adminIp
  rows : details.routes.Perm (net.reportedRows device)
  ordered : details.routes.Pairwise fun first second =>
    compare first.destination second.destination ≠ .gt
  stable : ∀ destination,
    (details.routes.filter fun row => row.destination = destination) =
      (net.reportedRows device).filter fun row => row.destination = destination
  interfaces : details.interfaces =
    (device.interfaces.filter fun interface => interface.IsListed).map Interface.row
  names : details.interfaces.map InterfaceRow.name =
    (device.interfaces.filter fun interface => interface.IsListed).map Interface.name

/-- The destination of a route is shown under the name of the device in it if
there is just one, and without a name otherwise. -/
structure NamesDestination (resolved : ResolvedRoute) : Prop where
  named_iff : (∃ name, (net.routeRow resolved).destination =
      name ++ " " ++ resolved.route.cidr) ↔ ∃ dst, resolved.destinations = [dst]
  of_single : ∀ dst, resolved.destinations = [dst] →
    ∃ device ∈ net.devices, device.adminIp = dst ∧
      (net.routeRow resolved).destination = device.name ++ " " ++ resolved.route.cidr
  of_not_single : (∀ dst, resolved.destinations ≠ [dst]) →
    (net.routeRow resolved).destination = resolved.route.cidr

end

variable {net : Network} {device : Device}

/-! ## Routing tables -/

theorem routeRows_eq (hdevice : device ∈ net.polledDevices) :
    net.routeRows net.resolvedRoutes device =
      (net.reportedRows device).mergeSort RouteRow.le := by
  have hfind : (net.polledDevices.find? fun other => other.adminIp == device.adminIp) =
      some device := find?_polledDevices_eq_some_iff.mpr ⟨hdevice, rfl⟩
  rw [routeRows, filter_src_resolvedRoutes, hfind, Option.elim_some, List.map_map]
  rfl

theorem shows_detailsOf (hdevice : device ∈ net.polledDevices) :
    net.Shows device (net.detailsOf net.resolvedRoutes device) := by
  have hroutes : (net.detailsOf net.resolvedRoutes device).routes =
      (net.reportedRows device).mergeSort RouteRow.le := routeRows_eq hdevice
  have hinterfaces : (net.detailsOf net.resolvedRoutes device).interfaces =
      (device.interfaces.filter fun interface => interface.IsListed).map Interface.row := by
    simp only [← Interface.isActive_and_name_ne]
    rfl
  refine ⟨rfl, ?_, ?_, ?_, hinterfaces, ?_⟩
  · rw [hroutes]
    exact List.mergeSort_perm _ _
  · rw [hroutes]
    refine (List.pairwise_mergeSort RouteRow.le_trans RouteRow.le_total _).imp ?_
    intro first second hle
    exact Ordering.isLE_iff_ne_gt.mp hle
  · intro destination
    rw [hroutes]
    apply filter_mergeSort_eq RouteRow.le_trans RouteRow.le_total
    intro first second hfirst hsecond
    apply RouteRow.le_of_destination_eq
    rw [of_decide_eq_true hfirst, of_decide_eq_true hsecond]
  · rw [hinterfaces, List.map_map]
    rfl

/-! ## Destinations -/

theorem destination_of_single {resolved : ResolvedRoute} {dst : Address} {name : String}
    (hsingle : resolved.destinations = [dst]) (hname : net.nameOf? dst = some name) :
    (net.routeRow resolved).destination = name ++ " " ++ resolved.route.cidr := by
  show net.destinationText resolved = _
  rw [destinationText, hsingle]
  simp only [hname]
  rfl

theorem destination_of_not_single {resolved : ResolvedRoute}
    (hseveral : ∀ dst, resolved.destinations ≠ [dst]) :
    (net.routeRow resolved).destination = resolved.route.cidr := by
  show net.destinationText resolved = _
  rw [destinationText]
  split
  · next dst hsingle => exact absurd hsingle (hseveral dst)
  · rfl

theorem namesDestination_resolve (device : Device) (route : Route) :
    net.NamesDestination (net.resolve device route) := by
  have hsingle (dst : Address) (hdst : (net.resolve device route).destinations = [dst]) :
      ∃ other ∈ net.devices, other.adminIp = dst ∧
        (net.routeRow (net.resolve device route)).destination =
          other.name ++ " " ++ (net.resolve device route).route.cidr := by
    have hmem : dst ∈ net.devicesIn device.adminIp route.dstSubnet route.dstMask := by
      show dst ∈ (net.resolve device route).destinations
      rw [hdst]
      exact List.mem_singleton_self dst
    obtain ⟨other, hother, rfl⟩ := exists_device_of_mem_devicesIn hmem
    exact ⟨other, hother, rfl, destination_of_single hdst (nameOf?_adminIp hother)⟩
  refine ⟨⟨?_, ?_⟩, hsingle, destination_of_not_single⟩
  · rintro ⟨name, hname⟩
    by_contra hseveral
    rw [destination_of_not_single fun dst hdst => hseveral ⟨dst, hdst⟩] at hname
    exact Route.cidr_ne_name_append _ name hname
  · rintro ⟨dst, hdst⟩
    obtain ⟨other, -, -, hshown⟩ := hsingle dst hdst
    exact ⟨other.name, hshown⟩

/-- The details have one entry for each device that answered, in the order of
names. Its routing table has one row for each route of the device and no other,
in the order of destinations, and rows with one destination in the order of the
report. A destination is shown under a name exactly when the route has a single
device in its destination, and the name is that of this device. The interface
table has the active interfaces with a name, in the order of the report. -/
theorem details_show_polledDevices (net : Network) :
    net.polledDevices.Pairwise Device.Precedes ∧
      List.Forall₂ net.Shows net.polledDevices net.details ∧
      ∀ device ∈ net.polledDevices, ∀ route ∈ device.routes,
        net.NamesDestination (net.resolve device route) := by
  refine ⟨(pairwise_precedes net).filter _, ?_, fun device _ route _ =>
    namesDestination_resolve device route⟩
  rw [details, List.forall₂_map_right_iff, List.forall₂_same]
  exact fun device hdevice => shows_detailsOf hdevice

end Network

end NetTopology
