/-
# The name of an address and the name of its owner

The name shown for an address is looked up in another order than its owner. It
asks for the administrative addresses of all devices first, answered or not, and
then for the interfaces of all that answered, the observer included. For the
next hop of a route both orders lead to the same device, with one exception: an
administrative address of a device that answered names that device, even when
another one has the address on an interface.
-/

import NetTopology.Details
import NetTopology.Proofs.NextHop
import NetTopology.Proofs.Owner.Subnet

namespace NetTopology

/-- The name of the owner. -/
def Owner.name : Owner → String
  | declared entry => entry.name
  | polled device _ => device.name

theorem Interface.liesIn_hostMask_iff {interface : Interface} {ip : Address} :
    interface.liesIn ip .hostMask ↔ interface.ip = some ip := by
  simp only [liesIn_iff, Address.sameSubnet_hostMask_iff, exists_eq_right]

namespace Network

variable {net : Network} {ip : Address} {device : Device}

/-! ## Names of addresses -/

theorem nameOf?_entry_ip {entry : CatalogEntry} (hentry : entry ∈ net.catalog.entries) :
    net.nameOf? entry.ip = some entry.name := by
  have hfound : net.catalog.byAdminIp? entry.ip = some entry :=
    Catalog.byAdminIp?_eq_some_iff.mpr ⟨Catalog.get?_eq_some_iff.mpr ⟨rfl, hentry⟩, rfl⟩
  rw [nameOf?, hfound]

theorem nameOf?_adminIp (hdevice : device ∈ net.devices) :
    net.nameOf? device.adminIp = some device.name :=
  nameOf?_entry_ip (mem_devices_iff.mp hdevice).1

/-- An address is not administrative when no device has it as its administrative one. -/
theorem byAdminIp?_eq_none_iff :
    net.catalog.byAdminIp? ip = none ↔ ∀ device ∈ net.devices, device.adminIp ≠ ip := by
  rw [Catalog.byAdminIp?, List.find?_eq_none, devices, List.forall_mem_map]
  simp only [beq_iff_eq]
  rfl

/-- An address that is not administrative has the name of the first device that
answered with it on an interface. -/
theorem nameOf?_eq_name_of_isFirst (hnone : ∀ other ∈ net.devices, other.adminIp ≠ ip)
    (hfirst : net.IsFirst (fun other => other.isPolled ∧ other.ownsIp ip) device) :
    net.nameOf? ip = some device.name := by
  have habsent : net.catalog.byAdminIp? ip = none := byAdminIp?_eq_none_iff.mpr hnone
  have htest {other : Device} : (other.isPolled && other.ownsIp ip) ↔
      other.isPolled ∧ other.ownsIp ip := Bool.and_eq_true_iff
  have hfound := (find?_devices_eq_some_iff htest).mpr hfirst
  rw [nameOf?, habsent, polledDevices, List.find?_filter]
  simp only [Bool.decide_and, Bool.decide_eq_true, hfound, Option.map_some]

/-- A name that is found is shown. -/
theorem displayName_eq_of_nameOf?_eq_some {name : String} (hname : net.nameOf? ip = some name)
    (observer : Address) : net.displayName observer ip = name := by
  rw [displayName, hname]

/-! ## Names of owners -/

theorem via_resolve_eq_some_iff {route : Route} {owner : Owner} :
    (net.resolve device route).via = some owner ↔
      device.isDirect route = false ∧
        net.owner? device.adminIp route.viaIp .hostMask = some owner := by
  rw [via_resolve]
  cases device.isDirect route <;> simp

theorem exists_device_of_owner?_eq_some {observer mask : Address} {owner : Owner}
    (howner : net.owner? observer ip mask = some owner) :
    ∃ device ∈ net.devices, device.adminIp = owner.adminIp ∧ device.name = owner.name := by
  have hmask := ne_unspecified_of_owner?_eq_some howner
  cases owner with
  | declared entry =>
      obtain ⟨device, ⟨hdevice, -⟩, rfl⟩ := (owner?_eq_declared_iff hmask).mp howner
      exact ⟨device, hdevice, rfl, rfl⟩
  | polled device interface =>
      obtain ⟨-, ⟨hdevice, -⟩, -⟩ := (owner?_eq_polled_iff hmask).mp howner
      exact ⟨device, hdevice, rfl, rfl⟩

/-- The name of an owner identifies it. -/
theorem adminIp_eq_of_owner_name_eq {observer mask : Address} {owner : Owner}
    (howner : net.owner? observer ip mask = some owner) (hdevice : device ∈ net.devices)
    (hname : device.name = owner.name) : device.adminIp = owner.adminIp := by
  obtain ⟨found, hfound, hip, hfoundName⟩ := exists_device_of_owner?_eq_some howner
  rw [eq_of_name_eq hdevice hfound (hname.trans hfoundName.symm), hip]

/-- A device with the address answers to every observer that does not have it. -/
theorem answersIn_hostMask_of_ownsIp {observer : Device} (hforeign : ¬ observer.ownsIp ip)
    (hobserver : observer ∈ net.devices) (hdevice : device ∈ net.devices)
    (hpolled : device.isPolled) (howns : device.ownsIp ip) :
    device.AnswersIn observer.adminIp ip .hostMask := by
  obtain ⟨interface, hinterface, hip⟩ := Device.ownsIp_iff.mp howns
  refine ⟨hpolled, ?_, interface, hinterface, Interface.liesIn_hostMask_iff.mpr hip⟩
  intro hsame
  rw [eq_of_adminIp_eq hdevice hobserver hsame] at howns
  exact hforeign howns

section

variable {observer : Device} {owner : Owner} (hobserver : observer ∈ net.polledDevices)
  (hforeign : ¬ observer.ownsIp ip)
  (howner : net.owner? observer.adminIp ip .hostMask = some owner)

include hobserver hforeign howner

/-- The name of an address is that of its owner, unless the address is
administrative and belongs to another device that answered. -/
theorem nameOf?_eq_owner_name
    (honly : ∀ other ∈ net.polledDevices, other.adminIp = ip → other.adminIp = owner.adminIp) :
    net.nameOf? ip = some owner.name := by
  have hmask : Address.hostMask ≠ .unspecified := by decide
  cases owner with
  | declared entry =>
      obtain ⟨down, ⟨hdown, ⟨-, hsame⟩, -⟩, rfl⟩ := (owner?_eq_declared_iff hmask).mp howner
      rw [← Address.sameSubnet_hostMask_iff.mp hsame]
      exact nameOf?_adminIp hdown
  | polled found interface =>
      obtain ⟨hdown, ⟨hfound, ⟨hpolled, -, hanswers⟩, hfirst⟩, -⟩ :=
        (owner?_eq_polled_iff hmask).mp howner
      by_cases hadmin : ∃ other ∈ net.devices, other.adminIp = ip
      · obtain ⟨other, hother, rfl⟩ := hadmin
        have hanswered : other.isPolled = true := by
          rw [← Bool.not_eq_false]
          intro hsilent
          exact hdown other hother ⟨hsilent, Address.sameSubnet_hostMask_iff.mpr rfl⟩
        have hsame := honly other (mem_polledDevices_iff.mpr ⟨hother, hanswered⟩) rfl
        rw [nameOf?_adminIp hother, eq_of_adminIp_eq hother hfound hsame]
        rfl
      · obtain ⟨own, hown, hlies⟩ := hanswers
        have howns : found.ownsIp ip :=
          Device.ownsIp_iff.mpr ⟨own, hown, Interface.liesIn_hostMask_iff.mp hlies⟩
        -- the observer is left out of the search for the owner, but has not got the address
        apply nameOf?_eq_name_of_isFirst fun other hother hip => hadmin ⟨other, hother, hip⟩
        refine ⟨hfound, ⟨hpolled, howns⟩, fun other hother hproperty => hfirst other hother ?_⟩
        exact answersIn_hostMask_of_ownsIp hforeign (mem_devices_of_mem_polledDevices hobserver)
          hother hproperty.1 hproperty.2

end

/-- The next hop of a route is shown under the name of its owner, except when its
address is the administrative address of another device that answered: then it is
shown under the name of that device. -/
theorem nameOf?_viaIp_eq_iff (net : Network) (resolved : ResolvedRoute)
    (hresolved : resolved ∈ net.resolvedRoutes) (owner : Owner)
    (hvia : resolved.via = some owner) :
    (net.nameOf? resolved.route.viaIp = some owner.name ↔
      ¬ ∃ other ∈ net.polledDevices,
        other.adminIp = resolved.route.viaIp ∧ other.adminIp ≠ owner.adminIp) ∧
    (∀ other ∈ net.polledDevices, other.adminIp = resolved.route.viaIp →
      other.adminIp ≠ owner.adminIp → net.nameOf? resolved.route.viaIp = some other.name) ∧
    ∀ name, net.nameOf? resolved.route.viaIp = some name →
      net.viaText resolved =
        if name = resolved.route.viaIp.toText then name
        else name ++ " " ++ resolved.route.viaIp.toText := by
  obtain ⟨device, hdevice, route, -, rfl⟩ := mem_resolvedRoutes_iff.mp hresolved
  obtain ⟨hindirect, howner⟩ := via_resolve_eq_some_iff.mp hvia
  show (net.nameOf? route.viaIp = _ ↔ _) ∧ _
  have hexception (other : Device) (hother : other ∈ net.polledDevices)
      (hip : other.adminIp = route.viaIp) : net.nameOf? route.viaIp = some other.name := by
    rw [← hip]
    exact nameOf?_adminIp (mem_devices_of_mem_polledDevices hother)
  refine ⟨⟨?_, ?_⟩, fun other hother hip _ => hexception other hother hip, ?_⟩
  · rintro hname ⟨other, hother, hip, hne⟩
    rw [hexception other hother hip, Option.some_inj] at hname
    exact hne (adminIp_eq_of_owner_name_eq howner (mem_devices_of_mem_polledDevices hother) hname)
  · intro hnone
    have hforeign : ¬ device.ownsIp route.viaIp := by
      intro howns
      rw [Device.isDirect, howns, Bool.or_true] at hindirect
      cases hindirect
    apply nameOf?_eq_owner_name hdevice hforeign howner
    intro other hother hip
    by_contra hne
    exact hnone ⟨other, hother, hip, hne⟩
  · intro name hname
    have hshown : (net.resolve device route).isDirect = false := hindirect
    rw [viaText, hshown, if_neg Bool.false_ne_true]
    simp only [displayName_eq_of_nameOf?_eq_some hname]

/-! ## An address of two routers -/

namespace SharedAddress

/-- A router with a default route over an address of others. -/
def observer : Observation where
  routes := [{ dstSubnet := .unspecified, dstMask := .unspecified, viaIp := Sample.ip 10 0 0 3 }]

/-- A router that has the address on an interface. -/
def holder : Observation where
  interfaces := [{ index := "1", name := "eth0", ip := some (Sample.ip 10 0 0 3) }]

/-- The address is the administrative one of a third router, which answered
without reporting any interface. -/
def network : Network where
  catalog := Sample.declare
    [("a", { ip := Sample.ip 10 0 0 1 }), ("b", { ip := Sample.ip 10 0 0 2 }),
      ("c", { ip := Sample.ip 10 0 0 3 })]
  observations := .ofList [("a", observer), ("b", holder), ("c", {})]

/-- The owner of the next hop is one router, and its name in the table is that of the other. -/
theorem nameOf?_viaIp_eq_iff_shared :
    ∃ resolved ∈ network.resolvedRoutes, ∃ owner, resolved.via = some owner ∧
      owner.name = "b" ∧ network.nameOf? resolved.route.viaIp = some "c" ∧
      (network.nameOf? resolved.route.viaIp = some owner.name ↔
        ¬ ∃ other ∈ network.polledDevices,
          other.adminIp = resolved.route.viaIp ∧ other.adminIp ≠ owner.adminIp) ∧
      network.viaText resolved = "c 10.0.0.3" := by
  have hfound : ∃ device ∈ network.polledDevices, ∃ route ∈ device.routes,
      route.viaIp = Sample.ip 10 0 0 3 ∧
        (network.resolve device route).via.map (fun owner => (owner.name, owner.adminIp)) =
          some ("b", Sample.ip 10 0 0 2) := by
    decide +kernel
  have hthird : ∃ other ∈ network.polledDevices, other.adminIp = Sample.ip 10 0 0 3 ∧
      other.name = "c" := by
    decide +kernel
  obtain ⟨device, hdevice, route, hroute, hip, howner⟩ := hfound
  obtain ⟨owner, hvia, howner⟩ := Option.map_eq_some_iff.mp howner
  obtain ⟨hownerName, hownerIp⟩ := Prod.mk.inj howner
  obtain ⟨other, hother, hotherIp, hotherName⟩ := hthird
  have hresolved := mem_resolvedRoutes_iff.mpr ⟨device, hdevice, route, hroute, rfl⟩
  obtain ⟨hiff, hexception, hshown⟩ := nameOf?_viaIp_eq_iff network _ hresolved owner hvia
  have hnamed : network.nameOf? route.viaIp = some "c" := by
    rw [← hotherName]
    apply hexception other hother (hotherIp.trans hip.symm)
    rw [hotherIp, hownerIp]
    decide
  refine ⟨_, hresolved, owner, hvia, hownerName, hnamed, hiff, ?_⟩
  rw [hshown "c" hnamed, show (network.resolve device route).route = route from rfl, hip]
  decide +kernel

end SharedAddress

end Network

end NetTopology
