/-
# Owners are devices

A device is known by its administrative address, so two devices of a network
with one address are the same. Whatever an address resolves to is a device of
the network, and never the device that observed it when that one answered: a
device that is down is another one, and interfaces of the observer are no
candidates.
-/

import NetTopology.Owner
import NetTopology.Proofs.Catalog.Entry
import Mathlib.Data.List.Nodup

namespace NetTopology

universe u v

/-- A search for what elements yield stops at the first one that yields something. -/
theorem findSome?_eq_bind_find? {α : Type u} {β : Type v} (yield : α → Option β)
    (items : List α) :
    items.findSome? yield = (items.find? fun item => (yield item).isSome).bind yield := by
  induction items with
  | nil => rfl
  | cons item later ih =>
      rw [List.findSome?_cons, List.find?_cons]
      cases hyield : yield item with
      | none => exact ih
      | some found => exact hyield.symm

theorem Device.ownsIp_iff {device : Device} {ip : Address} :
    device.ownsIp ip ↔ ∃ interface ∈ device.interfaces, interface.ip = some ip := by
  rw [ownsIp, interfaceByIp?, List.isSome_find?, List.any_eq_true]
  simp only [beq_iff_eq]

namespace Network

variable {net : Network}

theorem mem_devices_iff {device : Device} :
    device ∈ net.devices ↔
      device.entry ∈ net.catalog.entries ∧
        device.observation = net.observations[device.entry.name]? := by
  rw [devices, List.mem_map]
  constructor
  · rintro ⟨entry, hentry, rfl⟩
    exact ⟨hentry, rfl⟩
  · rintro ⟨hentry, hobservation⟩
    refine ⟨device.entry, hentry, ?_⟩
    rw [← hobservation]

theorem mem_polledDevices_iff {device : Device} :
    device ∈ net.polledDevices ↔ device ∈ net.devices ∧ device.isPolled :=
  List.mem_filter

theorem mem_devices_of_mem_polledDevices {device : Device}
    (hmem : device ∈ net.polledDevices) : device ∈ net.devices :=
  (mem_polledDevices_iff.mp hmem).1

/-- No name stands for two devices. -/
theorem nodup_names (net : Network) : (net.devices.map Device.name).Nodup := by
  have hnames : net.devices.map Device.name = net.catalog.declarations.keys := by
    rw [devices, Catalog.entries, List.map_map, List.map_map,
      ← Std.ExtTreeMap.map_fst_toList_eq_keys]
    rfl
  rw [hnames]
  exact Std.ExtTreeMap.nodup_keys

/-- The name identifies a device of the network. -/
theorem eq_of_name_eq {first second : Device} (hfirst : first ∈ net.devices)
    (hsecond : second ∈ net.devices) (hname : first.name = second.name) : first = second :=
  List.inj_on_of_nodup_map (nodup_names net) hfirst hsecond hname

/-- The administrative address identifies a device of the network. -/
theorem eq_of_adminIp_eq {first second : Device} (hfirst : first ∈ net.devices)
    (hsecond : second ∈ net.devices) (hip : first.adminIp = second.adminIp) :
    first = second := by
  obtain ⟨hfirstEntry, hfirstObservation⟩ := mem_devices_iff.mp hfirst
  obtain ⟨hsecondEntry, hsecondObservation⟩ := mem_devices_iff.mp hsecond
  have hentry : first.entry = second.entry := Catalog.eq_of_ip_eq hfirstEntry hsecondEntry hip
  have hobservation : first.observation = second.observation := by
    rw [hfirstObservation, hsecondObservation, hentry]
  cases first
  cases second
  exact congr (congrArg Device.mk hentry) hobservation

/-- No address stands for two devices. -/
theorem pairwise_adminIp_ne (net : Network) :
    net.devices.Pairwise fun first second => first.adminIp ≠ second.adminIp := by
  have hnodup : net.devices.Nodup := List.Nodup.of_map _ (nodup_names net)
  refine hnodup.pairwise_of_forall_ne ?_
  intro first hfirst second hsecond hne hip
  exact hne (eq_of_adminIp_eq hfirst hsecond hip)

theorem pairwise_adminIp_ne_polled (net : Network) :
    net.polledDevices.Pairwise fun first second => first.adminIp ≠ second.adminIp :=
  (pairwise_adminIp_ne net).filter _

/-- What devices contribute to something that is about one address comes from
the device with that address. -/
theorem flatMap_eq_of_adminIp {α : Type} {devices : List Device} {ip : Address}
    {parts : Device → List α}
    (hdistinct : devices.Pairwise fun first second => first.adminIp ≠ second.adminIp)
    (hother : ∀ device ∈ devices, device.adminIp ≠ ip → parts device = []) :
    devices.flatMap parts =
      (devices.find? fun device => device.adminIp == ip).elim [] parts := by
  induction devices with
  | nil => rfl
  | cons device later ih =>
      obtain ⟨hdevice, hlater⟩ := List.pairwise_cons.mp hdistinct
      rw [List.flatMap_cons]
      by_cases hip : device.adminIp = ip
      · have hrest : later.flatMap parts = [] := by
          rw [List.flatMap_eq_nil_iff]
          intro other hmem
          apply hother other (List.mem_cons_of_mem _ hmem)
          rw [← hip]
          exact (hdevice other hmem).symm
        rw [List.find?_cons_of_pos (by simpa using hip), hrest, List.append_nil]
        rfl
      · rw [List.find?_cons_of_neg (by simpa using hip), hother device List.mem_cons_self hip,
          List.nil_append]
        exact ih hlater fun other hmem => hother other (List.mem_cons_of_mem _ hmem)

theorem deviceByAdminIp?_eq_some_iff {ip : Address} {device : Device} :
    net.deviceByAdminIp? ip = some device ↔ device ∈ net.devices ∧ device.adminIp = ip :=
  find?_key_eq_some_iff fun _ hfirst _ hsecond => eq_of_adminIp_eq hfirst hsecond

theorem find?_polledDevices_eq_some_iff {ip : Address} {device : Device} :
    (net.polledDevices.find? fun device => device.adminIp == ip) = some device ↔
      device ∈ net.polledDevices ∧ device.adminIp = ip :=
  find?_key_eq_some_iff fun _ hfirst _ hsecond =>
    eq_of_adminIp_eq (mem_devices_of_mem_polledDevices hfirst)
      (mem_devices_of_mem_polledDevices hsecond)

/-- The second pass finds the first device with an interface in the subnet, and
the first such interface of that device. -/
theorem polledOwner?_eq_bind (net : Network) (observer ip mask : Address) :
    net.polledOwner? observer ip mask =
      (net.devices.find? fun device =>
        device.isPolled && (device.adminIp != observer &&
          device.interfaces.any fun interface => interface.liesIn ip mask)).bind fun device =>
        (device.interfaces.find? fun interface => interface.liesIn ip mask).map
          (Owner.polled device) := by
  rw [polledOwner?, findSome?_eq_bind_find?, List.find?_filter, polledDevices, List.find?_filter]
  simp only [Option.isSome_map, List.isSome_find?, Bool.decide_and, Bool.decide_eq_true]

/-- Which device owns an address depends on its interfaces as a whole only. -/
theorem map_adminIp_polledOwner? (net : Network) (observer ip mask : Address) :
    (net.polledOwner? observer ip mask).map Owner.adminIp =
      (net.devices.find? fun device =>
        device.isPolled && (device.adminIp != observer &&
          device.interfaces.any fun interface => interface.liesIn ip mask)).map Device.adminIp := by
  rw [polledOwner?_eq_bind, Option.map_bind, Option.map_eq_bind]
  cases hfind : net.devices.find? _ with
  | none => rfl
  | some device =>
      have hany := List.find?_some hfind
      rw [Bool.and_eq_true, Bool.and_eq_true, ← List.isSome_find?] at hany
      obtain ⟨interface, hinterface⟩ := Option.isSome_iff_exists.mp hany.2.2
      rw [Option.bind_some, Option.bind_some, Function.comp_apply, hinterface]
      rfl

theorem map_adminIp_declaredOwner? (net : Network) (ip mask : Address) :
    (net.declaredOwner? ip mask).map Owner.adminIp =
      (net.devices.find? fun device =>
        !device.isPolled && device.adminIp.sameSubnet ip mask).map Device.adminIp := by
  rw [declaredOwner?, Option.map_map]
  rfl

/-- What is seen of an owner is the same in two networks when it is the same of
the owners that both passes find. -/
theorem map_owner?_eq {first second : Network} {α : Type} {view : Owner → α}
    {observer ip mask : Address}
    (hdeclared : (first.declaredOwner? ip mask).map view = (second.declaredOwner? ip mask).map view)
    (hpolled : (first.polledOwner? observer ip mask).map view =
      (second.polledOwner? observer ip mask).map view) :
    (first.owner? observer ip mask).map view = (second.owner? observer ip mask).map view := by
  rw [owner?, owner?]
  by_cases hmask : mask = .unspecified
  · rw [if_pos hmask, if_pos hmask]
  · rw [if_neg hmask, if_neg hmask]
    cases hfirst : first.declaredOwner? ip mask <;>
      cases hsecond : second.declaredOwner? ip mask <;>
        rw [hfirst, hsecond] at hdeclared
    · exact hpolled
    · cases hdeclared
    · cases hdeclared
    · exact hdeclared

/-- Where an owner comes from: it is a device without an answer, or a device
other than the observer that answered. -/
theorem owner?_cases {observer ip mask : Address} {owner : Owner}
    (howner : net.owner? observer ip mask = some owner) :
    ∃ device ∈ net.devices, owner.adminIp = device.adminIp ∧
      (device.isPolled = false ∨ device.adminIp ≠ observer) := by
  rw [owner?] at howner
  split at howner
  · cases howner
  · cases hdeclared : net.declaredOwner? ip mask with
    | some declared =>
        rw [hdeclared] at howner
        obtain rfl := Option.some.inj howner
        rw [declaredOwner?, Option.map_eq_some_iff] at hdeclared
        obtain ⟨device, hfind, rfl⟩ := hdeclared
        have hdown := List.find?_some hfind
        refine ⟨device, List.mem_of_find?_eq_some hfind, rfl, Or.inl ?_⟩
        simp only [Bool.and_eq_true, Bool.not_eq_true'] at hdown
        exact hdown.1
    | none =>
        rw [hdeclared] at howner
        obtain ⟨device, hdevice, hinterface⟩ := List.exists_of_findSome?_eq_some howner
        obtain ⟨interface, -, rfl⟩ := Option.map_eq_some_iff.mp hinterface
        obtain ⟨hpolled, hother⟩ := List.mem_filter.mp hdevice
        exact ⟨device, mem_devices_of_mem_polledDevices hpolled, rfl,
          Or.inr (by simpa using hother)⟩

/-- What an address resolves to is a device of the network. -/
theorem exists_device_of_ownerIp?_eq_some {observer ip mask found : Address}
    (hfound : net.ownerIp? observer ip mask = some found) :
    ∃ device ∈ net.devices, device.adminIp = found := by
  obtain ⟨owner, howner, rfl⟩ := Option.map_eq_some_iff.mp hfound
  obtain ⟨device, hdevice, hip, -⟩ := owner?_cases howner
  exact ⟨device, hdevice, hip.symm⟩

/-- An address that a device observes never resolves to that device. -/
theorem ownerIp?_ne_observer {observer : Device} (hobserver : observer ∈ net.polledDevices)
    {ip mask found : Address} (hfound : net.ownerIp? observer.adminIp ip mask = some found) :
    found ≠ observer.adminIp := by
  obtain ⟨owner, howner, rfl⟩ := Option.map_eq_some_iff.mp hfound
  obtain ⟨device, hdevice, hip, hdown | hother⟩ := owner?_cases howner
  · intro hsame
    obtain ⟨hmem, hpolled⟩ := mem_polledDevices_iff.mp hobserver
    obtain rfl := eq_of_adminIp_eq hdevice hmem (hip.symm.trans hsame)
    rw [hdown] at hpolled
    cases hpolled
  · rwa [hip]

theorem mem_devicesIn_iff {observer subnet mask found : Address} :
    found ∈ net.devicesIn observer subnet mask ↔ found ∈ net.candidates observer subnet mask := by
  rw [devicesIn, Std.ExtTreeSet.mem_toList, Std.ExtTreeSet.mem_ofList, List.contains_iff_mem]

theorem mem_devicesIn_hostMask_iff {observer ip found : Address} :
    found ∈ net.devicesIn observer ip .hostMask ↔
      net.ownerIp? observer ip .hostMask = some found := by
  rw [mem_devicesIn_iff, candidates, if_pos rfl, Option.mem_toList]

/-- A subnet of several addresses means devices other than the observer: those
with an address in it, or all of them if every address lies in it. -/
theorem mem_devicesIn_iff_of_ne_hostMask {observer subnet mask found : Address}
    (hmask : mask ≠ .hostMask) :
    found ∈ net.devicesIn observer subnet mask ↔
      found ≠ observer ∧ ∃ device ∈ net.devices, device.adminIp = found ∧
        (mask = .unspecified ∨ hasAddressIn device subnet mask) := by
  rw [mem_devicesIn_iff, candidates, if_neg hmask]
  split
  · next hall =>
    simp only [hall, List.mem_filter, List.mem_map, bne_iff_ne, true_or, and_true]
    exact and_comm
  · next hsome =>
    simp only [hsome, List.mem_map, List.mem_filter, bne_iff_ne, false_or]
    constructor
    · rintro ⟨device, ⟨⟨hdevice, hother⟩, haddress⟩, rfl⟩
      exact ⟨hother, device, hdevice, rfl, haddress⟩
    · rintro ⟨hother, device, hdevice, rfl, haddress⟩
      exact ⟨device, ⟨⟨hdevice, hother⟩, haddress⟩, rfl⟩

/-- The devices that a subnet may mean are devices of the network. -/
theorem exists_device_of_mem_devicesIn {observer subnet mask found : Address}
    (hfound : found ∈ net.devicesIn observer subnet mask) :
    ∃ device ∈ net.devices, device.adminIp = found := by
  by_cases hmask : mask = .hostMask
  · rw [hmask, mem_devicesIn_hostMask_iff] at hfound
    exact exists_device_of_ownerIp?_eq_some hfound
  · obtain ⟨-, device, hdevice, hip, -⟩ := (mem_devicesIn_iff_of_ne_hostMask hmask).mp hfound
    exact ⟨device, hdevice, hip⟩

/-- A device that answered is not meant by a subnet that it observes. -/
theorem ne_observer_of_mem_devicesIn {observer : Device}
    (hobserver : observer ∈ net.polledDevices) {subnet mask found : Address}
    (hfound : found ∈ net.devicesIn observer.adminIp subnet mask) : found ≠ observer.adminIp := by
  by_cases hmask : mask = .hostMask
  · rw [hmask, mem_devicesIn_hostMask_iff] at hfound
    exact ownerIp?_ne_observer hobserver hfound
  · exact ((mem_devicesIn_iff_of_ne_hostMask hmask).mp hfound).1

end Network

end NetTopology
