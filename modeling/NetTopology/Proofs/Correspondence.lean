/-
# Networks whose devices correspond

Two networks of one catalog have a device for each of its entries, so their
devices correspond to each other; how much corresponding devices are alike is a
parameter. What is read off the devices with a property is the same in both
networks when neither the property nor the reading tells corresponding devices
apart. Every question about addresses is of this sort: which device has one, to
whom it belongs, or which devices a subnet means only depends on the catalog, on
which devices answered and on which interfaces they have.
-/

import NetTopology.Proofs.Owner
import NetTopology.ResolvedRoute

namespace NetTopology

namespace Device

/-- Both devices have one catalog entry, both or none of them answered, and both
have an interface with a property or none of them has. -/
structure SameAddresses (first second : Device) : Prop where
  entry : first.entry = second.entry
  isPolled_eq : first.isPolled = second.isPolled
  any_interfaces_eq : ∀ property : Interface → Bool,
    first.interfaces.any property = second.interfaces.any property

namespace SameAddresses

variable {first second : Device}

theorem name_eq (hsame : first.SameAddresses second) : first.name = second.name :=
  congrArg CatalogEntry.name hsame.entry

theorem adminIp_eq (hsame : first.SameAddresses second) : first.adminIp = second.adminIp :=
  congrArg (fun entry => entry.ip) hsame.entry

theorem ownsIp_eq (hsame : first.SameAddresses second) (ip : Address) :
    first.ownsIp ip = second.ownsIp ip := by
  rw [ownsIp, ownsIp, interfaceByIp?, interfaceByIp?, List.isSome_find?, List.isSome_find?]
  exact hsame.any_interfaces_eq _

theorem isDirect_eq (hsame : first.SameAddresses second) (route : Route) :
    first.isDirect route = second.isDirect route := by
  rw [isDirect, isDirect, hsame.ownsIp_eq]

theorem hasAddressIn_eq (hsame : first.SameAddresses second) (subnet mask : Address) :
    Network.hasAddressIn first subnet mask = Network.hasAddressIn second subnet mask := by
  rw [Network.hasAddressIn, Network.hasAddressIn, hsame.isPolled_eq, hsame.any_interfaces_eq,
    hsame.adminIp_eq]

end SameAddresses

end Device

namespace Network

/-- The two networks have one catalog, and each two devices that correspond to
each other are alike. -/
structure Correspond (alike : Device → Device → Prop) (first second : Network) : Prop where
  catalog : first.catalog = second.catalog
  device : ∀ entry : CatalogEntry,
    alike ⟨entry, first.observations[entry.name]?⟩ ⟨entry, second.observations[entry.name]?⟩

namespace Correspond

variable {alike : Device → Device → Prop} {first second : Network} {α : Type}
  {property : Device → Bool} {view : Device → α}

theorem imp {looser : Device → Device → Prop} (hsame : first.Correspond alike second)
    (himp : ∀ one other, alike one other → looser one other) : first.Correspond looser second where
  catalog := hsame.catalog
  device entry := himp _ _ (hsame.device entry)

theorem exists_device (hsame : first.Correspond alike second) {device : Device}
    (hdevice : device ∈ first.devices) : ∃ other ∈ second.devices, alike device other := by
  rw [devices, List.mem_map] at hdevice
  obtain ⟨entry, hentry, rfl⟩ := hdevice
  rw [hsame.catalog] at hentry
  exact ⟨⟨entry, second.observations[entry.name]?⟩, mem_devices_iff.mpr ⟨hentry, rfl⟩,
    hsame.device entry⟩

/-- What is read off those devices that have a property is the same when the
property and the reading do not tell corresponding devices apart. -/
theorem map_filter_devices_eq (hsame : first.Correspond alike second)
    (hproperty : ∀ one other, alike one other → property one = property other)
    (hview : ∀ one other, alike one other → view one = view other) :
    (first.devices.filter property).map view = (second.devices.filter property).map view := by
  rw [devices, devices, ← hsame.catalog]
  induction first.catalog.entries with
  | nil => rfl
  | cons entry later ih =>
      rw [List.map_cons, List.map_cons, List.filter_cons, List.filter_cons,
        hproperty _ _ (hsame.device entry)]
      by_cases hkept : property ⟨entry, second.observations[entry.name]?⟩ = true
      · rw [if_pos hkept, if_pos hkept, List.map_cons, List.map_cons, ih,
          hview _ _ (hsame.device entry)]
      · rw [if_neg hkept, if_neg hkept, ih]

theorem map_devices_eq (hsame : first.Correspond alike second)
    (hview : ∀ one other, alike one other → view one = view other) :
    first.devices.map view = second.devices.map view := by
  have hall : (first.devices.filter fun _ => true).map view =
      (second.devices.filter fun _ => true).map view :=
    hsame.map_filter_devices_eq (fun _ _ _ => rfl) hview
  rwa [List.filter_true, List.filter_true] at hall

theorem map_find?_devices_eq (hsame : first.Correspond alike second)
    (hproperty : ∀ one other, alike one other → property one = property other)
    (hview : ∀ one other, alike one other → view one = view other) :
    (first.devices.find? property).map view = (second.devices.find? property).map view := by
  rw [← List.head?_filter, ← List.head?_filter, ← List.head?_map, ← List.head?_map,
    hsame.map_filter_devices_eq hproperty hview]

/-! ## Questions about addresses -/

/-- An address has the same owner in both networks. -/
theorem ownerIp?_eq (hsame : first.Correspond Device.SameAddresses second)
    (observer ip mask : Address) :
    first.ownerIp? observer ip mask = second.ownerIp? observer ip mask := by
  apply map_owner?_eq
  · rw [map_adminIp_declaredOwner?, map_adminIp_declaredOwner?]
    apply hsame.map_find?_devices_eq
    · intro one other haddresses
      rw [haddresses.isPolled_eq, haddresses.adminIp_eq]
    · intro one other haddresses
      exact haddresses.adminIp_eq
  · rw [map_adminIp_polledOwner?, map_adminIp_polledOwner?]
    apply hsame.map_find?_devices_eq
    · intro one other haddresses
      rw [haddresses.isPolled_eq, haddresses.adminIp_eq, haddresses.any_interfaces_eq]
    · intro one other haddresses
      exact haddresses.adminIp_eq

/-- A subnet means the same devices in both networks. -/
theorem devicesIn_eq (hsame : first.Correspond Device.SameAddresses second)
    (observer subnet mask : Address) :
    first.devicesIn observer subnet mask = second.devicesIn observer subnet mask := by
  have hadminIp (one other : Device) (haddresses : one.SameAddresses other) :
      one.adminIp = other.adminIp := haddresses.adminIp_eq
  rw [devicesIn, devicesIn, candidates, candidates, hsame.ownerIp?_eq,
    hsame.map_devices_eq hadminIp, List.filter_filter, List.filter_filter,
    hsame.map_filter_devices_eq ?_ hadminIp]
  intro one other haddresses
  rw [haddresses.hasAddressIn_eq, haddresses.adminIp_eq]

/-- The device that has exactly an address has the same name in both networks. -/
theorem nameOf?_eq (hsame : first.Correspond Device.SameAddresses second) (ip : Address) :
    first.nameOf? ip = second.nameOf? ip := by
  have hpolled : (first.polledDevices.find? fun device => device.ownsIp ip).map Device.name =
      (second.polledDevices.find? fun device => device.ownsIp ip).map Device.name := by
    rw [polledDevices, polledDevices, List.find?_filter, List.find?_filter]
    apply hsame.map_find?_devices_eq
    · intro one other haddresses
      rw [haddresses.isPolled_eq, haddresses.ownsIp_eq]
    · intro one other haddresses
      exact haddresses.name_eq
  rw [nameOf?, nameOf?, hsame.catalog, hpolled]

theorem displayName_eq (hsame : first.Correspond Device.SameAddresses second)
    (observer ip : Address) : first.displayName observer ip = second.displayName observer ip := by
  rw [displayName, displayName, hsame.nameOf?_eq, hsame.ownerIp?_eq]

end Correspond

end Network

end NetTopology
