/-
# The devices that a subnet means

A subnet is looked up in three ways: a host mask asks for the owner of one
address, `0.0.0.0` means every other device, and any other mask the devices with
an address in the subnet. For a device that answered these fit together. The
owner of an address is one of the devices that the subnet means, and a wider
mask means at least the same devices, on whichever sides of the borders between
the three ways both masks lie.

A device that did not answer is no candidate of the second pass, but the first
one does not leave it out. It can only be asked for by its own administrative
address, and then it is found.
-/

import NetTopology.Proofs.Address.Subnet
import NetTopology.Proofs.Owner.FirstMatch
import NetTopology.Samples

namespace NetTopology

theorem Interface.liesIn_iff {interface : Interface} {ip mask : Address} :
    interface.liesIn ip mask ↔ ∃ own, interface.ip = some own ∧ own.sameSubnet ip mask :=
  Option.any_eq_true _ _

/-- An interface in a subnet also lies in the wider one. -/
theorem Interface.liesIn_of_isWider {interface : Interface} {ip wide narrow : Address}
    (hwider : wide.IsWider narrow) (hlies : interface.liesIn ip narrow) :
    interface.liesIn ip wide := by
  rw [liesIn_iff] at hlies ⊢
  obtain ⟨own, hown, hsame⟩ := hlies
  exact ⟨own, hown, Address.sameSubnet_of_isWider hwider hsame⟩

namespace Network

variable {net : Network} {observer ip subnet mask found : Address}

/-- A device has an address in the subnet when one of the passes could find it,
if it were not for the observer. -/
theorem hasAddressIn_iff {device : Device} :
    hasAddressIn device subnet mask ↔
      device.IsDownIn subnet mask ∨
        device.isPolled ∧ ∃ interface ∈ device.interfaces, interface.liesIn subnet mask := by
  rw [hasAddressIn, Device.IsDownIn]
  cases device.isPolled with
  | false => simp
  | true => simp

theorem hasAddressIn_of_isWider {device : Device} {wide narrow : Address}
    (hwider : wide.IsWider narrow) (haddress : hasAddressIn device subnet narrow) :
    hasAddressIn device subnet wide := by
  rw [hasAddressIn_iff] at haddress ⊢
  rcases haddress with ⟨hdown, hsame⟩ | ⟨hpolled, interface, hinterface, hlies⟩
  · exact Or.inl ⟨hdown, Address.sameSubnet_of_isWider hwider hsame⟩
  · exact Or.inr ⟨hpolled, interface, hinterface, interface.liesIn_of_isWider hwider hlies⟩

/-! ## Owners have an address in the subnet -/

theorem ne_unspecified_of_owner?_eq_some {owner : Owner}
    (howner : net.owner? observer ip mask = some owner) : mask ≠ .unspecified := by
  rintro rfl
  rw [owner?, if_pos rfl] at howner
  cases howner

theorem exists_hasAddressIn_of_ownerIp?_eq_some
    (hfound : net.ownerIp? observer ip mask = some found) :
    ∃ device ∈ net.devices, device.adminIp = found ∧ hasAddressIn device ip mask := by
  obtain ⟨owner, howner, rfl⟩ := Option.map_eq_some_iff.mp hfound
  have hmask := ne_unspecified_of_owner?_eq_some howner
  cases owner with
  | declared entry =>
      obtain ⟨device, ⟨hdevice, hdown, -⟩, rfl⟩ := (owner?_eq_declared_iff hmask).mp howner
      exact ⟨device, hdevice, rfl, hasAddressIn_iff.mpr (Or.inl hdown)⟩
  | polled device interface =>
      obtain ⟨-, ⟨hdevice, hanswers, -⟩, -⟩ := (owner?_eq_polled_iff hmask).mp howner
      exact ⟨device, hdevice, rfl, hasAddressIn_iff.mpr (Or.inr ⟨hanswers.1, hanswers.2.2⟩)⟩

/-- Where a device other than the observer has an address in the subnet, some owner is found. -/
theorem ownerIp?_ne_none_of_hasAddressIn (hmask : mask ≠ .unspecified) {device : Device}
    (hdevice : device ∈ net.devices) (hother : device.adminIp ≠ observer)
    (haddress : hasAddressIn device ip mask) : net.ownerIp? observer ip mask ≠ none := by
  intro hnone
  obtain ⟨hdown, hanswers⟩ := (owner?_eq_none_iff hmask).mp (Option.map_eq_none_iff.mp hnone)
  rcases hasAddressIn_iff.mp haddress with hmiss | ⟨hpolled, hinterface⟩
  · exact hdown device hdevice hmiss
  · exact hanswers device hdevice ⟨hpolled, hother, hinterface⟩

/-- Whatever a subnet means has an address in it, unless all addresses lie in the subnet. -/
theorem exists_hasAddressIn_of_mem_devicesIn
    (hfound : found ∈ net.devicesIn observer subnet mask) :
    ∃ device ∈ net.devices, device.adminIp = found ∧
      (mask = .unspecified ∨ hasAddressIn device subnet mask) := by
  by_cases hhost : mask = .hostMask
  · rw [hhost, mem_devicesIn_hostMask_iff] at hfound
    obtain ⟨device, hdevice, hip, haddress⟩ := exists_hasAddressIn_of_ownerIp?_eq_some hfound
    rw [hhost]
    exact ⟨device, hdevice, hip, Or.inr haddress⟩
  · exact ((mem_devicesIn_iff_of_ne_hostMask hhost).mp hfound).2

section

variable {device : Device} (hdevice : device ∈ net.polledDevices)

include hdevice

/-- What an address resolves to is one of the devices that the subnet means. -/
theorem mem_devicesIn_of_ownerIp?_eq_some
    (hfound : net.ownerIp? device.adminIp ip mask = some found) :
    found ∈ net.devicesIn device.adminIp ip mask := by
  by_cases hhost : mask = .hostMask
  · rw [hhost] at hfound ⊢
    exact mem_devicesIn_hostMask_iff.mpr hfound
  · obtain ⟨owner, howner, hip, haddress⟩ := exists_hasAddressIn_of_ownerIp?_eq_some hfound
    exact (mem_devicesIn_iff_of_ne_hostMask hhost).mpr
      ⟨ownerIp?_ne_observer hdevice hfound, owner, howner, hip, Or.inr haddress⟩

theorem ownerIp?_eq_none_iff_devicesIn_eq_nil (hmask : mask ≠ .unspecified) :
    net.ownerIp? device.adminIp ip mask = none ↔ net.devicesIn device.adminIp ip mask = [] := by
  constructor
  · intro hnone
    rw [List.eq_nil_iff_forall_not_mem]
    intro found hfound
    have hother := ne_observer_of_mem_devicesIn hdevice hfound
    obtain ⟨owner, howner, rfl, hmeant⟩ := exists_hasAddressIn_of_mem_devicesIn hfound
    exact ownerIp?_ne_none_of_hasAddressIn hmask howner hother (hmeant.resolve_left hmask) hnone
  · intro hempty
    rw [Option.eq_none_iff_forall_ne_some]
    intro found hfound
    have hmem := mem_devicesIn_of_ownerIp?_eq_some hdevice hfound
    rw [hempty] at hmem
    exact List.not_mem_nil hmem

end

/-- An address with a mask other than `0.0.0.0` is looked up among the devices
that did not answer first. If the administrative address of one of them lies in
the subnet, the first such device in the order of names is found. Otherwise the
first device other than the observer that answered with an interface in the
subnet is found, together with its first such interface, and nothing if there is
none. When the observer answered, it is never found itself, the device found is
one of those that the subnet means, and nothing is found exactly when the subnet
means no device. -/
theorem owner?_eq_firstMatch (net : Network) (observer ip mask : Address)
    (hmask : mask ≠ .unspecified) :
    ((∃ entry, net.owner? observer ip mask = some (.declared entry)) ↔
        ∃ device ∈ net.devices, device.IsDownIn ip mask) ∧
      (∀ entry, net.owner? observer ip mask = some (.declared entry) ↔
        ∃ device, net.IsFirst (Device.IsDownIn · ip mask) device ∧ device.entry = entry) ∧
      ((∃ device interface, net.owner? observer ip mask = some (.polled device interface)) ↔
        (∀ device ∈ net.devices, ¬ device.IsDownIn ip mask) ∧
          ∃ device ∈ net.devices, device.AnswersIn observer ip mask) ∧
      (∀ device interface, net.owner? observer ip mask = some (.polled device interface) ↔
        (∀ other ∈ net.devices, ¬ other.IsDownIn ip mask) ∧
          net.IsFirst (Device.AnswersIn · observer ip mask) device ∧
            device.IsFirstInterfaceIn ip mask interface) ∧
      (net.owner? observer ip mask = none ↔
        (∀ device ∈ net.devices, ¬ device.IsDownIn ip mask) ∧
          ∀ device ∈ net.devices, ¬ device.AnswersIn observer ip mask) ∧
      ∀ device ∈ net.polledDevices, device.adminIp = observer →
        (∀ found, net.ownerIp? observer ip mask = some found →
          found ≠ observer ∧ found ∈ net.devicesIn observer ip mask) ∧
        (net.ownerIp? observer ip mask = none ↔ net.devicesIn observer ip mask = []) := by
  refine ⟨exists_owner?_eq_declared_iff hmask, fun _ => owner?_eq_declared_iff hmask,
    exists_owner?_eq_polled_iff hmask, fun _ _ => owner?_eq_polled_iff hmask,
    owner?_eq_none_iff hmask, ?_⟩
  intro device hdevice hobserver
  rw [← hobserver]
  constructor
  · intro found hfound
    exact ⟨ownerIp?_ne_observer hdevice hfound, mem_devicesIn_of_ownerIp?_eq_some hdevice hfound⟩
  · exact ownerIp?_eq_none_iff_devicesIn_eq_nil hdevice hmask

/-- The second router asks for an address of the first one, in a subnet that the
gateway has its administrative address in: the gateway is down and comes first. -/
theorem owner?_eq_firstMatch_gateway :
    Sample.lan ≠ .unspecified ∧
      (∃ device ∈ (Sample.routedTriangle.network []).devices,
        device.AnswersIn (Sample.ip 10 0 2 2) (Sample.ip 192 168 0 2) Sample.lan) ∧
      (∃ device ∈ (Sample.routedTriangle.network []).devices,
        device.IsDownIn (Sample.ip 192 168 0 2) Sample.lan) ∧
      (∃ entry, (Sample.routedTriangle.network []).owner? (Sample.ip 10 0 2 2)
        (Sample.ip 192 168 0 2) Sample.lan = some (.declared entry)) ∧
      (∃ device ∈ (Sample.routedTriangle.network []).polledDevices,
        device.adminIp = Sample.ip 10 0 2 2) ∧
      Sample.ip 192 168 0 1 ∈ (Sample.routedTriangle.network []).devicesIn (Sample.ip 10 0 2 2)
        (Sample.ip 192 168 0 2) Sample.lan := by
  have hmask : Sample.lan ≠ .unspecified := by decide
  have hanswers : ∃ device ∈ (Sample.routedTriangle.network []).devices,
      device.AnswersIn (Sample.ip 10 0 2 2) (Sample.ip 192 168 0 2) Sample.lan := by decide +kernel
  have hdown : ∃ device ∈ (Sample.routedTriangle.network []).devices,
      device.IsDownIn (Sample.ip 192 168 0 2) Sample.lan := by decide +kernel
  have hobserver : ∃ device ∈ (Sample.routedTriangle.network []).polledDevices,
      device.adminIp = Sample.ip 10 0 2 2 := by decide +kernel
  have hfound : (Sample.routedTriangle.network []).ownerIp? (Sample.ip 10 0 2 2)
      (Sample.ip 192 168 0 2) Sample.lan = some (Sample.ip 192 168 0 1) := by decide +kernel
  have hmatch := owner?_eq_firstMatch (Sample.routedTriangle.network []) (Sample.ip 10 0 2 2)
    (Sample.ip 192 168 0 2) Sample.lan hmask
  obtain ⟨device, hdevice, hip⟩ := hobserver
  exact ⟨hmask, hanswers, hdown, hmatch.1.mpr hdown, ⟨device, hdevice, hip⟩,
    ((hmatch.2.2.2.2.2 device hdevice hip).1 _ hfound).2⟩

/-- When the observer answered, a wider mask means at least the same devices. -/
theorem devicesIn_subset_of_isWider (net : Network) (observer : Device)
    (hobserver : observer ∈ net.polledDevices) (subnet wide narrow : Address)
    (hwider : wide.IsWider narrow) :
    net.devicesIn observer.adminIp subnet narrow ⊆ net.devicesIn observer.adminIp subnet wide := by
  intro found hfound
  by_cases hhost : wide = .hostMask
  · rw [hhost] at hwider ⊢
    rwa [Address.eq_hostMask_of_isWider hwider] at hfound
  · obtain ⟨device, hdevice, hip, hmeant⟩ := exists_hasAddressIn_of_mem_devicesIn hfound
    rw [mem_devicesIn_iff_of_ne_hostMask hhost]
    refine ⟨ne_observer_of_mem_devicesIn hobserver hfound, device, hdevice, hip, ?_⟩
    rcases hmeant with rfl | haddress
    · exact Or.inl (Address.eq_unspecified_of_isWider hwider)
    · exact Or.inr (hasAddressIn_of_isWider hwider haddress)

/-- The mask that leaves out the second octet as well is wider than the mask of a
local network, and reaches the first router in addition. -/
theorem devicesIn_subset_of_isWider_triangle :
    (Sample.ip 255 0 255 0).IsWider Sample.lan ∧
      ∃ observer ∈ (Sample.routedTriangle.network []).polledDevices,
        (Sample.routedTriangle.network []).devicesIn observer.adminIp (Sample.ip 10 3 0 0)
            Sample.lan = [Sample.ip 10 0 3 3, Sample.ip 10 3 0 10] ∧
          (Sample.routedTriangle.network []).devicesIn observer.adminIp (Sample.ip 10 3 0 0)
            (Sample.ip 255 0 255 0) =
              [Sample.ip 10 0 1 1, Sample.ip 10 0 3 3, Sample.ip 10 3 0 10] ∧
          (Sample.routedTriangle.network []).devicesIn observer.adminIp (Sample.ip 10 3 0 0)
              Sample.lan ⊆
            (Sample.routedTriangle.network []).devicesIn observer.adminIp (Sample.ip 10 3 0 0)
              (Sample.ip 255 0 255 0) := by
  have hwider : (Sample.ip 255 0 255 0).IsWider Sample.lan := by decide
  have hlisted : ∃ observer ∈ (Sample.routedTriangle.network []).polledDevices,
      (Sample.routedTriangle.network []).devicesIn observer.adminIp (Sample.ip 10 3 0 0)
          Sample.lan = [Sample.ip 10 0 3 3, Sample.ip 10 3 0 10] ∧
        (Sample.routedTriangle.network []).devicesIn observer.adminIp (Sample.ip 10 3 0 0)
          (Sample.ip 255 0 255 0) =
            [Sample.ip 10 0 1 1, Sample.ip 10 0 3 3, Sample.ip 10 3 0 10] := by decide +kernel
  obtain ⟨observer, hobserver, hnarrow, hwide⟩ := hlisted
  exact ⟨hwider, observer, hobserver, hnarrow, hwide,
    devicesIn_subset_of_isWider _ observer hobserver _ _ _ hwider⟩

/-! ## The observer -/

/-- The devices that a subnet means are listed in order, without repetition. -/
theorem pairwise_lt_devicesIn (net : Network) (observer subnet mask : Address) :
    (net.devicesIn observer subnet mask).Pairwise (· < ·) :=
  Address.pairwise_lt_toList_ofList (net.candidates observer subnet mask)

/-- A device finds itself only by its own administrative address, while it is down. -/
theorem ownerIp?_hostMask_eq_observer_iff :
    net.ownerIp? observer ip .hostMask = some observer ↔
      ip = observer ∧
        ∃ device ∈ net.devices, device.isPolled = false ∧ device.adminIp = observer := by
  have hmask : Address.hostMask ≠ .unspecified := by decide
  constructor
  · intro hfound
    obtain ⟨owner, howner, hip⟩ := Option.map_eq_some_iff.mp hfound
    cases owner with
    | declared entry =>
        obtain ⟨device, ⟨hdevice, ⟨hdown, hsame⟩, -⟩, rfl⟩ :=
          (owner?_eq_declared_iff hmask).mp howner
        have hexact : device.adminIp = ip := Address.sameSubnet_hostMask_iff.mp hsame
        exact ⟨hexact.symm.trans hip, device, hdevice, hdown, hip⟩
    | polled device interface =>
        obtain ⟨-, ⟨-, hanswers, -⟩, -⟩ := (owner?_eq_polled_iff hmask).mp howner
        exact absurd hip hanswers.2.1
  · rintro ⟨rfl, device, hdevice, hdown, rfl⟩
    have hfirst : net.IsFirst (Device.IsDownIn · device.adminIp .hostMask) device := by
      refine ⟨hdevice, ⟨hdown, Address.sameSubnet_hostMask_iff.mpr rfl⟩, ?_⟩
      intro other hother hotherDown hbefore
      obtain rfl := eq_of_adminIp_eq hother hdevice
        (Address.sameSubnet_hostMask_iff.mp hotherDown.2)
      exact hbefore.asymm hbefore
    exact Option.map_eq_some_iff.mpr
      ⟨_, (owner?_eq_declared_iff hmask).mpr ⟨device, hfirst, rfl⟩, rfl⟩

/-- The devices that a subnet means are listed in strictly increasing order. The
observer is one of them exactly when it did not answer and asks for its own
administrative address with a host mask. -/
theorem devicesIn_increasing_and_observer_mem_iff (net : Network)
    (observer subnet mask : Address) :
    (net.devicesIn observer subnet mask).Pairwise (· < ·) ∧
      (observer ∈ net.devicesIn observer subnet mask ↔
        mask = .hostMask ∧ subnet = observer ∧
          ∃ device ∈ net.devices, device.isPolled = false ∧ device.adminIp = observer) := by
  refine ⟨pairwise_lt_devicesIn net observer subnet mask, ?_⟩
  by_cases hhost : mask = .hostMask
  · rw [hhost, mem_devicesIn_hostMask_iff, ownerIp?_hostMask_eq_observer_iff, eq_self_iff_true,
      true_and]
  · rw [mem_devicesIn_iff_of_ne_hostMask hhost]
    constructor
    · intro hmem
      exact absurd rfl hmem.1
    · intro hmem
      exact absurd hmem.1 hhost

/-- The gateway of the triangle, which is not polled, is listed for its own address. -/
theorem not_forall_observer_notMem_devicesIn :
    ¬ ∀ (net : Network) (observer subnet mask : Address),
      (net.devicesIn observer subnet mask).Pairwise (· < ·) ∧
        observer ∉ net.devicesIn observer subnet mask := by
  intro hall
  have hgateway : Sample.ip 192 168 0 1 ∈ (Sample.routedTriangle.network []).devicesIn
      (Sample.ip 192 168 0 1) (Sample.ip 192 168 0 1) .hostMask := by
    decide +kernel
  exact (hall _ _ _ _).2 hgateway

end Network

end NetTopology
