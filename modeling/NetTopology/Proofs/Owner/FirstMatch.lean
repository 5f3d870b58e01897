/-
# The owner of an address is a first match

Devices that did not answer come before all others, however late their names
are, and within each of the two passes the order of names decides. What a pass
finds is described by the devices that it could have found: the one with the
smallest name, and of an answering device the first interface in the order in
which it was reported.
-/

import NetTopology.Proofs.NameOrder

namespace NetTopology

namespace Device

/-- The device did not answer, and its administrative address lies in the subnet. -/
def IsDownIn (device : Device) (ip mask : Address) : Prop :=
  device.isPolled = false ∧ device.adminIp.sameSubnet ip mask

/-- The device answered, is not the observer and has an interface in the subnet. -/
def AnswersIn (device : Device) (observer ip mask : Address) : Prop :=
  device.isPolled ∧ device.adminIp ≠ observer ∧
    ∃ interface ∈ device.interfaces, interface.liesIn ip mask

instance (device : Device) (ip mask : Address) : Decidable (device.IsDownIn ip mask) :=
  inferInstanceAs (Decidable (_ ∧ _))

instance (device : Device) (observer ip mask : Address) :
    Decidable (device.AnswersIn observer ip mask) :=
  inferInstanceAs (Decidable (_ ∧ _ ∧ _))

/-- The first interface of the device in the subnet, in the order of the report. -/
def IsFirstInterfaceIn (device : Device) (ip mask : Address) (interface : Interface) : Prop :=
  interface.liesIn ip mask ∧ ∃ earlier later, device.interfaces = earlier ++ interface :: later ∧
    ∀ other ∈ earlier, ¬ other.liesIn ip mask

variable {device : Device} {observer ip mask : Address}

theorem isDownIn_iff :
    (!device.isPolled && device.adminIp.sameSubnet ip mask) ↔ device.IsDownIn ip mask := by
  rw [Bool.and_eq_true, Bool.not_eq_true', IsDownIn]

theorem answersIn_iff :
    (device.isPolled && (device.adminIp != observer &&
      device.interfaces.any fun interface => interface.liesIn ip mask)) ↔
        device.AnswersIn observer ip mask := by
  rw [Bool.and_eq_true, Bool.and_eq_true, bne_iff_ne, List.any_eq_true, AnswersIn]

theorem find?_interfaces_eq_some_iff {interface : Interface} :
    (device.interfaces.find? fun interface => interface.liesIn ip mask) = some interface ↔
      device.IsFirstInterfaceIn ip mask interface := by
  rw [List.find?_eq_some_iff_append, IsFirstInterfaceIn]
  simp only [Bool.not_eq_true', Bool.not_eq_true]

theorem exists_isFirstInterfaceIn_iff :
    (∃ interface, device.IsFirstInterfaceIn ip mask interface) ↔
      ∃ interface ∈ device.interfaces, interface.liesIn ip mask := by
  simp only [← find?_interfaces_eq_some_iff, ← Option.isSome_iff_exists, List.find?_isSome]

end Device

namespace Network

section

variable (net : Network)

/-- The first device in the order of names, of all those that have a property. -/
def IsFirst (property : Device → Prop) (device : Device) : Prop :=
  device ∈ net.devices ∧ property device ∧
    ∀ other ∈ net.devices, property other → ¬ other.Precedes device

end

variable {net : Network} {observer ip mask : Address}

section

variable {property : Device → Prop} {test : Device → Bool}
  (htest : ∀ {device}, test device ↔ property device)

include htest

/-- A search over all devices finds the first one with the property. -/
theorem find?_devices_eq_some_iff {device : Device} :
    net.devices.find? test = some device ↔ net.IsFirst property device := by
  rw [find?_eq_some_iff_of_pairwise (pairwise_precedes net) fun _ _ => Device.Precedes.asymm]
  simp only [htest, IsFirst]

theorem find?_devices_eq_none_iff :
    net.devices.find? test = none ↔ ∀ device ∈ net.devices, ¬ property device := by
  simp only [List.find?_eq_none, htest]

end

/-- Where some device has a property, one of those that have it is the first. -/
theorem exists_isFirst_iff {property : Device → Prop} :
    (∃ device, net.IsFirst property device) ↔ ∃ device ∈ net.devices, property device := by
  classical
  have htest {device : Device} : decide (property device) ↔ property device := decide_eq_true_iff
  simp only [← find?_devices_eq_some_iff htest, ← Option.isSome_iff_exists, List.find?_isSome,
    htest]

/-! ## The two passes -/

theorem declaredOwner?_eq_some_iff {owner : Owner} :
    net.declaredOwner? ip mask = some owner ↔
      ∃ device, net.IsFirst (Device.IsDownIn · ip mask) device ∧
        Owner.declared device.entry = owner := by
  rw [declaredOwner?, Option.map_eq_some_iff]
  simp only [find?_devices_eq_some_iff Device.isDownIn_iff]

theorem declaredOwner?_eq_none_iff :
    net.declaredOwner? ip mask = none ↔ ∀ device ∈ net.devices, ¬ device.IsDownIn ip mask := by
  rw [declaredOwner?, Option.map_eq_none_iff, find?_devices_eq_none_iff Device.isDownIn_iff]

theorem polledOwner?_eq_some_iff {owner : Owner} :
    net.polledOwner? observer ip mask = some owner ↔
      ∃ device interface, net.IsFirst (Device.AnswersIn · observer ip mask) device ∧
        device.IsFirstInterfaceIn ip mask interface ∧ Owner.polled device interface = owner := by
  rw [polledOwner?_eq_bind, Option.bind_eq_some_iff]
  simp only [find?_devices_eq_some_iff Device.answersIn_iff, Option.map_eq_some_iff,
    Device.find?_interfaces_eq_some_iff, exists_and_left]

theorem polledOwner?_eq_none_iff :
    net.polledOwner? observer ip mask = none ↔
      ∀ device ∈ net.devices, ¬ device.AnswersIn observer ip mask := by
  rw [← Option.map_eq_none_iff (f := Owner.adminIp), map_adminIp_polledOwner?,
    Option.map_eq_none_iff, find?_devices_eq_none_iff Device.answersIn_iff]

/-! ## Both passes together -/

section

variable (hmask : mask ≠ .unspecified)

include hmask

/-- The second pass is only made when the first one finds nothing. -/
theorem owner?_eq_or :
    net.owner? observer ip mask =
      (net.declaredOwner? ip mask).or (net.polledOwner? observer ip mask) := by
  rw [owner?, if_neg hmask]
  cases net.declaredOwner? ip mask <;> rfl

theorem owner?_eq_declared_iff {entry : CatalogEntry} :
    net.owner? observer ip mask = some (.declared entry) ↔
      ∃ device, net.IsFirst (Device.IsDownIn · ip mask) device ∧ device.entry = entry := by
  rw [owner?_eq_or hmask, Option.or_eq_some_iff, declaredOwner?_eq_some_iff,
    polledOwner?_eq_some_iff]
  simp only [Owner.declared.injEq, reduceCtorEq, and_false, exists_false, or_false]

theorem owner?_eq_polled_iff {device : Device} {interface : Interface} :
    net.owner? observer ip mask = some (.polled device interface) ↔
      (∀ other ∈ net.devices, ¬ other.IsDownIn ip mask) ∧
        net.IsFirst (Device.AnswersIn · observer ip mask) device ∧
          device.IsFirstInterfaceIn ip mask interface := by
  rw [owner?_eq_or hmask, Option.or_eq_some_iff, declaredOwner?_eq_some_iff,
    declaredOwner?_eq_none_iff, polledOwner?_eq_some_iff]
  simp only [Owner.polled.injEq, reduceCtorEq, and_false, exists_false, false_or]
  apply and_congr_right
  intro _
  constructor
  · rintro ⟨_, _, hfirst, hinterface, rfl, rfl⟩
    exact ⟨hfirst, hinterface⟩
  · rintro ⟨hfirst, hinterface⟩
    exact ⟨device, interface, hfirst, hinterface, rfl, rfl⟩

theorem exists_owner?_eq_declared_iff :
    (∃ entry, net.owner? observer ip mask = some (.declared entry)) ↔
      ∃ device ∈ net.devices, device.IsDownIn ip mask := by
  simp only [owner?_eq_declared_iff hmask]
  rw [exists_comm, ← exists_isFirst_iff]
  simp only [exists_and_left, exists_eq', and_true]

theorem exists_owner?_eq_polled_iff :
    (∃ device interface, net.owner? observer ip mask = some (.polled device interface)) ↔
      (∀ device ∈ net.devices, ¬ device.IsDownIn ip mask) ∧
        ∃ device ∈ net.devices, device.AnswersIn observer ip mask := by
  simp only [owner?_eq_polled_iff hmask, exists_and_left, Device.exists_isFirstInterfaceIn_iff]
  rw [← exists_isFirst_iff]
  apply and_congr_right
  intro _
  -- the first device that answers in the subnet has an interface there
  exact exists_congr fun device => and_iff_left_of_imp fun hfirst => hfirst.2.1.2.2

theorem owner?_eq_none_iff :
    net.owner? observer ip mask = none ↔
      (∀ device ∈ net.devices, ¬ device.IsDownIn ip mask) ∧
        ∀ device ∈ net.devices, ¬ device.AnswersIn observer ip mask := by
  rw [owner?_eq_or hmask, Option.or_eq_none_iff, declaredOwner?_eq_none_iff,
    polledOwner?_eq_none_iff]

end

end Network

end NetTopology
