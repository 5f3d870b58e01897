/-
# What is shown for an address

The name shown for an address has three sources: a device with exactly this
address, the owner that the observer sees behind it, and the address itself. The
second one is never needed. An owner under a host mask has exactly this address,
so its name has been found before, and an address without a name has no owner.
What is shown is therefore the name of a device with the address or the address
that was asked for, and the administrative address of a device is never shown in
place of another one.
-/

import NetTopology.Proofs.Address.Text
import NetTopology.Proofs.Owner.Name

namespace NetTopology

namespace Device

/-- The device has exactly this address, be it the administrative one or that of
an interface it reported. -/
def HasAddress (device : Device) (ip : Address) : Prop :=
  device.adminIp = ip ∨ device.ownsIp ip

variable {device : Device} {observer ip : Address}

theorem IsDownIn.hasAddress (hdown : device.IsDownIn ip .hostMask) : device.HasAddress ip :=
  .inl (Address.sameSubnet_hostMask_iff.mp hdown.2)

theorem AnswersIn.hasAddress (hanswers : device.AnswersIn observer ip .hostMask) :
    device.HasAddress ip := by
  obtain ⟨-, -, interface, hinterface, hlies⟩ := hanswers
  exact .inr (ownsIp_iff.mpr ⟨interface, hinterface, Interface.liesIn_hostMask_iff.mp hlies⟩)

/-- A device that owns an address of an interface has reported it. -/
theorem isPolled_of_ownsIp (howns : device.ownsIp ip) : device.isPolled := by
  obtain ⟨interface, hinterface, -⟩ := ownsIp_iff.mp howns
  cases hobservation : device.observation with
  | none => simp [interfaces, records, hobservation] at hinterface
  | some observation => rw [isPolled, hobservation, Option.isSome_some]

end Device

namespace Network

variable {net : Network} {observer ip : Address}

/-- An address has no name exactly when no device has it. -/
theorem nameOf?_eq_none_iff :
    net.nameOf? ip = none ↔ ∀ device ∈ net.devices, ¬ device.HasAddress ip := by
  have hsplit : net.nameOf? ip = none ↔ net.catalog.byAdminIp? ip = none ∧
      (net.polledDevices.find? fun device => device.ownsIp ip) = none := by
    rw [nameOf?]
    cases net.catalog.byAdminIp? ip <;> simp
  rw [hsplit, byAdminIp?_eq_none_iff, List.find?_eq_none]
  constructor
  · rintro ⟨hadmin, hforeign⟩ device hdevice (hip | howns)
    · exact hadmin device hdevice hip
    · exact hforeign device
        (mem_polledDevices_iff.mpr ⟨hdevice, Device.isPolled_of_ownsIp howns⟩) howns
  · intro habsent
    refine ⟨fun device hdevice hip => habsent device hdevice (.inl hip), ?_⟩
    intro device hdevice howns
    exact habsent device (mem_devices_of_mem_polledDevices hdevice) (.inr howns)

/-- A name that is found is that of a device with the address. -/
theorem exists_hasAddress_of_nameOf?_eq_some {name : String} (hname : net.nameOf? ip = some name) :
    ∃ device ∈ net.devices, device.HasAddress ip ∧ device.name = name := by
  rw [nameOf?] at hname
  split at hname
  · next entry hentry =>
      obtain ⟨hget, hip⟩ := Catalog.byAdminIp?_eq_some_iff.mp hentry
      refine ⟨⟨entry, net.observations[entry.name]?⟩, ?_, .inl hip, Option.some.inj hname⟩
      exact mem_devices_iff.mpr ⟨(Catalog.get?_eq_some_iff.mp hget).2, rfl⟩
  · obtain ⟨device, hfound, rfl⟩ := Option.map_eq_some_iff.mp hname
    have howns : device.ownsIp ip := by simpa using List.find?_some hfound
    exact ⟨device, mem_devices_of_mem_polledDevices (List.mem_of_find?_eq_some hfound),
      .inr howns, rfl⟩

/-- Nobody owns an address without a name, whoever asks. -/
theorem ownerIp?_eq_none_of_nameOf?_eq_none (hname : net.nameOf? ip = none) (observer : Address) :
    net.ownerIp? observer ip .hostMask = none := by
  have habsent := nameOf?_eq_none_iff.mp hname
  have hmask : Address.hostMask ≠ .unspecified := by decide
  rw [ownerIp?, Option.map_eq_none_iff, owner?_eq_none_iff hmask]
  exact ⟨fun device hdevice hdown => habsent device hdevice hdown.hasAddress,
    fun device hdevice hanswers => habsent device hdevice hanswers.hasAddress⟩

theorem displayName_eq_getD (net : Network) (observer ip : Address) :
    net.displayName observer ip = (net.nameOf? ip).getD ip.toText := by
  cases hname : net.nameOf? ip with
  | some name => rw [displayName_eq_of_nameOf?_eq_some hname, Option.getD_some]
  | none =>
      rw [displayName, hname, ownerIp?_eq_none_of_nameOf?_eq_none hname]
      rfl

/-- Where no name is found for an address, no owner is found either, so that the
administrative address of an owner is never shown. What is shown is the name of
a device with the address, or the address itself if no device has it; it reads
like the administrative address of some device only when it is the name of a
device with the address. -/
theorem displayName_eq_name_or_toText (net : Network) (observer ip : Address) :
    (net.nameOf? ip = none → net.ownerIp? observer ip .hostMask = none) ∧
    net.displayName observer ip = (net.nameOf? ip).getD ip.toText ∧
    ((∃ device ∈ net.devices, device.HasAddress ip ∧ net.displayName observer ip = device.name) ∨
      (∀ device ∈ net.devices, ¬ device.HasAddress ip) ∧
        net.displayName observer ip = ip.toText) ∧
    ∀ device ∈ net.devices, net.displayName observer ip = device.adminIp.toText →
      ∃ holder ∈ net.devices, holder.HasAddress ip ∧ holder.name = device.adminIp.toText := by
  have hshown := displayName_eq_getD net observer ip
  have hcases : (∃ device ∈ net.devices, device.HasAddress ip ∧
      net.displayName observer ip = device.name) ∨
        (∀ device ∈ net.devices, ¬ device.HasAddress ip) ∧
          net.displayName observer ip = ip.toText := by
    cases hname : net.nameOf? ip with
    | some name =>
        obtain ⟨device, hdevice, haddress, rfl⟩ := exists_hasAddress_of_nameOf?_eq_some hname
        exact .inl ⟨device, hdevice, haddress, by rw [hshown, hname, Option.getD_some]⟩
    | none => exact .inr ⟨nameOf?_eq_none_iff.mp hname, by rw [hshown, hname, Option.getD_none]⟩
  refine ⟨fun hname => ownerIp?_eq_none_of_nameOf?_eq_none hname observer, hshown, hcases, ?_⟩
  intro device hdevice htext
  rcases hcases with ⟨holder, hholder, haddress, hname⟩ | ⟨habsent, hip⟩
  · exact ⟨holder, hholder, haddress, hname.symm.trans htext⟩
  · -- the address would be administrative, but no device has it
    obtain rfl := Address.toText_injective (hip.symm.trans htext)
    exact absurd (.inl rfl) (habsent device hdevice)

end Network

end NetTopology
