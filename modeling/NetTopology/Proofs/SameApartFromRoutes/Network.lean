/-
# Networks that differ in the routes of one device

Two cycles of one catalog may differ in nothing but the routes that one device
reports. Without their routes the devices of both networks are then the same,
and whatever does not read routes is the same of both lists of devices. All
other devices are the same altogether. In particular an address has an owner
with the same interface in both networks, so a route of another device resolves
in the same way, even though its next hop may be the device that differs.
-/

import NetTopology.Proofs.Correspondence
import NetTopology.Proofs.NextHop
import NetTopology.Details

namespace NetTopology

def Observation.withoutRoutes (observation : Observation) : Observation :=
  { observation with routes := [] }

/-- The two sets differ at most in the routes of the named device. -/
structure ObservationSet.SameApartFromRoutes (name : String) (first second : ObservationSet) :
    Prop where
  /-- All other devices report the same, or nothing. -/
  others : ∀ other : String, other ≠ name → first[other]? = second[other]?
  /-- Apart from its routes the device reports the same, or nothing. -/
  own : first[name]?.map Observation.withoutRoutes = second[name]?.map Observation.withoutRoutes

/-- Other routes of a device make no other difference. -/
theorem ObservationSet.sameApartFromRoutes_insert {observations : ObservationSet} {name : String}
    {observation : Observation} (hreported : observations[name]? = some observation)
    (routes : List Route) :
    observations.SameApartFromRoutes name
      (observations.insert name { observation with routes := routes }) where
  others other hother := by
    have hdiffer : compare name other ≠ .eq := by
      intro heq
      exact hother (Std.LawfulEqOrd.eq_of_compare heq).symm
    rw [Std.ExtTreeMap.getElem?_insert, if_neg hdiffer]
  own := by
    rw [Std.ExtTreeMap.getElem?_insert_self, hreported]
    rfl

namespace Device

def withoutRoutes (device : Device) : Device where
  entry := device.entry
  observation := device.observation.map Observation.withoutRoutes

section

variable (device : Device)

theorem isPolled_withoutRoutes : device.withoutRoutes.isPolled = device.isPolled :=
  Option.isSome_map

/-- A sort of records other than the routes stays. -/
theorem records_withoutRoutes {α : Type} {sort : Observation → List α}
    (hsort : ∀ observation : Observation, sort observation.withoutRoutes = sort observation) :
    device.withoutRoutes.records sort = device.records sort := by
  rw [records, records, withoutRoutes]
  cases device.observation with
  | none => rfl
  | some observation => exact hsort observation

theorem interfaces_withoutRoutes : device.withoutRoutes.interfaces = device.interfaces :=
  device.records_withoutRoutes fun _ => rfl

theorem links_withoutRoutes : device.withoutRoutes.links = device.links :=
  device.records_withoutRoutes fun _ => rfl

theorem igmps_withoutRoutes : device.withoutRoutes.igmps = device.igmps :=
  device.records_withoutRoutes fun _ => rfl

theorem pimRps_withoutRoutes : device.withoutRoutes.pimRps = device.pimRps :=
  device.records_withoutRoutes fun _ => rfl

theorem pimBsrs_withoutRoutes : device.withoutRoutes.pimBsrs = device.pimBsrs :=
  device.records_withoutRoutes fun _ => rfl

theorem systemInfo_withoutRoutes : device.withoutRoutes.systemInfo = device.systemInfo := by
  rw [systemInfo, systemInfo, withoutRoutes]
  cases device.observation <;> rfl

end

/-- What does not read routes is the same of two devices that are the same
without their routes. -/
theorem eq_of_withoutRoutes_eq {α : Type} {view : Device → α} {first second : Device}
    (hsame : first.withoutRoutes = second.withoutRoutes)
    (hview : ∀ device : Device, view device.withoutRoutes = view device) :
    view first = view second := by
  rw [← hview first, hsame, hview second]

theorem sameAddresses_of_withoutRoutes_eq {first second : Device}
    (hsame : first.withoutRoutes = second.withoutRoutes) : first.SameAddresses second where
  entry := eq_of_withoutRoutes_eq hsame fun _ => rfl
  isPolled_eq := eq_of_withoutRoutes_eq hsame isPolled_withoutRoutes
  any_interfaces_eq property := by
    rw [eq_of_withoutRoutes_eq hsame interfaces_withoutRoutes]

end Device

/-- What is seen of an owner: its administrative address, and the interface that
has the address in question. -/
def Owner.face (owner : Owner) : Address × Option Interface :=
  (owner.adminIp, owner.interface?)

namespace Network

/-- The two networks have one catalog, and their observations differ at most in
the routes of one of its devices. -/
structure SameApartFromRoutes (entry : CatalogEntry) (first second : Network) : Prop where
  catalog : first.catalog = second.catalog
  entry_mem : entry ∈ first.catalog.entries
  observations : first.observations.SameApartFromRoutes entry.name second.observations

namespace SameApartFromRoutes

variable {entry : CatalogEntry} {first second : Network} {α : Type}

theorem symm (hsame : SameApartFromRoutes entry first second) :
    SameApartFromRoutes entry second first where
  catalog := hsame.catalog.symm
  entry_mem := hsame.catalog ▸ hsame.entry_mem
  observations :=
    { others := fun other hother => (hsame.observations.others other hother).symm
      own := hsame.observations.own.symm }

/-! ## What does not read routes -/

theorem correspond (hsame : SameApartFromRoutes entry first second) :
    first.Correspond (fun one other => one.withoutRoutes = other.withoutRoutes) second where
  catalog := hsame.catalog
  device found := by
    by_cases hname : found.name = entry.name
    · rw [Device.withoutRoutes, Device.withoutRoutes, hname, hsame.observations.own]
    · rw [hsame.observations.others found.name hname]

theorem correspond_sameAddresses (hsame : SameApartFromRoutes entry first second) :
    first.Correspond Device.SameAddresses second :=
  hsame.correspond.imp fun _ _ => Device.sameAddresses_of_withoutRoutes_eq

theorem map_filter_devices_eq (hsame : SameApartFromRoutes entry first second)
    {property : Device → Bool} {view : Device → α}
    (hproperty : ∀ device : Device, property device.withoutRoutes = property device)
    (hview : ∀ device : Device, view device.withoutRoutes = view device) :
    (first.devices.filter property).map view = (second.devices.filter property).map view :=
  hsame.correspond.map_filter_devices_eq
    (fun _ _ halike => Device.eq_of_withoutRoutes_eq halike hproperty)
    fun _ _ halike => Device.eq_of_withoutRoutes_eq halike hview

theorem map_devices_eq (hsame : SameApartFromRoutes entry first second) {view : Device → α}
    (hview : ∀ device : Device, view device.withoutRoutes = view device) :
    first.devices.map view = second.devices.map view :=
  hsame.correspond.map_devices_eq fun _ _ halike => Device.eq_of_withoutRoutes_eq halike hview

theorem flatMap_devices_eq (hsame : SameApartFromRoutes entry first second)
    {parts : Device → List α}
    (hparts : ∀ device : Device, parts device.withoutRoutes = parts device) :
    first.devices.flatMap parts = second.devices.flatMap parts := by
  rw [List.flatMap_def, List.flatMap_def, hsame.map_devices_eq hparts]

theorem map_polledDevices_eq (hsame : SameApartFromRoutes entry first second) {view : Device → α}
    (hview : ∀ device : Device, view device.withoutRoutes = view device) :
    first.polledDevices.map view = second.polledDevices.map view :=
  hsame.map_filter_devices_eq Device.isPolled_withoutRoutes hview

theorem flatMap_polledDevices_eq (hsame : SameApartFromRoutes entry first second)
    {parts : Device → List α}
    (hparts : ∀ device : Device, parts device.withoutRoutes = parts device) :
    first.polledDevices.flatMap parts = second.polledDevices.flatMap parts := by
  rw [List.flatMap_def, List.flatMap_def, hsame.map_polledDevices_eq hparts]

theorem ownerIp?_eq (hsame : SameApartFromRoutes entry first second)
    (observer ip mask : Address) :
    first.ownerIp? observer ip mask = second.ownerIp? observer ip mask :=
  hsame.correspond_sameAddresses.ownerIp?_eq observer ip mask

/-- An address has an owner with the same interface in both networks. -/
theorem map_face_owner?_eq (hsame : SameApartFromRoutes entry first second)
    (observer ip mask : Address) :
    (first.owner? observer ip mask).map Owner.face =
      (second.owner? observer ip mask).map Owner.face := by
  apply map_owner?_eq
  · have hdeclared : Owner.face ∘ (fun device : Device => Owner.declared device.entry) =
        fun device : Device => (device.adminIp, none) := rfl
    rw [declaredOwner?, declaredOwner?, Option.map_map, Option.map_map, hdeclared]
    apply hsame.correspond.map_find?_devices_eq
    · intro one other halike
      rw [(Device.sameAddresses_of_withoutRoutes_eq halike).isPolled_eq,
        (Device.sameAddresses_of_withoutRoutes_eq halike).adminIp_eq]
    · intro one other halike
      rw [(Device.sameAddresses_of_withoutRoutes_eq halike).adminIp_eq]
  · -- the faces of all interfaces that come into question are found in the same order
    let face (device : Device) : Option (Address × Option Interface) :=
      (device.interfaces.find? fun interface => interface.liesIn ip mask).map fun interface =>
        (device.adminIp, some interface)
    have hfaces (net : Network) : (net.polledOwner? observer ip mask).map Owner.face =
        ((net.polledDevices.filter fun device => device.adminIp != observer).map face).findSome?
          id := by
      rw [polledOwner?, List.map_findSome?, List.findSome?_map]
      congr 1
      funext device
      exact Option.map_map _ _ _
    rw [hfaces, hfaces, polledDevices, polledDevices, List.filter_filter, List.filter_filter,
      hsame.map_filter_devices_eq]
    · intro device
      rw [device.isPolled_withoutRoutes]
      rfl
    · intro device
      show (device.withoutRoutes.interfaces.find? _).map _ = _
      rw [device.interfaces_withoutRoutes]
      rfl

/-! ## The other devices -/

theorem filter_devices_eq (hsame : SameApartFromRoutes entry first second) :
    (first.devices.filter fun device => device.adminIp != entry.ip) =
      second.devices.filter fun device => device.adminIp != entry.ip := by
  rw [devices, devices, ← hsame.catalog, List.filter_map, List.filter_map]
  apply List.map_congr_left
  intro found hfound
  obtain ⟨hmem, hip⟩ := List.mem_filter.mp hfound
  have hname : found.name ≠ entry.name := by
    intro hname
    -- an entry with this name would have the address
    have hdeclared := Catalog.mem_entries_iff.mp hsame.entry_mem
    rw [← hname, Catalog.mem_entries_iff.mp hmem] at hdeclared
    have hsameIp : found.ip = entry.ip :=
      congrArg Declaration.ip (Option.some.inj hdeclared)
    exact bne_iff_ne.mp hip hsameIp
  rw [hsame.observations.others found.name hname]

theorem filter_polledDevices_eq (hsame : SameApartFromRoutes entry first second) :
    (first.polledDevices.filter fun device => device.adminIp != entry.ip) =
      second.polledDevices.filter fun device => device.adminIp != entry.ip := by
  have hswap (net : Network) : (net.polledDevices.filter fun device => device.adminIp != entry.ip) =
      (net.devices.filter fun device => device.adminIp != entry.ip).filter Device.isPolled := by
    rw [polledDevices, List.filter_filter, List.filter_filter]
    simp only [Bool.and_comm]
  rw [hswap, hswap, hsame.filter_devices_eq]

/-- Every other device that answered is in both networks. -/
theorem mem_polledDevices (hsame : SameApartFromRoutes entry first second) {device : Device}
    (hdevice : device ∈ first.polledDevices) (hother : device.adminIp ≠ entry.ip) :
    device ∈ second.polledDevices := by
  have hmem : device ∈ first.polledDevices.filter fun device => device.adminIp != entry.ip :=
    List.mem_filter.mpr ⟨hdevice, bne_iff_ne.mpr hother⟩
  rw [hsame.filter_polledDevices_eq] at hmem
  exact (List.mem_filter.mp hmem).1

theorem find?_polledDevices_eq (hsame : SameApartFromRoutes entry first second) {ip : Address}
    (hother : ip ≠ entry.ip) :
    (first.polledDevices.find? fun device => device.adminIp == ip) =
      second.polledDevices.find? fun device => device.adminIp == ip := by
  have hothers (net : Network) : (net.polledDevices.find? fun device => device.adminIp == ip) =
      (net.polledDevices.filter fun device => device.adminIp != entry.ip).find? fun device =>
        device.adminIp == ip := by
    rw [List.find?_filter]
    congr 1
    funext device
    by_cases hip : device.adminIp = ip
    · simp [hip, hother]
    · simp [hip]
  rw [hothers, hothers, hsame.filter_polledDevices_eq]

/-! ## Routes of other devices -/

theorem map_face_via_resolve_eq (hsame : SameApartFromRoutes entry first second)
    (device : Device) (route : Route) :
    (first.resolve device route).via.map Owner.face =
      (second.resolve device route).via.map Owner.face := by
  rw [via_resolve, via_resolve]
  by_cases hdirect : device.isDirect route = true
  · rw [if_pos hdirect, if_pos hdirect]
  · rw [if_neg hdirect, if_neg hdirect]
    exact hsame.map_face_owner?_eq device.adminIp route.viaIp .hostMask

theorem viaIp?_resolve_eq (hsame : SameApartFromRoutes entry first second)
    (device : Device) (route : Route) :
    (first.resolve device route).viaIp? = (second.resolve device route).viaIp? := by
  have hip (resolved : ResolvedRoute) :
      resolved.viaIp? = (resolved.via.map Owner.face).map Prod.fst := by
    rw [Option.map_map]
    rfl
  rw [hip, hip, hsame.map_face_via_resolve_eq]

/-- The next hop has the address on the same interface. -/
theorem interface?_via_resolve_eq (hsame : SameApartFromRoutes entry first second)
    (device : Device) (route : Route) :
    (first.resolve device route).via.bind Owner.interface? =
      (second.resolve device route).via.bind Owner.interface? := by
  have hinterface (via : Option Owner) :
      via.bind Owner.interface? = (via.map Owner.face).bind Prod.snd := by
    rw [Option.bind_map]
    rfl
  rw [hinterface, hinterface, hsame.map_face_via_resolve_eq]

theorem destinations_resolve_eq (hsame : SameApartFromRoutes entry first second)
    (device : Device) (route : Route) :
    (first.resolve device route).destinations = (second.resolve device route).destinations :=
  hsame.correspond_sameAddresses.devicesIn_eq device.adminIp route.dstSubnet route.dstMask

/-- What is read off the routes of another device is the same in both networks
when it is the same of each route. -/
theorem map_filter_src_eq (hsame : SameApartFromRoutes entry first second) {src : Address}
    (hother : src ≠ entry.ip) {one other : ResolvedRoute → α}
    (hview : ∀ device route,
      one (first.resolve device route) = other (second.resolve device route)) :
    (first.resolvedRoutes.filter fun resolved => resolved.src == src).map one =
      (second.resolvedRoutes.filter fun resolved => resolved.src == src).map other := by
  rw [filter_src_resolvedRoutes, filter_src_resolvedRoutes, hsame.find?_polledDevices_eq hother]
  cases second.polledDevices.find? fun device => device.adminIp == src with
  | none => rfl
  | some device =>
      rw [Option.elim_some, Option.elim_some, List.map_map, List.map_map]
      apply List.map_congr_left
      intro route _
      exact hview device route

end SameApartFromRoutes

end Network

end NetTopology
