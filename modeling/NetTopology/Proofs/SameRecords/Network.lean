/-
# Networks that hold the same records

Two observations hold the same records when each of their lists has the same
elements, in whatever order and however often. Two networks of one catalog whose
observations agree in this way have devices that correspond to each other. What
is asked about the list of devices, and about a list of records only by what
occurs in it, has the same answer in both networks: in particular an address has
the same owner, a subnet means the same devices, and a route resolves to the
same next hop and selects the same paths.
-/

import NetTopology.Proofs.Correspondence
import NetTopology.Proofs.Selection

namespace NetTopology

/-- The two observations hold the same interfaces, routes, links, multicast
routes and memberships, in any order and with any repetitions. Whatever else
they hold plays no part. -/
structure Observation.SameRecords (first second : Observation) : Prop where
  interfaces : ∀ record, record ∈ first.interfaces ↔ record ∈ second.interfaces
  routes : ∀ record, record ∈ first.routes ↔ record ∈ second.routes
  links : ∀ record, record ∈ first.links ↔ record ∈ second.links
  mroutes : ∀ record, record ∈ first.mroutes ↔ record ∈ second.mroutes
  igmps : ∀ record, record ∈ first.igmps ↔ record ∈ second.igmps

theorem Observation.SameRecords.refl (observation : Observation) :
    observation.SameRecords observation where
  interfaces _ := Iff.rfl
  routes _ := Iff.rfl
  links _ := Iff.rfl
  mroutes _ := Iff.rfl
  igmps _ := Iff.rfl

theorem Observation.SameRecords.symm {first second : Observation}
    (hsame : first.SameRecords second) : second.SameRecords first where
  interfaces record := (hsame.interfaces record).symm
  routes record := (hsame.routes record).symm
  links record := (hsame.links record).symm
  mroutes record := (hsame.mroutes record).symm
  igmps record := (hsame.igmps record).symm

/-- The same devices answered, each with the same records. -/
def ObservationSet.SameRecords (first second : ObservationSet) : Prop :=
  ∀ name : String, Option.Rel Observation.SameRecords first[name]? second[name]?

theorem ObservationSet.SameRecords.refl (observations : ObservationSet) :
    observations.SameRecords observations := by
  intro name
  cases observations[name]? with
  | some observation => exact .some (.refl observation)
  | none => exact .none

theorem ObservationSet.SameRecords.symm {first second : ObservationSet}
    (hsame : first.SameRecords second) : second.SameRecords first := by
  intro name
  have hrel := hsame name
  generalize first[name]? = one, second[name]? = other at hrel
  cases hrel with
  | some hrecords => exact .some hrecords.symm
  | none => exact .none

theorem ObservationSet.SameRecords.insert {first second : ObservationSet}
    (hsame : first.SameRecords second) (name : String) {one other : Observation}
    (hrecords : one.SameRecords other) :
    ObservationSet.SameRecords (first.insert name one) (second.insert name other) := by
  intro found
  rw [Std.ExtTreeMap.getElem?_insert, Std.ExtTreeMap.getElem?_insert]
  split
  · exact .some hrecords
  · exact hsame found

namespace Device

/-- The two devices have one catalog entry and the same records. -/
structure SameRecords (first second : Device) : Prop where
  entry : first.entry = second.entry
  observation : Option.Rel Observation.SameRecords first.observation second.observation

namespace SameRecords

variable {first second : Device}

theorem name_eq (hsame : first.SameRecords second) : first.name = second.name :=
  congrArg CatalogEntry.name hsame.entry

theorem adminIp_eq (hsame : first.SameRecords second) : first.adminIp = second.adminIp :=
  congrArg (fun entry => entry.ip) hsame.entry

theorem isPolled_eq (hsame : first.SameRecords second) : first.isPolled = second.isPolled := by
  have hrel := hsame.observation
  rw [isPolled, isPolled]
  generalize first.observation = one, second.observation = other at hrel
  cases hrel <;> rfl

/-- A sort of records that agrees in both observations agrees in both devices. -/
theorem mem_records_iff (hsame : first.SameRecords second) {α : Type}
    {sort : Observation → List α}
    (hsort : ∀ one other : Observation, one.SameRecords other →
      ∀ record, record ∈ sort one ↔ record ∈ sort other) (record : α) :
    record ∈ first.records sort ↔ record ∈ second.records sort := by
  have hrel := hsame.observation
  rw [records, records]
  generalize first.observation = one, second.observation = other at hrel
  cases hrel with
  | some hrecords => exact hsort _ _ hrecords record
  | none => exact Iff.rfl

theorem mem_interfaces_iff (hsame : first.SameRecords second) (interface : Interface) :
    interface ∈ first.interfaces ↔ interface ∈ second.interfaces :=
  hsame.mem_records_iff (fun _ _ hrecords => hrecords.interfaces) interface

theorem mem_routes_iff (hsame : first.SameRecords second) (route : Route) :
    route ∈ first.routes ↔ route ∈ second.routes :=
  hsame.mem_records_iff (fun _ _ hrecords => hrecords.routes) route

theorem mem_links_iff (hsame : first.SameRecords second) (link : Link) :
    link ∈ first.links ↔ link ∈ second.links :=
  hsame.mem_records_iff (fun _ _ hrecords => hrecords.links) link

theorem mem_mroutes_iff (hsame : first.SameRecords second) (route : MulticastRoute) :
    route ∈ first.mroutes ↔ route ∈ second.mroutes :=
  hsame.mem_records_iff (fun _ _ hrecords => hrecords.mroutes) route

theorem mem_igmps_iff (hsame : first.SameRecords second) (membership : Membership) :
    membership ∈ first.igmps ↔ membership ∈ second.igmps :=
  hsame.mem_records_iff (fun _ _ hrecords => hrecords.igmps) membership

/-- The same interfaces answer the same questions about addresses. -/
theorem sameAddresses (hsame : first.SameRecords second) : first.SameAddresses second where
  entry := hsame.entry
  isPolled_eq := hsame.isPolled_eq
  any_interfaces_eq property := by
    rw [Bool.eq_iff_iff, List.any_eq_true, List.any_eq_true]
    simp only [hsame.mem_interfaces_iff]

end SameRecords

end Device

namespace Network

/-- The two networks have one catalog and observations with the same records. -/
structure SameRecords (first second : Network) : Prop where
  catalog : first.catalog = second.catalog
  observations : first.observations.SameRecords second.observations

namespace SameRecords

variable {first second : Network}

theorem symm (hsame : first.SameRecords second) : second.SameRecords first :=
  ⟨hsame.catalog.symm, hsame.observations.symm⟩

theorem correspond (hsame : first.SameRecords second) :
    first.Correspond Device.SameRecords second where
  catalog := hsame.catalog
  device entry := ⟨rfl, hsame.observations entry.name⟩

theorem correspond_sameAddresses (hsame : first.SameRecords second) :
    first.Correspond Device.SameAddresses second :=
  hsame.correspond.imp fun _ _ hrecords => hrecords.sameAddresses

theorem exists_polledDevice (hsame : first.SameRecords second) {device : Device}
    (hdevice : device ∈ first.polledDevices) :
    ∃ other ∈ second.polledDevices, device.SameRecords other := by
  obtain ⟨hmem, hpolled⟩ := mem_polledDevices_iff.mp hdevice
  obtain ⟨other, hother, hrecords⟩ := hsame.correspond.exists_device hmem
  rw [hrecords.isPolled_eq] at hpolled
  exact ⟨other, mem_polledDevices_iff.mpr ⟨hother, hpolled⟩, hrecords⟩

/-- An address has the same owner in both networks. -/
theorem ownerIp?_eq (hsame : first.SameRecords second) (observer ip mask : Address) :
    first.ownerIp? observer ip mask = second.ownerIp? observer ip mask :=
  hsame.correspond_sameAddresses.ownerIp?_eq observer ip mask

/-! ## Routes -/

variable {device other : Device}

theorem viaIp?_resolve_eq (hsame : first.SameRecords second) (hrecords : device.SameRecords other)
    (route : Route) :
    (first.resolve device route).viaIp? = (second.resolve other route).viaIp? := by
  rw [viaIp?_resolve, viaIp?_resolve, hrecords.sameAddresses.isDirect_eq,
    hrecords.adminIp_eq, hsame.ownerIp?_eq]

theorem destinations_resolve_eq (hsame : first.SameRecords second)
    (hrecords : device.SameRecords other) (route : Route) :
    (first.resolve device route).destinations = (second.resolve other route).destinations := by
  rw [resolve, resolve, hrecords.adminIp_eq, hsame.correspond_sameAddresses.devicesIn_eq]

/-- A route selects the same paths in both networks. -/
theorem selectedBy_resolve_eq (hsame : first.SameRecords second)
    (hrecords : device.SameRecords other) (route : Route) :
    first.selectedBy (first.resolve device route) =
      second.selectedBy (second.resolve other route) :=
  selectedBy_congr hsame.catalog hrecords.name_eq rfl (hrecords.sameAddresses.isDirect_eq route)
    (hsame.viaIp?_resolve_eq hrecords route) (hsame.destinations_resolve_eq hrecords route)

end SameRecords

end Network

end NetTopology
