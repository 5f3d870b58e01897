/-
# Roles among multicast routers

A device is a rendezvous point or a bootstrap router when a device that answered
reports one of its addresses as such, be it the device itself. The snapshot names
the role in one label of the device, but only if the device has reported its
uptime; without an uptime the role is not shown.
-/

import NetTopology.Proofs.Address.Text
import NetTopology.Proofs.Owner
import NetTopology.Samples
import NetTopology.Snapshot

namespace NetTopology

/-- The texts of the labels that name a role. -/
def EntityLabel.roleTexts : List String :=
  ["RP & BSR", "RP", "BSR"]

/-- The roles that the labels of an entity name. -/
def Snapshot.rolesOf (snapshot : Snapshot) (entity : Address) : List String :=
  ((snapshot.labels.filter fun label => label.target == entity).map EntityLabel.text).filter
    fun text => text ∈ EntityLabel.roleTexts

namespace Network

section

variable (net : Network) (device : Device)

/-- A device that answered reports an address of the given one, in the list that
`reported` reads. -/
def ReportsAddressOf (reported : Device → List Address) : Prop :=
  ∃ reporter ∈ net.polledDevices, ∃ ip ∈ reported reporter,
    ∃ interface ∈ device.interfaces, interface.ip = some ip

instance (reported : Device → List Address) :
    Decidable (net.ReportsAddressOf device reported) :=
  inferInstanceAs (Decidable (∃ reporter ∈ net.polledDevices, ∃ ip ∈ reported reporter,
    ∃ interface ∈ device.interfaces, interface.ip = some ip))

/-- The role of a device as it is reported, in at most one text. -/
def reportedRoles : List String :=
  if net.ReportsAddressOf device Device.pimRps ∧ net.ReportsAddressOf device Device.pimBsrs then
    ["RP & BSR"]
  else if net.ReportsAddressOf device Device.pimRps then ["RP"]
  else if net.ReportsAddressOf device Device.pimBsrs then ["BSR"]
  else []

end

end Network

/-! ## The labels of one device -/

namespace EntityLabel

theorem toText_notMem_roleTexts (ip : Address) : ip.toText ∉ roleTexts := by
  intro hmem
  have hletter : ∀ role ∈ roleTexts, 'R' ∈ role.toList := by decide +kernel
  exact Address.ne_toText_of_mem (hletter _ hmem) (by decide) ip rfl

theorem uptimeText_notMem_roleTexts (duration : String) :
    "uptime: " ++ duration ∉ roleTexts := by
  intro hmem
  have hletter : ∀ role ∈ roleTexts, 'u' ∉ role.toList := by decide +kernel
  apply hletter _ hmem
  rw [String.toList_append]
  exact List.mem_append_left _ (by decide)

end EntityLabel

namespace Device

variable {device : Device} {rps bsrs : List Address}

theorem target_of_mem_labels {label : EntityLabel} (hmem : label ∈ device.labels rps bsrs) :
    label.target = device.adminIp := by
  rcases List.mem_cons.mp hmem with rfl | hstatus
  · rfl
  · cases huptime : device.uptime? with
    | none =>
        rw [huptime] at hstatus
        cases hstatus
    | some uptime =>
        rw [huptime] at hstatus
        rcases List.mem_append.mp hstatus with hrole | huptime
        · obtain ⟨role, -, rfl⟩ := List.mem_map.mp hrole
          rfl
        · obtain rfl := List.mem_singleton.mp huptime
          rfl

theorem mem_roleTexts_of_pimRole?_eq_some {role : String}
    (hrole : device.pimRole? rps bsrs = some role) : role ∈ EntityLabel.roleTexts := by
  rw [pimRole?] at hrole
  split at hrole
  · obtain rfl := Option.some.inj hrole
    decide
  · obtain rfl := Option.some.inj hrole
    decide
  · obtain rfl := Option.some.inj hrole
    decide
  · cases hrole

/-- The role stands between the address and the uptime, which are no roles. -/
theorem filter_roleTexts_labels :
    ((device.labels rps bsrs).map EntityLabel.text).filter
        (fun text => text ∈ EntityLabel.roleTexts) =
      if device.uptime?.isSome then (device.pimRole? rps bsrs).toList else [] := by
  have haddress := EntityLabel.toText_notMem_roleTexts device.adminIp
  rw [labels]
  cases device.uptime? with
  | none => simp [label, haddress]
  | some uptime =>
      have huptime := EntityLabel.uptimeText_notMem_roleTexts (Quantity.duration uptime)
      cases hrole : device.pimRole? rps bsrs with
      | none => simp [label, haddress, huptime]
      | some role =>
          simp [label, haddress, huptime, mem_roleTexts_of_pimRole?_eq_some hrole]

end Device

namespace Network

variable {net : Network} {device : Device}

/-- The labels of a snapshot about a device are those of the device. -/
theorem filter_target_labels (thresholds : Thresholds) (hdevice : device ∈ net.devices) :
    ((net.snapshot thresholds).labels.filter fun label => label.target == device.adminIp) =
      device.labels net.rendezvousPoints net.bootstrapRouters := by
  have hown : (net.devices.find? fun other => other.adminIp == device.adminIp) = some device :=
    deviceByAdminIp?_eq_some_iff.mpr ⟨hdevice, rfl⟩
  show (net.devices.flatMap fun device =>
    device.labels net.rendezvousPoints net.bootstrapRouters).filter _ = _
  rw [List.filter_flatMap, flatMap_eq_of_adminIp (pairwise_adminIp_ne net) ?_, hown,
    Option.elim_some, List.filter_eq_self]
  · intro label hlabel
    rw [Device.target_of_mem_labels hlabel, beq_self_eq_true]
  · intro other _ hother
    rw [List.filter_eq_nil_iff]
    intro label hlabel htarget
    exact hother ((Device.target_of_mem_labels hlabel).symm.trans (beq_iff_eq.mp htarget))

theorem any_ownsIp_eq (reported : Device → List Address) :
    (net.polledDevices.flatMap reported).any device.ownsIp =
      decide (net.ReportsAddressOf device reported) := by
  rw [Bool.eq_iff_iff, decide_eq_true_iff]
  simp only [List.any_eq_true, List.mem_flatMap, Device.ownsIp_iff, ReportsAddressOf]
  constructor
  · rintro ⟨ip, ⟨reporter, hreporter, hip⟩, hown⟩
    exact ⟨reporter, hreporter, ip, hip, hown⟩
  · rintro ⟨reporter, hreporter, ip, hip, hown⟩
    exact ⟨ip, ⟨reporter, hreporter, hip⟩, hown⟩

theorem toList_pimRole?_eq :
    (device.pimRole? net.rendezvousPoints net.bootstrapRouters).toList =
      net.reportedRoles device := by
  rw [Device.pimRole?, rendezvousPoints, bootstrapRouters, any_ownsIp_eq, any_ownsIp_eq,
    reportedRoles]
  by_cases hrp : net.ReportsAddressOf device Device.pimRps <;>
    by_cases hbsr : net.ReportsAddressOf device Device.pimBsrs <;> simp [hrp, hbsr]

theorem reportedRoles_eq_nil_iff :
    net.reportedRoles device = [] ↔
      ¬ net.ReportsAddressOf device Device.pimRps ∧
        ¬ net.ReportsAddressOf device Device.pimBsrs := by
  rw [reportedRoles]
  by_cases hrp : net.ReportsAddressOf device Device.pimRps <;>
    by_cases hbsr : net.ReportsAddressOf device Device.pimBsrs <;> simp [hrp, hbsr]

theorem rolesOf_snapshot (thresholds : Thresholds) (hdevice : device ∈ net.devices) :
    (net.snapshot thresholds).rolesOf device.adminIp =
      if device.uptime?.isSome then net.reportedRoles device else [] := by
  rw [Snapshot.rolesOf, filter_target_labels thresholds hdevice, Device.filter_roleTexts_labels,
    toList_pimRole?_eq]

/-- The labels of a device name the role that is reported of it, and no other one,
if the device has reported its uptime. Without an uptime they name no role, so that
they are right exactly when there is none to name. -/
theorem rolesOf_snapshot_eq_reportedRoles_iff (net : Network) (thresholds : Thresholds)
    (device : Device) (hdevice : device ∈ net.devices) :
    (net.snapshot thresholds).rolesOf device.adminIp =
        (if device.uptime?.isSome then net.reportedRoles device else []) ∧
      ((net.snapshot thresholds).rolesOf device.adminIp = net.reportedRoles device ↔
        device.uptime?.isSome ∨
          ¬ net.ReportsAddressOf device Device.pimRps ∧
            ¬ net.ReportsAddressOf device Device.pimBsrs) := by
  have hroles := rolesOf_snapshot thresholds hdevice
  refine ⟨hroles, ?_⟩
  rw [hroles, ← reportedRoles_eq_nil_iff]
  by_cases huptime : device.uptime?.isSome
  · rw [if_pos huptime]
    exact iff_of_true rfl (Or.inl huptime)
  · rw [if_neg huptime, or_iff_right huptime]
    exact eq_comm

/-! ## A rendezvous point without an uptime -/

namespace SilentRouter

/-- A router that takes itself for the rendezvous point, and reports no uptime. -/
def router : Observation where
  interfaces := [{ index := "1", name := "eth0", ip := some (Sample.ip 10 0 0 1) }]
  pimRps := [Sample.ip 10 0 0 1]

def network : Network where
  catalog := Sample.declare [("router", { ip := Sample.ip 10 0 0 1 })]
  observations := .ofList [("router", router)]

theorem exists_reportedRoles_eq :
    ∃ device ∈ network.devices, device.uptime?.isSome = false ∧
      network.reportedRoles device = ["RP"] := by
  decide +kernel

/-- No label names the role that the router reports of itself. -/
theorem rolesOf_snapshot_eq_nil :
    ∃ device ∈ network.devices, network.reportedRoles device = ["RP"] ∧
      (network.snapshot {}).rolesOf device.adminIp = [] := by
  obtain ⟨device, hdevice, hunknown, hrole⟩ := exists_reportedRoles_eq
  refine ⟨device, hdevice, hrole, ?_⟩
  rw [(rolesOf_snapshot_eq_reportedRoles_iff network {} device hdevice).1, hunknown]
  rfl

/-- The role that is reported of a device can be missing from its labels. -/
theorem not_forall_rolesOf_eq_reportedRoles :
    ¬ ∀ (net : Network) (thresholds : Thresholds), ∀ device ∈ net.devices,
      (net.snapshot thresholds).rolesOf device.adminIp = net.reportedRoles device := by
  intro hall
  have hshown : ∀ device ∈ network.devices,
      (network.snapshot {}).rolesOf device.adminIp = [] := by
    decide +kernel
  obtain ⟨device, hdevice, -, hrole⟩ := exists_reportedRoles_eq
  have hsame := hall network {} device hdevice
  rw [hshown device hdevice, hrole] at hsame
  cases hsame

end SilentRouter

end Network

end NetTopology
