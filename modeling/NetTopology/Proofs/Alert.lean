/-
# Which devices are reported as down

Whatever an interface is called, its alerts have other keys than the ones that a
device is down or has rebooted. Of the events of a device at most one is about
each of these two. A device raises the first one exactly when it should have
answered and did not, so the open ones name the missing devices, each once and
in the order of names.
-/

import NetTopology.Snapshot

namespace NetTopology

namespace Alert

/-- The key of an interface has hyphens in it, whatever the interface is called. -/
theorem changeKey_ne_of_notMem {key : String} (hkey : '-' ∉ key.toList) (interface : Interface) :
    changeKey interface ≠ key := by
  rintro rfl
  apply hkey
  rw [changeKey, String.toList_append]
  exact List.mem_append_right _ (by decide)

theorem changeKey_ne_downKey (interface : Interface) : changeKey interface ≠ downKey :=
  changeKey_ne_of_notMem (by decide) interface

theorem changeKey_ne_uptimeKey (interface : Interface) : changeKey interface ≠ uptimeKey :=
  changeKey_ne_of_notMem (by decide) interface

/-- What an uptime says about a key that no interface has, it says as a reboot. -/
theorem filter_sinceStart {key : String} (hkey : ∀ interface, changeKey interface ≠ key)
    (thresholds : Thresholds) (device : Device) (uptime : Float) :
    (sinceStart thresholds device uptime).filter (fun alert => alert.key == key) =
      if uptimeKey = key then [reboot thresholds device uptime] else [] := by
  have hchanges : (device.interfaces.filterMap fun interface =>
      interface.lastChanged.map (change thresholds device uptime interface)).filter
        (fun alert => alert.key == key) = [] := by
    rw [List.filter_eq_nil_iff]
    intro alert hmem hfound
    obtain ⟨interface, -, hinterface⟩ := List.mem_filterMap.mp hmem
    obtain ⟨changed, -, rfl⟩ := Option.map_eq_some_iff.mp hinterface
    exact hkey interface (beq_iff_eq.mp hfound)
  have hreboot : (reboot thresholds device uptime).key = uptimeKey := rfl
  rw [sinceStart, List.filter_cons, hchanges, hreboot]
  by_cases hsame : uptimeKey = key <;> simp [hsame]

/-- A device that should answer says each cycle whether it is down, and no other
device does. -/
theorem filter_ofDevice_downKey (thresholds : Thresholds) (device : Device) :
    (ofDevice thresholds device).filter (fun alert => alert.key == downKey) =
      if device.entry.isPollable then [down device] else [] := by
  have hkey : ((down device).key == downKey) = true := beq_self_eq_true downKey
  have hdown : (if device.entry.isPollable then [down device] else []).filter
      (fun alert => alert.key == downKey) =
      if device.entry.isPollable then [down device] else [] := by
    cases device.entry.isPollable <;> simp [hkey]
  rw [ofDevice, List.filter_append, hdown]
  cases device.uptime? with
  | none => exact List.append_nil _
  | some uptime =>
      have hother : uptimeKey ≠ downKey := by decide
      show _ ++ (sinceStart thresholds device uptime).filter _ = _
      rw [filter_sinceStart changeKey_ne_downKey, if_neg hother, List.append_nil]

/-- A device says whether it has rebooted exactly when it reports its uptime. -/
theorem filter_ofDevice_uptimeKey (thresholds : Thresholds) (device : Device) :
    (ofDevice thresholds device).filter (fun alert => alert.key == uptimeKey) =
      device.uptime?.toList.map (reboot thresholds device) := by
  have hother : (downKey == uptimeKey) = false := by decide
  have hkey : (down device).key = downKey := rfl
  have hdown : (if device.entry.isPollable then [down device] else []).filter
      (fun alert => alert.key == uptimeKey) = [] := by
    cases device.entry.isPollable <;> simp [hkey, hother]
  rw [ofDevice, List.filter_append, hdown, List.nil_append]
  cases device.uptime? with
  | none => rfl
  | some uptime =>
      show (sinceStart thresholds device uptime).filter _ = _
      rw [filter_sinceStart changeKey_ne_uptimeKey, if_pos rfl]
      rfl

theorem isOpen_down (device : Device) : (down device).isOpen = !device.isPolled := by
  rw [isOpen, down]
  cases device.isPolled <;> rfl

/-- A device is reported as down when it should have answered and did not. -/
theorem filter_ofDevice (thresholds : Thresholds) (device : Device) :
    ((ofDevice thresholds device).filter isOpen).filter (fun alert => alert.key == downKey) =
      if device.entry.isPollable && !device.isPolled then [down device] else [] := by
  have hcomm : ((ofDevice thresholds device).filter isOpen).filter
        (fun alert => alert.key == downKey) =
      ((ofDevice thresholds device).filter fun alert => alert.key == downKey).filter isOpen := by
    rw [List.filter_filter, List.filter_filter]
    simp only [Bool.and_comm]
  rw [hcomm, filter_ofDevice_downKey]
  cases device.entry.isPollable <;> cases hpolled : device.isPolled <;>
    simp [isOpen_down, hpolled]

end Alert

namespace Network

/-- The devices that are reported as down are the missing ones. -/
theorem filter_openAlerts_downKey (net : Network) (thresholds : Thresholds) :
    (net.snapshot thresholds).openAlerts.filter (fun alert => alert.key == Alert.downKey) =
      net.missingDevices.map Alert.down := by
  rw [Snapshot.openAlerts, missingDevices]
  show ((net.devices.flatMap (Alert.ofDevice thresholds)).filter Alert.isOpen).filter _ = _
  induction net.devices with
  | nil => rfl
  | cons device devices ih =>
      rw [List.flatMap_cons, List.filter_append, List.filter_append, ih, Alert.filter_ofDevice,
        List.filter_cons]
      split <;> rfl

/-- The missing devices are the pollable entries without an observation. -/
theorem map_down_missingDevices (net : Network) :
    net.missingDevices.map Alert.down =
      (net.catalog.entries.filter fun entry =>
        entry.isPollable && net.observations[entry.name]?.isNone).map fun entry =>
          Alert.down ⟨entry, none⟩ := by
  have hsame : ((fun device : Device => device.entry.isPollable && !device.isPolled) ∘
      fun entry => ⟨entry, net.observations[entry.name]?⟩) =
        fun entry => entry.isPollable && net.observations[entry.name]?.isNone := by
    funext entry
    show (entry.isPollable && !(net.observations[entry.name]?).isSome) = _
    rw [Option.not_isSome]
  rw [missingDevices, devices, List.filter_map, hsame, List.map_map]
  apply List.map_congr_left
  intro entry hentry
  have hnone : net.observations[entry.name]? = none := by
    simpa using (Bool.and_eq_true_iff.mp (List.mem_filter.mp hentry).2).2
  show Alert.down ⟨entry, net.observations[entry.name]?⟩ = _
  rw [hnone]

end Network

end NetTopology
