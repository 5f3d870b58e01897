/-
# Which alerts a snapshot speaks of twice

An alert is known by the device and a key. The keys for a device being down and
for a reboot are fixed, and a snapshot has at most one event about each of them.
The key for a changed status is made from the name of the interface, though,
while a device tells its interfaces apart by their index. As many events are
about such a key as there are changed interfaces with the name, so a snapshot
speaks of each alert at most once exactly when no device reports two changed
interfaces with one name.
-/

import NetTopology.Proofs.Alert.Standing

namespace NetTopology

/-- The interfaces with a known status change, of a device that reports its uptime. -/
def Device.changedInterfaces (device : Device) : List Interface :=
  match device.uptime? with
  | none => []
  | some _ => device.interfaces.filter fun interface => interface.lastChanged.isSome

namespace Alert

/-- The keys without an interface that a device speaks about. -/
def fixedKeys (device : Device) : List String :=
  (if device.entry.isPollable then [downKey] else []) ++
    device.uptime?.toList.map fun _ => uptimeKey

/-- The keys that a device speaks about. -/
def keysOf (device : Device) : List String :=
  fixedKeys device ++ device.changedInterfaces.map changeKey

theorem map_key_changes (thresholds : Thresholds) (device : Device) (uptime : Float)
    (interfaces : List Interface) :
    (interfaces.filterMap fun interface =>
        interface.lastChanged.map (change thresholds device uptime interface)).map Alert.key =
      (interfaces.filter fun interface => interface.lastChanged.isSome).map changeKey := by
  induction interfaces with
  | nil => rfl
  | cons interface later ih =>
      cases hchanged : interface.lastChanged with
      | none =>
          rw [List.filterMap_cons_none (by rw [hchanged]; rfl),
            List.filter_cons_of_neg (by simp [hchanged]), ih]
      | some changed =>
          rw [List.filterMap_cons_some (by rw [hchanged]; rfl),
            List.filter_cons_of_pos (by simp [hchanged]), List.map_cons, List.map_cons, ih]
          rfl

theorem map_key_ofDevice (thresholds : Thresholds) (device : Device) :
    (ofDevice thresholds device).map Alert.key = keysOf device := by
  have hdown : (if device.entry.isPollable then [down device] else []).map Alert.key =
      if device.entry.isPollable then [downKey] else [] := by
    cases device.entry.isPollable <;> rfl
  rw [ofDevice, keysOf, fixedKeys, List.map_append, hdown, List.append_assoc,
    Device.changedInterfaces]
  congr 1
  cases device.uptime? with
  | none => rfl
  | some uptime =>
      show (sinceStart thresholds device uptime).map Alert.key = _
      rw [sinceStart, List.map_cons, map_key_changes]
      rfl

/-- As many events of a device are about a key as it speaks about it. -/
theorem length_filter_isAbout_ofDevice (thresholds : Thresholds) (device : Device) (key : String) :
    ((ofDevice thresholds device).filter (isAbout device.adminIp key)).length =
      (keysOf device).count key := by
  rw [filter_isAbout_ofDevice, ← map_key_ofDevice thresholds, List.count_eq_countP,
    List.countP_map, List.countP_eq_length_filter]
  rfl

/-- No interface has a key of the device as a whole, whatever it is called. -/
theorem changeKey_notMem_fixedKeys (device : Device) (interface : Interface) :
    changeKey interface ∉ fixedKeys device := by
  intro hmem
  rcases List.mem_append.mp hmem with hdown | huptime
  · split at hdown
    · exact changeKey_ne_downKey interface (List.mem_singleton.mp hdown)
    · cases hdown
  · obtain ⟨uptime, -, hkey⟩ := List.mem_map.mp huptime
    exact changeKey_ne_uptimeKey interface hkey.symm

theorem nodup_fixedKeys (device : Device) : (fixedKeys device).Nodup := by
  have hdistinct : downKey ≠ uptimeKey := by decide
  rw [fixedKeys]
  cases device.entry.isPollable <;> cases device.uptime? <;> simp [hdistinct]

/-- The key of a status change tells the name of the interface. -/
theorem changeKey_eq_iff {first second : Interface} :
    changeKey first = changeKey second ↔ first.name = second.name := by
  rw [changeKey, changeKey, String.append_left_inj]

/-- A device repeats a key exactly when two changed interfaces have one name. -/
theorem nodup_keysOf_iff (device : Device) :
    (keysOf device).Nodup ↔ (device.changedInterfaces.map Interface.name).Nodup := by
  have hchanges : (device.changedInterfaces.map changeKey).Nodup ↔
      (device.changedInterfaces.map Interface.name).Nodup := by
    simp only [List.Nodup, List.pairwise_map, ne_eq, changeKey_eq_iff]
  rw [keysOf, List.nodup_append, hchanges]
  constructor
  · exact fun hparts => hparts.2.1
  · intro hnames
    refine ⟨nodup_fixedKeys device, hnames, ?_⟩
    rintro key hfixed _ hchange rfl
    obtain ⟨interface, -, rfl⟩ := List.mem_map.mp hchange
    exact changeKey_notMem_fixedKeys device interface hfixed

/-- A device speaks about the key of an interface once for each changed interface
of that name. -/
theorem count_changeKey_keysOf (device : Device) (interface : Interface) :
    (keysOf device).count (changeKey interface) =
      (device.changedInterfaces.map Interface.name).count interface.name := by
  rw [keysOf, List.count_append,
    List.count_eq_zero_of_not_mem (changeKey_notMem_fixedKeys device interface), Nat.zero_add,
    List.count_eq_countP, List.count_eq_countP, List.countP_map, List.countP_map]
  apply List.countP_congr
  intro other _
  simp [changeKey_eq_iff]

/-- A device speaks at most once about a key that no interface has. -/
theorem count_keysOf_le_one {key : String} (hkey : ∀ interface, changeKey interface ≠ key)
    (device : Device) : (keysOf device).count key ≤ 1 := by
  have hchanges : key ∉ device.changedInterfaces.map changeKey := by
    intro hmem
    obtain ⟨interface, -, hinterface⟩ := List.mem_map.mp hmem
    exact hkey interface hinterface
  rw [keysOf, List.count_append, List.count_eq_zero_of_not_mem hchanges, Nat.add_zero]
  exact List.nodup_iff_count_le_one.mp (nodup_fixedKeys device) key

end Alert

namespace Network

variable {net : Network}

/-- The number of events about an alert is the number of times that the device
with its address speaks about its key. -/
theorem length_filter_isAbout_alerts {device : Device} (hdevice : device ∈ net.devices)
    (thresholds : Thresholds) (key : String) :
    ((net.snapshot thresholds).alerts.filter (Alert.isAbout device.adminIp key)).length =
      (Alert.keysOf device).count key := by
  show ((net.alerts thresholds).filter _).length = _
  rw [filter_isAbout_alerts, deviceByAdminIp?_eq_some_iff.mpr ⟨hdevice, rfl⟩, Option.elim_some,
    Alert.length_filter_isAbout_ofDevice]

/-- A bound on the events about each alert is one on what the devices say. -/
theorem forall_length_filter_isAbout_le_iff (thresholds : Thresholds) (key : String) (bound : Nat) :
    (∀ ip, ((net.snapshot thresholds).alerts.filter (Alert.isAbout ip key)).length ≤ bound) ↔
      ∀ device ∈ net.devices, (Alert.keysOf device).count key ≤ bound := by
  constructor
  · intro hbound device hdevice
    rw [← length_filter_isAbout_alerts hdevice thresholds]
    exact hbound device.adminIp
  · intro hbound ip
    show ((net.alerts thresholds).filter _).length ≤ bound
    rw [filter_isAbout_alerts]
    cases hfound : net.deviceByAdminIp? ip with
    | none => exact Nat.zero_le bound
    | some device =>
        obtain ⟨hdevice, rfl⟩ := deviceByAdminIp?_eq_some_iff.mp hfound
        rw [Option.elim_some, Alert.length_filter_isAbout_ofDevice]
        exact hbound device hdevice

/-- A snapshot speaks at most once of each alert exactly when no device reports
two changed interfaces with one name. Of an alert that is not about the status
of an interface it never speaks twice, and of the others as often as there are
changed interfaces with the name. -/
theorem events_about_alert_le_one_iff (net : Network) (thresholds : Thresholds) :
    ((∀ ip key,
        ((net.snapshot thresholds).alerts.filter (Alert.isAbout ip key)).length ≤ 1) ↔
      ∀ device ∈ net.devices, (device.changedInterfaces.map Interface.name).Nodup) ∧
    (∀ key, (∀ interface, Alert.changeKey interface ≠ key) → ∀ ip,
      ((net.snapshot thresholds).alerts.filter (Alert.isAbout ip key)).length ≤ 1) ∧
    ∀ device ∈ net.devices, ∀ interface : Interface,
      ((net.snapshot thresholds).alerts.filter
          (Alert.isAbout device.adminIp (Alert.changeKey interface))).length =
        (device.changedInterfaces.map Interface.name).count interface.name := by
  refine ⟨?_, ?_, ?_⟩
  · rw [forall_comm]
    simp only [forall_length_filter_isAbout_le_iff]
    constructor
    · intro honce device hdevice
      rw [← Alert.nodup_keysOf_iff, List.nodup_iff_count_le_one]
      exact fun key => honce key device hdevice
    · intro hnames key device hdevice
      exact List.nodup_iff_count_le_one.mp
        ((Alert.nodup_keysOf_iff device).mpr (hnames device hdevice)) key
  · intro key hkey
    rw [forall_length_filter_isAbout_le_iff]
    exact fun device _ => Alert.count_keysOf_le_one hkey device
  · intro device hdevice interface
    rw [length_filter_isAbout_alerts hdevice, Alert.count_changeKey_keysOf]

/-! ## Two interfaces with one name -/

namespace TwinInterfaces

/-- A router with two interfaces called `eth0`; the first one changed its status
long ago, the second one ten seconds ago. -/
def router : Observation where
  uptime := some 1000.0
  interfaces :=
    [{ index := "1", name := "eth0", status := "up", lastChanged := some 100.0 },
      { index := "2", name := "eth0", status := "down", lastChanged := some 990.0 }]

def network : Network where
  catalog := Sample.declare [("router", { ip := Sample.ip 10 0 0 1 })]
  observations := .ofList [("router", router)]

/-- The snapshot speaks of one alert twice: it closes the alert and opens it. -/
theorem closes_and_opens :
    ((network.snapshot {}).alerts.filter
        (Alert.isAbout (Sample.ip 10 0 0 1) "eth0-last-change")).map Alert.isOpen =
      [false, true] ∧
    ¬ ∀ ip key, ((network.snapshot {}).alerts.filter (Alert.isAbout ip key)).length ≤ 1 := by
  have htwice : ((network.snapshot {}).alerts.filter
      (Alert.isAbout (Sample.ip 10 0 0 1) "eth0-last-change")).map Alert.isOpen =
        [false, true] := by
    decide +kernel
  refine ⟨htwice, ?_⟩
  intro honce
  have hone := honce (Sample.ip 10 0 0 1) "eth0-last-change"
  have htwo := congrArg List.length htwice
  rw [List.length_map] at htwo
  rw [htwo] at hone
  exact absurd hone (by decide)

end TwinInterfaces

end Network

end NetTopology
