/-
# Which alerts stand after several cycles

The events of all cycles are applied in order, and the last one about an alert
decides whether it stands. Only the device with an address speaks about that
address, and whatever its interfaces are called, none of their events is about
the device being down or having rebooted. A pollable device says in every cycle
whether it is down, so the last cycle decides. It says whether it has rebooted
only in cycles in which it reports its uptime, and all other cycles leave that
alert as it was.
-/

import NetTopology.Proofs.Alert
import NetTopology.Proofs.Owner
import NetTopology.Samples
import Mathlib.Data.List.Induction

namespace NetTopology

namespace Alert

/-- Whether an event speaks about the alert of an entity under a key. -/
def isAbout (entity : Address) (key : String) (event : Alert) : Bool :=
  event.entity == entity && event.key == key

/-- Whether an alert stands after some events: the last one about it decides. -/
def stands (events : List Alert) (entity : Address) (key : String) : Bool :=
  ((events.filter (isAbout entity key)).getLast?).any isOpen

section

variable {events later : List Alert} {entity : Address} {key : String}

/-- Events about other alerts leave an alert as it was. -/
theorem stands_append_of_silent (hsilent : later.filter (isAbout entity key) = []) :
    stands (events ++ later) entity key = stands events entity key := by
  rw [stands, stands, List.filter_append, hsilent, List.append_nil]

theorem stands_append_of_single {event : Alert}
    (hsingle : later.filter (isAbout entity key) = [event]) :
    stands (events ++ later) entity key = event.isOpen := by
  rw [stands, List.filter_append, hsingle, List.getLast?_concat, Option.any_some]

end

/-- A device speaks about itself. -/
theorem entity_of_mem_ofDevice {thresholds : Thresholds} {device : Device} {event : Alert}
    (hmem : event ∈ ofDevice thresholds device) :
    event.entity = device.adminIp := by
  rcases List.mem_append.mp hmem with hdown | hsince
  · by_cases hpollable : device.entry.isPollable = true
    · rw [if_pos hpollable, List.mem_singleton] at hdown
      rw [hdown]
      rfl
    · rw [if_neg hpollable] at hdown
      cases hdown
  · cases huptime : device.uptime? with
    | none =>
        rw [huptime] at hsince
        cases hsince
    | some uptime =>
        rw [huptime] at hsince
        rcases List.mem_cons.mp hsince with rfl | hchange
        · rfl
        · obtain ⟨interface, -, hinterface⟩ := List.mem_filterMap.mp hchange
          obtain ⟨changed, -, rfl⟩ := Option.map_eq_some_iff.mp hinterface
          rfl

theorem filter_isAbout_ofDevice (thresholds : Thresholds) (device : Device) (key : String) :
    (ofDevice thresholds device).filter (isAbout device.adminIp key) =
      (ofDevice thresholds device).filter fun event => event.key == key := by
  apply List.filter_congr
  intro event hmem
  rw [isAbout, entity_of_mem_ofDevice hmem, beq_self_eq_true, Bool.true_and]

end Alert

/-- The events of a cycle about an address are those of the device that has it. -/
theorem Network.filter_isAbout_alerts (net : Network) (thresholds : Thresholds) (ip : Address)
    (key : String) :
    (net.alerts thresholds).filter (Alert.isAbout ip key) =
      (net.deviceByAdminIp? ip).elim [] fun device =>
        (Alert.ofDevice thresholds device).filter (Alert.isAbout ip key) := by
  rw [alerts, List.filter_flatMap]
  apply flatMap_eq_of_adminIp (pairwise_adminIp_ne net)
  intro device _ hother
  rw [List.filter_eq_nil_iff]
  intro event hmem habout
  rw [Alert.isAbout, Bool.and_eq_true, beq_iff_eq, beq_iff_eq] at habout
  exact hother ((Alert.entity_of_mem_ofDevice hmem).symm.trans habout.1)

/-- The uptime in the most recent cycle in which a device reported one. -/
def ObservationSet.lastUptime? (name : String) (cycles : List ObservationSet) : Option Float :=
  (cycles.filterMap fun observations => observations[name]?.bind Observation.uptime).getLast?

namespace Catalog

/-- The events of one cycle. -/
def cycleEvents (catalog : Catalog) (thresholds : Thresholds) (observations : ObservationSet) :
    List Alert :=
  ((⟨catalog, observations⟩ : Network).snapshot thresholds).alerts

/-- The events of several cycles, one after the other. -/
def alertEvents (catalog : Catalog) (thresholds : Thresholds) (cycles : List ObservationSet) :
    List Alert :=
  cycles.flatMap (catalog.cycleEvents thresholds)

theorem alertEvents_concat (catalog : Catalog) (thresholds : Thresholds)
    (earlier : List ObservationSet) (latest : ObservationSet) :
    catalog.alertEvents thresholds (earlier ++ [latest]) =
      catalog.alertEvents thresholds earlier ++ catalog.cycleEvents thresholds latest := by
  rw [alertEvents, alertEvents, List.flatMap_append, List.flatMap_singleton]

variable {catalog : Catalog} {thresholds : Thresholds} {entry : CatalogEntry}

/-! ## One cycle -/

theorem filter_isAbout_cycleEvents (hentry : entry ∈ catalog.entries)
    (observations : ObservationSet) (key : String) :
    (catalog.cycleEvents thresholds observations).filter (Alert.isAbout entry.ip key) =
      (Alert.ofDevice thresholds ⟨entry, observations[entry.name]?⟩).filter fun event =>
        event.key == key := by
  let net : Network := ⟨catalog, observations⟩
  have hdevice : net.deviceByAdminIp? entry.ip = some ⟨entry, observations[entry.name]?⟩ :=
    Network.deviceByAdminIp?_eq_some_iff.mpr ⟨Network.mem_devices_iff.mpr ⟨hentry, rfl⟩, rfl⟩
  show (net.alerts thresholds).filter _ = _
  rw [Network.filter_isAbout_alerts, hdevice, Option.elim_some]
  exact Alert.filter_isAbout_ofDevice thresholds ⟨entry, observations[entry.name]?⟩ key

/-- Nothing is said about an address that the catalog does not have. -/
theorem filter_isAbout_cycleEvents_eq_nil {ip : Address}
    (hstranger : ∀ entry ∈ catalog.entries, entry.ip ≠ ip) (observations : ObservationSet)
    (key : String) :
    (catalog.cycleEvents thresholds observations).filter (Alert.isAbout ip key) = [] := by
  let net : Network := ⟨catalog, observations⟩
  have hnone : net.deviceByAdminIp? ip = none := by
    cases hfound : net.deviceByAdminIp? ip with
    | none => rfl
    | some device =>
        obtain ⟨hdevice, hip⟩ := Network.deviceByAdminIp?_eq_some_iff.mp hfound
        exact absurd hip (hstranger _ (Network.mem_devices_iff.mp hdevice).1)
  show (net.alerts thresholds).filter _ = _
  rw [Network.filter_isAbout_alerts, hnone]
  rfl

/-- In each cycle a pollable device says once whether it is down, and no other
event is about that. -/
theorem filter_isAbout_downKey (thresholds : Thresholds)
    (hentry : entry ∈ catalog.entries) (observations : ObservationSet) :
    (catalog.cycleEvents thresholds observations).filter
        (Alert.isAbout entry.ip Alert.downKey) =
      if entry.isPollable then [Alert.down ⟨entry, observations[entry.name]?⟩] else [] := by
  rw [filter_isAbout_cycleEvents hentry, Alert.filter_ofDevice_downKey]

/-- In each cycle a device with an uptime says once whether it has rebooted, and
no other event is about that. -/
theorem filter_isAbout_uptimeKey (thresholds : Thresholds)
    (hentry : entry ∈ catalog.entries) (observations : ObservationSet) :
    (catalog.cycleEvents thresholds observations).filter
        (Alert.isAbout entry.ip Alert.uptimeKey) =
      (observations[entry.name]?.bind Observation.uptime).toList.map
        (Alert.reboot thresholds ⟨entry, observations[entry.name]?⟩) := by
  rw [filter_isAbout_cycleEvents hentry, Alert.filter_ofDevice_uptimeKey]
  rfl

/-! ## Several cycles -/

/-- One more cycle decides anew whether a pollable device is down. -/
theorem stands_downKey_concat (hentry : entry ∈ catalog.entries)
    (earlier : List ObservationSet) (latest : ObservationSet) :
    Alert.stands (catalog.alertEvents thresholds (earlier ++ [latest])) entry.ip Alert.downKey =
      if entry.isPollable then latest[entry.name]?.isNone
      else Alert.stands (catalog.alertEvents thresholds earlier) entry.ip Alert.downKey := by
  have hevents := filter_isAbout_downKey thresholds hentry latest
  rw [alertEvents_concat]
  by_cases hpollable : entry.isPollable = true
  · rw [if_pos hpollable] at hevents ⊢
    rw [Alert.stands_append_of_single hevents, Alert.isOpen_down]
    exact Option.not_isSome _
  · rw [if_neg hpollable] at hevents ⊢
    exact Alert.stands_append_of_silent hevents

/-- One more cycle with an uptime decides anew whether the device has rebooted,
and one without leaves it as it was. -/
theorem stands_uptimeKey_concat (hentry : entry ∈ catalog.entries)
    (earlier : List ObservationSet) (latest : ObservationSet) :
    Alert.stands (catalog.alertEvents thresholds (earlier ++ [latest])) entry.ip Alert.uptimeKey =
      match latest[entry.name]?.bind Observation.uptime with
      | some uptime => decide (uptime < thresholds.reboot)
      | none => Alert.stands (catalog.alertEvents thresholds earlier) entry.ip Alert.uptimeKey := by
  have hevents := filter_isAbout_uptimeKey thresholds hentry latest
  rw [alertEvents_concat]
  cases huptime : latest[entry.name]?.bind Observation.uptime with
  | none =>
      rw [huptime] at hevents
      exact Alert.stands_append_of_silent hevents
  | some uptime =>
      rw [huptime] at hevents
      rw [Alert.stands_append_of_single hevents, Alert.isOpen, Alert.reboot]
      by_cases hrecent : uptime < thresholds.reboot <;> simp [hrecent]

/-- After some cycles the devices that stand as down are the pollable ones that
did not answer in the last one. -/
theorem stands_downKey_eq (hentry : entry ∈ catalog.entries) (cycles : List ObservationSet) :
    Alert.stands (catalog.alertEvents thresholds cycles) entry.ip Alert.downKey =
      (entry.isPollable &&
        cycles.getLast?.any fun observations => observations[entry.name]?.isNone) := by
  induction cycles using List.reverseRecOn with
  | nil => cases entry.isPollable <;> rfl
  | append_singleton earlier latest ih =>
      rw [stands_downKey_concat hentry, ih, List.getLast?_concat, Option.any_some]
      cases entry.isPollable <;> rfl

/-- After some cycles a device stands as rebooted when the last uptime it
reported is below the threshold. -/
theorem stands_uptimeKey_eq (hentry : entry ∈ catalog.entries) (cycles : List ObservationSet) :
    Alert.stands (catalog.alertEvents thresholds cycles) entry.ip Alert.uptimeKey =
      (ObservationSet.lastUptime? entry.name cycles).any fun uptime =>
        decide (uptime < thresholds.reboot) := by
  induction cycles using List.reverseRecOn with
  | nil => rfl
  | append_singleton earlier latest ih =>
      rw [stands_uptimeKey_concat hentry, ih, ObservationSet.lastUptime?,
        ObservationSet.lastUptime?, List.filterMap_append, List.getLast?_append]
      cases huptime : latest[entry.name]?.bind Observation.uptime with
      | none => simp [huptime]
      | some uptime => simp [huptime]

/-- No alert of an address stands that the catalog does not have. -/
theorem stands_eq_false {ip : Address} (hstranger : ∀ entry ∈ catalog.entries, entry.ip ≠ ip)
    (cycles : List ObservationSet) (key : String) :
    Alert.stands (catalog.alertEvents thresholds cycles) ip key = false := by
  induction cycles using List.reverseRecOn with
  | nil => rfl
  | append_singleton earlier latest ih =>
      rw [alertEvents_concat,
        Alert.stands_append_of_silent (filter_isAbout_cycleEvents_eq_nil hstranger latest key), ih]

/-- After each cycle exactly the pollable devices without an observation in it
stand as down, so no external device ever does, and exactly those devices stand
as rebooted whose last reported uptime is below the threshold. In no cycle is
there an event about either of the two alerts of a device besides the one that
its own state and its own uptime give rise to. -/
theorem stands_iff_missing_and_rebooted (catalog : Catalog) (thresholds : Thresholds)
    (earlier : List ObservationSet) (latest : ObservationSet) :
    (∀ ip, Alert.stands (catalog.alertEvents thresholds (earlier ++ [latest])) ip Alert.downKey ↔
      ∃ entry ∈ catalog.entries, entry.ip = ip ∧ entry.isPollable ∧
        latest[entry.name]? = none) ∧
    (∀ entry ∈ catalog.entries, entry.kind = .external →
      ¬ Alert.stands (catalog.alertEvents thresholds (earlier ++ [latest])) entry.ip
        Alert.downKey) ∧
    (∀ entry ∈ catalog.entries,
      (Alert.stands (catalog.alertEvents thresholds (earlier ++ [latest])) entry.ip
          Alert.uptimeKey ↔
        ∃ uptime, ObservationSet.lastUptime? entry.name (earlier ++ [latest]) = some uptime ∧
          uptime < thresholds.reboot)) ∧
    ∀ entry ∈ catalog.entries, ∀ observations : ObservationSet,
      (catalog.cycleEvents thresholds observations).filter
          (Alert.isAbout entry.ip Alert.downKey) =
        (if entry.isPollable then [Alert.down ⟨entry, observations[entry.name]?⟩] else []) ∧
      (catalog.cycleEvents thresholds observations).filter
          (Alert.isAbout entry.ip Alert.uptimeKey) =
        (observations[entry.name]?.bind Observation.uptime).toList.map
          (Alert.reboot thresholds ⟨entry, observations[entry.name]?⟩) := by
  have hdown (entry : CatalogEntry) (hentry : entry ∈ catalog.entries) :
      Alert.stands (catalog.alertEvents thresholds (earlier ++ [latest])) entry.ip
        Alert.downKey ↔ entry.isPollable ∧ latest[entry.name]? = none := by
    rw [stands_downKey_eq hentry, List.getLast?_concat, Option.any_some, Bool.and_eq_true,
      Option.isNone_iff_eq_none]
  refine ⟨?_, ?_, ?_, ?_⟩
  · intro ip
    constructor
    · intro hstands
      by_cases hknown : ∃ entry ∈ catalog.entries, entry.ip = ip
      · obtain ⟨entry, hentry, rfl⟩ := hknown
        exact ⟨entry, hentry, rfl, (hdown entry hentry).mp hstands⟩
      · push Not at hknown
        rw [stands_eq_false hknown] at hstands
        cases hstands
    · rintro ⟨entry, hentry, rfl, hmissing⟩
      exact (hdown entry hentry).mpr hmissing
  · intro entry hentry hexternal hstands
    have hpollable := ((hdown entry hentry).mp hstands).1
    rw [CatalogEntry.isPollable, hexternal] at hpollable
    cases hpollable
  · intro entry hentry
    rw [stands_uptimeKey_eq hentry, Option.any_eq_true]
    simp only [decide_eq_true_eq]
  · intro entry hentry observations
    exact ⟨filter_isAbout_downKey thresholds hentry observations,
      filter_isAbout_uptimeKey thresholds hentry observations⟩

/-- A router that is back is not down, even when it reports no uptime. -/
example :
    Alert.stands (Sample.routedTriangle.catalog.alertEvents {}
        [Sample.routedTriangle.observations, ∅, ({} : ObservationSet).insert "r1" {}])
      (Sample.ip 10 0 1 1) Alert.downKey = false := by decide +kernel

end Catalog

end NetTopology
