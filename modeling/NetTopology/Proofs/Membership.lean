/-
# One relation for each reporter

A device may hear of several groups from the same reporter. The relations of
memberships do not tell groups apart in their keys, so a device has one relation
to each of its reporters, and the last report counts: the relation shows its
group, and the group of an earlier report only if it is the same.
-/

import NetTopology.Proofs.Multicast
import NetTopology.Samples

namespace NetTopology

namespace Multicast

/-- The key of the line from a device to a reporter. -/
def membershipKey (device reporter : Address) : Relation.Key where
  kind := .igmp
  left := device
  right := reporter
  predicate := membershipPredicate

theorem key_membershipRelation_eq_iff {membership : Membership}
    {device reporter otherDevice otherReporter : Address} :
    (membershipRelation membership device reporter).key =
        membershipKey otherDevice otherReporter ↔
      device = otherDevice ∧ reporter = otherReporter := by
  constructor
  · intro heq
    exact ⟨congrArg Relation.Key.left heq, congrArg Relation.Key.right heq⟩
  · rintro ⟨rfl, rfl⟩
    rfl

/-- An age has a blank in it, and so is not the text of an address. -/
theorem ageText_ne_toText (seconds : Float) (ip : Address) : ageText seconds ≠ ip.toText := by
  have hblank : ' ' ∈ (ageText seconds).toList := by
    rw [ageText, String.toList_append]
    exact List.mem_append_right _ (by decide)
  exact Address.ne_toText_of_mem hblank (by decide) ip

/-- The only group that the line of a report shows is that of the report. -/
theorem exists_label_membershipRelation_iff {membership : Membership}
    {device reporter group : Address} :
    (∃ label ∈ (membershipRelation membership device reporter).middleLabels,
      label.text = group.toText) ↔ membership.group = group := by
  constructor
  · rintro ⟨label, hlabel, htext⟩
    rcases List.mem_append.mp hlabel with hage | hgroup
    · obtain ⟨age, -, rfl⟩ := List.mem_map.mp hage
      exact absurd htext (ageText_ne_toText age group)
    · obtain rfl := List.mem_singleton.mp hgroup
      exact Address.toText_injective htext
  · rintro rfl
    exact ⟨_, List.mem_append_right _ List.mem_cons_self, rfl⟩

end Multicast

namespace Network

section

variable (net : Network) (device : Device)

/-- The report comes from the given device, and no later one of the list does. -/
def ReportsLast (reporter : Address) (membership : Membership) : Prop :=
  ∃ earlier later, device.igmps = earlier ++ membership :: later ∧
    net.reporterIp? device membership = some reporter ∧
      ∀ other ∈ later, net.reporterIp? device other ≠ some reporter

/-- A membership relation from the device to the reporter has the group as a label. -/
def ShowsMembership (reporter group : Address) : Prop :=
  ∃ relation ∈ net.membershipRelations.between .igmp device.adminIp reporter,
    ∃ label ∈ relation.middleLabels, label.text = group.toText

end

variable {net : Network} {device : Device} {reporter : Address}

/-- Of the reports of a device the last one from a reporter is kept. -/
theorem get?_membershipRelations (hdevice : device ∈ net.polledDevices) :
    net.membershipRelations.get? (Multicast.membershipKey device.adminIp reporter) =
      device.igmps.reverse.findSome? fun membership =>
        if net.reporterIp? device membership = some reporter then
          some (Multicast.membershipRelation membership device.adminIp reporter)
        else none := by
  rw [membershipRelations, RelationSet.get?_ofList_eq_getLast?, List.filter_flatMap,
    flatMap_eq_of_adminIp (pairwise_adminIp_ne_polled net) ?_,
    find?_polledDevices_eq_some_iff.mpr ⟨hdevice, rfl⟩, Option.elim_some, List.filter_filterMap,
    List.getLast?_filterMap]
  · congr 1
    funext membership
    cases net.reporterIp? device membership with
    | none => rfl
    | some found =>
        simp only [Option.map_some, Option.filter_some, Option.some.injEq, decide_eq_true_eq,
          Multicast.key_membershipRelation_eq_iff, true_and]
        split
        · next hfound => rw [hfound]
        · rfl
  · -- the reports of other devices are written to other keys
    intro other _ hother
    rw [List.filter_eq_nil_iff]
    intro relation hmem hkey
    obtain ⟨membership, -, hreporter⟩ := List.mem_filterMap.mp hmem
    obtain ⟨found, -, rfl⟩ := Option.map_eq_some_iff.mp hreporter
    exact hother (Multicast.key_membershipRelation_eq_iff.mp (of_decide_eq_true hkey)).1

theorem get?_membershipRelations_eq_some_iff (hdevice : device ∈ net.polledDevices)
    {relation : Relation} :
    net.membershipRelations.get? (Multicast.membershipKey device.adminIp reporter) =
        some relation ↔
      ∃ membership, net.ReportsLast device reporter membership ∧
        Multicast.membershipRelation membership device.adminIp reporter = relation := by
  rw [get?_membershipRelations hdevice, findSome?_reverse_ite_eq_some_iff]
  rfl

/-- When a reporter has sent a report, there is a last one. -/
theorem exists_reportsLast {membership : Membership} (hmembership : membership ∈ device.igmps)
    (hreporter : net.reporterIp? device membership = some reporter) :
    ∃ last, net.ReportsLast device reporter last :=
  exists_last_of_mem hmembership hreporter

/-- The last report from a reporter is all that a device shows of it. -/
theorem ReportsLast.between_eq {last : Membership} (hlast : net.ReportsLast device reporter last)
    (hdevice : device ∈ net.polledDevices) :
    net.membershipRelations.between .igmp device.adminIp reporter =
      [Multicast.membershipRelation last device.adminIp reporter] := by
  have hmem := RelationSet.mem_toList_of_get?_eq_some
    ((get?_membershipRelations_eq_some_iff hdevice).mpr ⟨last, hlast, rfl⟩)
  apply RelationSet.between_eq_singleton hmem
  intro other hother _ hleft hright
  obtain ⟨source, -, membership, -, found, -, rfl⟩ :=
    exists_report_of_mem_membershipRelations hother
  exact RelationSet.eq_of_mem_of_key_eq hother hmem
    (Multicast.key_membershipRelation_eq_iff.mpr ⟨hleft, hright⟩)

/-- A report whose reporter is known has a single relation from the device to the
reporter. It is drawn from the last report from there, and shows the group of the
report exactly when that is the group of the last one. -/
theorem membershipRelations_show_lastReport (net : Network) (device : Device)
    (hdevice : device ∈ net.polledDevices) (membership : Membership)
    (hmembership : membership ∈ device.igmps) (reporter : Address)
    (hreporter : net.reporterIp? device membership = some reporter) :
    ∃ last, net.ReportsLast device reporter last ∧
      net.membershipRelations.between .igmp device.adminIp reporter =
        [Multicast.membershipRelation last device.adminIp reporter] ∧
      (net.ShowsMembership device reporter membership.group ↔ last.group = membership.group) := by
  obtain ⟨last, hlast⟩ := exists_reportsLast hmembership hreporter
  have hbetween := hlast.between_eq hdevice
  refine ⟨last, hlast, hbetween, ?_⟩
  rw [ShowsMembership, hbetween]
  simp only [List.mem_singleton, exists_eq_left]
  exact Multicast.exists_label_membershipRelation_iff

/-! ## A host in two groups -/

namespace TwoGroups

/-- A router that a host has reported two groups to. -/
def router : Observation where
  igmps :=
    [{ group := Sample.ip 226 1 1 1, reporter := Sample.ip 10 0 0 2 },
      { group := Sample.ip 226 1 1 2, reporter := Sample.ip 10 0 0 2 }]

def network : Network where
  catalog := Sample.declare
    [("router", { ip := Sample.ip 10 0 0 1 }),
      ("host", { ip := Sample.ip 10 0 0 2, kind := .external })]
  observations := .ofList [("router", router)]

/-- The first report is about the group `226.1.1.1`. -/
theorem exists_report :
    ∃ device ∈ network.polledDevices, ∃ membership ∈ device.igmps,
      membership.group = Sample.ip 226 1 1 1 ∧
        network.reporterIp? device membership = some (Sample.ip 10 0 0 2) := by
  decide +kernel

/-- What the router shows of its first report is decided by the last one. -/
theorem membershipRelations_show_lastReport_host :
    ∃ device ∈ network.polledDevices, ∃ membership ∈ device.igmps,
      network.reporterIp? device membership = some (Sample.ip 10 0 0 2) ∧
        ∃ last, network.ReportsLast device (Sample.ip 10 0 0 2) last ∧
          network.membershipRelations.between .igmp device.adminIp (Sample.ip 10 0 0 2) =
            [Multicast.membershipRelation last device.adminIp (Sample.ip 10 0 0 2)] ∧
          (network.ShowsMembership device (Sample.ip 10 0 0 2) membership.group ↔
            last.group = membership.group) := by
  obtain ⟨device, hdevice, membership, hmembership, -, hreporter⟩ := exists_report
  exact ⟨device, hdevice, membership, hmembership, hreporter,
    membershipRelations_show_lastReport network device hdevice membership hmembership _ hreporter⟩

/-- The group of a report can be missing from the relations of its reporter. -/
theorem not_forall_showsMembership :
    ¬ ∀ net : Network, ∀ device ∈ net.polledDevices, ∀ membership ∈ device.igmps,
      ∀ reporter, net.reporterIp? device membership = some reporter →
        net.ShowsMembership device reporter membership.group := by
  intro hall
  have hlabels : ∀ relation ∈ network.membershipRelations.toList,
      ∀ label ∈ relation.middleLabels, label.text ≠ (Sample.ip 226 1 1 1).toText := by
    decide +kernel
  obtain ⟨device, hdevice, membership, hmembership, hgroup, hreporter⟩ := exists_report
  obtain ⟨relation, hrelation, label, hlabel, htext⟩ :=
    hall network device hdevice membership hmembership _ hreporter
  rw [hgroup] at htext
  exact hlabels relation (RelationSet.mem_between_iff.mp hrelation).1 label hlabel htext

end TwoGroups

end Network

end NetTopology
