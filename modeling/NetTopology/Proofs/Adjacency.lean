/-
# Adjacencies are flagged when one end is silent

The last link of a device to a neighbour with a predicate is what the device
says about that adjacency. When both ends say something, one line carries the
labels of both; when only one end does, its link becomes a red arrow. Links
with other predicates, and links to addresses that nobody owns, play no part.
-/

import NetTopology.Adjacency
import NetTopology.Proofs.Owner
import NetTopology.Proofs.Relation.Pairing

namespace NetTopology

namespace Adjacency

/-- The line of an adjacency that both ends report: `forth` is the link of `a`
to `b`, and `back` the one of `b` to `a`. -/
def twoSided (a b : Address) (predicate : String) (forth back : Link) : Relation where
  kind := .link
  left := a
  right := b
  predicate := predicate
  style := .bidirectional
  leftLabels := [.smallest back.peerIp.toText 3]
  middleLabels := Relation.Label.positional forth.labels
  rightLabels := [.smallest forth.peerIp.toText 3]

/-- The arrow of an adjacency that only `a` reports. -/
def oneSided (a b : Address) (predicate : String) (link : Link) : Relation where
  kind := .link
  left := a
  right := b
  predicate := predicate
  style := .flagged
  middleLabels := Relation.Label.positional link.labels
  rightLabels := [.smallest link.peerIp.toText 3]

end Adjacency

namespace Network

variable (net : Network)

/-- Whether a link of a device leads to the device `b` under a predicate. -/
def leadsTo (device : Device) (b : Address) (predicate : String) (link : Link) : Bool :=
  net.peerIp? device link == some b && link.predicate == predicate

/-- What the device `a` says last about its adjacency to `b` with a predicate. -/
def lastLink? (a b : Address) (predicate : String) : Option Link :=
  (net.polledDevices.find? fun device => device.adminIp == a).bind fun device =>
    (device.links.filter (net.leadsTo device b predicate)).getLast?

def linksBetween (a b : Address) (predicate : String) : List Relation :=
  (net.linkRelations.between .link a b).filter fun relation => relation.predicate == predicate

variable {net}

/-- The arcs that the links of a device write, in the order of the links. -/
theorem filter_arcs_eq (device : Device) (b : Address) (predicate : String) (links : List Link) :
    ((links.filterMap fun link => (net.peerIp? device link).map fun peer =>
        ((⟨device.adminIp, peer, link.predicate⟩ : Arc String), link)).filter
      fun write => write.1 = ⟨device.adminIp, b, predicate⟩) =
    (links.filter (net.leadsTo device b predicate)).map fun link =>
      (⟨device.adminIp, b, predicate⟩, link) := by
  induction links with
  | nil => rfl
  | cons link later ih =>
      rw [List.filterMap_cons, List.filter_cons]
      cases hpeer : net.peerIp? device link with
      | none => simpa [leadsTo, hpeer] using ih
      | some peer =>
          by_cases hleads : peer = b ∧ link.predicate = predicate
          · obtain ⟨rfl, rfl⟩ := hleads
            simpa [leadsTo, hpeer] using ih
          · simpa [leadsTo, hpeer, hleads] using ih

/-- An arc of the adjacencies carries the last link of its device. -/
theorem getElem?_adjacencies (a b : Address) (predicate : String) :
    (lastWrites net.adjacencies)[(⟨a, b, predicate⟩ : Arc String)]? =
      net.lastLink? a b predicate := by
  rw [getElem?_lastWrites, lastWriteTo_eq_getLast?, adjacencies, List.filter_flatMap,
    flatMap_eq_of_adminIp (pairwise_adminIp_ne_polled net), lastLink?]
  · cases hfind : net.polledDevices.find? fun device => device.adminIp == a with
    | none => rfl
    | some device =>
        obtain ⟨-, rfl⟩ := find?_polledDevices_eq_some_iff.mp hfind
        rw [Option.elim_some, filter_arcs_eq, List.getLast?_map, Option.map_map, Option.bind_some]
        exact Option.map_id'
  · intro device _ hother
    rw [List.filter_eq_nil_iff]
    intro write hwrite harc
    obtain ⟨link, -, hpeer⟩ := List.mem_filterMap.mp hwrite
    obtain ⟨peer, -, rfl⟩ := Option.map_eq_some_iff.mp hpeer
    exact hother (Arc.mk.inj (by simpa using harc)).1

/-- What a link that a device says last is: one of its links, which leads to
the neighbour under the predicate. -/
theorem exists_of_lastLink?_eq_some {a b : Address} {predicate : String} {link : Link}
    (hlast : net.lastLink? a b predicate = some link) :
    ∃ device ∈ net.polledDevices, device.adminIp = a ∧ link ∈ device.links ∧
      net.peerIp? device link = some b ∧ link.predicate = predicate := by
  obtain ⟨device, hfind, hlink⟩ := Option.bind_eq_some_iff.mp hlast
  obtain ⟨hdevice, hip⟩ := find?_polledDevices_eq_some_iff.mp hfind
  obtain ⟨hmem, hleads⟩ := List.mem_filter.mp (List.mem_of_getLast? hlink)
  simp only [leadsTo, Bool.and_eq_true, beq_iff_eq] at hleads
  exact ⟨device, hdevice, hip, hmem, hleads.1, hleads.2⟩

/-- A device says something about an adjacency when one of its links is about it. -/
theorem isSome_lastLink?_iff {a b : Address} {predicate : String} :
    (net.lastLink? a b predicate).isSome ↔
      ∃ device ∈ net.polledDevices, device.adminIp = a ∧ ∃ link ∈ device.links,
        net.peerIp? device link = some b ∧ link.predicate = predicate := by
  constructor
  · intro hsome
    obtain ⟨link, hlast⟩ := Option.isSome_iff_exists.mp hsome
    obtain ⟨device, hdevice, hip, hlink, hpeer, hpredicate⟩ := exists_of_lastLink?_eq_some hlast
    exact ⟨device, hdevice, hip, link, hlink, hpeer, hpredicate⟩
  · rintro ⟨device, hdevice, rfl, link, hlink, hpeer, rfl⟩
    rw [← getElem?_adjacencies, getElem?_lastWrites, isSome_lastWriteTo_iff]
    refine ⟨link, List.mem_flatMap.mpr ⟨device, hdevice, List.mem_filterMap.mpr ⟨link, hlink, ?_⟩⟩⟩
    rw [hpeer, Option.map_some]

/-- No device has an adjacency to itself. -/
theorem ne_of_lastLink?_eq_some {a b : Address} {predicate : String} {link : Link}
    (hlast : net.lastLink? a b predicate = some link) : a ≠ b := by
  obtain ⟨device, hdevice, rfl, -, hpeer, -⟩ := exists_of_lastLink?_eq_some hlast
  exact (ownerIp?_ne_observer hdevice hpeer).symm

/-- The adjacency relations are the lines that both ends report, from the
smaller to the larger address, and the arrows that only one end reports. -/
theorem mem_linkRelations_iff {relation : Relation} :
    relation ∈ net.linkRelations.toList ↔
      ∃ a b predicate forth, net.lastLink? a b predicate = some forth ∧
        ((∃ back, net.lastLink? b a predicate = some back ∧ a < b ∧
            relation = Adjacency.twoSided a b predicate forth back) ∨
          net.lastLink? b a predicate = none ∧
            relation = Adjacency.oneSided a b predicate forth) := by
  have hreverse (a b : Address) (predicate : String) :
      (⟨a, b, predicate⟩ : Arc String).reverse = ⟨b, a, predicate⟩ := rfl
  rw [linkRelations, mem_toList_drawn_iff (arc_eq_of_key_eq fun _ => rfl)]
  constructor
  · rintro ⟨⟨⟨a, b, predicate⟩, forth, back⟩, hpair, rfl⟩
    obtain ⟨hforth, hback, horder⟩ := mem_pairUp_iff.mp hpair
    rw [getElem?_adjacencies] at hforth
    rw [hreverse, getElem?_adjacencies] at hback
    refine ⟨a, b, predicate, forth, hforth, ?_⟩
    cases back with
    | some back => exact Or.inl ⟨back, hback, horder rfl, rfl⟩
    | none => exact Or.inr ⟨hback, rfl⟩
  · rintro ⟨a, b, predicate, forth, hforth, ⟨back, hback, hlt, rfl⟩ | ⟨hback, rfl⟩⟩
    · rw [← getElem?_adjacencies] at hforth hback
      exact ⟨⟨⟨a, b, predicate⟩, forth, some back⟩,
        mem_pairUp_iff.mpr ⟨hforth, hback, fun _ => hlt⟩, rfl⟩
    · rw [← getElem?_adjacencies] at hforth hback
      exact ⟨⟨⟨a, b, predicate⟩, forth, none⟩,
        mem_pairUp_iff.mpr ⟨hforth, hback, fun hsome => by cases hsome⟩, rfl⟩

/-- The key of an adjacency relation follows from its ends and its predicate. -/
theorem key_of_mem_linkRelations {relation : Relation}
    (hmem : relation ∈ net.linkRelations.toList) :
    relation.key =
      { kind := .link
        left := relation.left
        right := relation.right
        predicate := relation.predicate } := by
  obtain ⟨_, _, _, _, -, ⟨_, -, -, rfl⟩ | ⟨-, rfl⟩⟩ := mem_linkRelations_iff.mp hmem
  · rfl
  · rfl

/-- A relation is flagged when exactly one of its ends reports the adjacency. -/
theorem isFlagged_of_mem_linkRelations {relation : Relation}
    (hmem : relation ∈ net.linkRelations.toList) :
    relation.style.isFlagged =
      ((net.lastLink? relation.left relation.right relation.predicate).isSome ^^
        (net.lastLink? relation.right relation.left relation.predicate).isSome) := by
  obtain ⟨a, b, predicate, forth, hforth, ⟨back, hback, -, rfl⟩ | ⟨hback, rfl⟩⟩ :=
    mem_linkRelations_iff.mp hmem
  · have hboth : ((net.lastLink? a b predicate).isSome ^^
        (net.lastLink? b a predicate).isSome) = false := by
      rw [hforth, hback]
      rfl
    exact hboth.symm
  · have hone : ((net.lastLink? a b predicate).isSome ^^
        (net.lastLink? b a predicate).isSome) = true := by
      rw [hforth, hback]
      rfl
    exact hone.symm

/-- A relation joins two devices, and its left end has a link to its right end. -/
theorem backed_of_mem_linkRelations {relation : Relation}
    (hmem : relation ∈ net.linkRelations.toList) :
    relation.left ≠ relation.right ∧
      ∃ device ∈ net.polledDevices, device.adminIp = relation.left ∧
        ∃ link ∈ device.links, net.peerIp? device link = some relation.right ∧
          link.predicate = relation.predicate := by
  obtain ⟨a, b, predicate, forth, hforth, hcases⟩ := mem_linkRelations_iff.mp hmem
  have hends : relation.left = a ∧ relation.right = b ∧ relation.predicate = predicate := by
    rcases hcases with ⟨_, -, -, rfl⟩ | ⟨-, rfl⟩ <;> exact ⟨rfl, rfl, rfl⟩
  obtain ⟨rfl, rfl, rfl⟩ := hends
  obtain ⟨device, hdevice, hip, hlink, hpeer, hpredicate⟩ := exists_of_lastLink?_eq_some hforth
  exact ⟨ne_of_lastLink?_eq_some hforth, device, hdevice, hip, forth, hlink, hpeer, hpredicate⟩

/-! ## Between two devices -/

theorem mem_linksBetween_iff {a b : Address} {predicate : String} {relation : Relation} :
    relation ∈ net.linksBetween a b predicate ↔
      relation ∈ net.linkRelations.toList ∧ relation.left = a ∧ relation.right = b ∧
        relation.predicate = predicate := by
  rw [linksBetween, List.mem_filter, RelationSet.mem_between_iff, beq_iff_eq]
  constructor
  · rintro ⟨⟨hmem, -, hleft, hright⟩, hpredicate⟩
    exact ⟨hmem, hleft, hright, hpredicate⟩
  · rintro ⟨hmem, hleft, hright, hpredicate⟩
    exact ⟨⟨hmem, congrArg Relation.Key.kind (key_of_mem_linkRelations hmem), hleft, hright⟩,
      hpredicate⟩

/-- An adjacency relation is the only one between its ends with its predicate. -/
theorem linksBetween_eq_singleton {a b : Address} {predicate : String} {relation : Relation}
    (hmem : relation ∈ net.linkRelations.toList) (hleft : relation.left = a)
    (hright : relation.right = b) (hpredicate : relation.predicate = predicate) :
    net.linksBetween a b predicate = [relation] := by
  subst hleft hright hpredicate
  have hnodup : (net.linksBetween relation.left relation.right relation.predicate).Nodup :=
    (RelationSet.nodup_between _ _ _ _).filter _
  apply eq_singleton_of_nodup hnodup
  · exact mem_linksBetween_iff.mpr ⟨hmem, rfl, rfl, rfl⟩
  · intro other hother
    obtain ⟨hset, hleft, hright, hpredicate⟩ := mem_linksBetween_iff.mp hother
    apply RelationSet.eq_of_mem_of_key_eq hset hmem
    rw [key_of_mem_linkRelations hset, key_of_mem_linkRelations hmem, hleft, hright, hpredicate]

/-- No relation leads from `a` to `b` when `a` says nothing, and none either
when both ends say something and the line starts at `b`. -/
theorem linksBetween_eq_nil {a b : Address} {predicate : String}
    (habsent : net.lastLink? a b predicate = none ∨
      (net.lastLink? b a predicate).isSome ∧ b < a) :
    net.linksBetween a b predicate = [] := by
  rw [List.eq_nil_iff_forall_not_mem]
  intro relation hrelation
  obtain ⟨hmem, rfl, rfl, rfl⟩ := mem_linksBetween_iff.mp hrelation
  obtain ⟨a, b, predicate, forth, hforth, ⟨back, -, hlt, rfl⟩ | ⟨hback, rfl⟩⟩ :=
    mem_linkRelations_iff.mp hmem
  · rcases habsent with hnone | ⟨-, hgt⟩
    · exact absurd (hforth.symm.trans hnone) (Option.some_ne_none forth)
    · exact Address.not_lt_of_lt hlt hgt
  · rcases habsent with hnone | ⟨hsome, -⟩
    · exact absurd (hforth.symm.trans hnone) (Option.some_ne_none forth)
    · exact absurd hback (Option.isSome_iff_ne_none.mp hsome)

theorem linksBetween_of_both {a b : Address} {predicate : String} {forth back : Link}
    (hlt : a < b) (hforth : net.lastLink? a b predicate = some forth)
    (hback : net.lastLink? b a predicate = some back) :
    net.linksBetween a b predicate = [Adjacency.twoSided a b predicate forth back] ∧
      net.linksBetween b a predicate = [] := by
  have hmem : Adjacency.twoSided a b predicate forth back ∈ net.linkRelations.toList :=
    mem_linkRelations_iff.mpr ⟨a, b, predicate, forth, hforth, Or.inl ⟨back, hback, hlt, rfl⟩⟩
  refine ⟨linksBetween_eq_singleton hmem rfl rfl rfl, linksBetween_eq_nil (Or.inr ⟨?_, hlt⟩)⟩
  rw [hforth]
  rfl

theorem linksBetween_of_one {a b : Address} {predicate : String} {link : Link}
    (hlink : net.lastLink? a b predicate = some link)
    (hback : net.lastLink? b a predicate = none) :
    net.linksBetween a b predicate = [Adjacency.oneSided a b predicate link] ∧
      net.linksBetween b a predicate = [] := by
  have hmem : Adjacency.oneSided a b predicate link ∈ net.linkRelations.toList :=
    mem_linkRelations_iff.mpr ⟨a, b, predicate, link, hlink, Or.inr ⟨hback, rfl⟩⟩
  exact ⟨linksBetween_eq_singleton hmem rfl rfl rfl, linksBetween_eq_nil (Or.inl hback)⟩

/-- For every pair of addresses and every predicate the adjacency relations
hold one line, labelled from the last links of both ends, when both ends report
the adjacency, one red arrow, labelled from the last link of its source, when
only that end does, and nothing when neither does. Every relation joins two
devices, is backed by a link whose peer is its other end, and is flagged when
exactly one of its ends reports the adjacency. -/
theorem linkRelations_eq_lastLinks (net : Network) :
    (∀ a b predicate, a < b →
      match net.lastLink? a b predicate, net.lastLink? b a predicate with
      | some forth, some back =>
          net.linksBetween a b predicate = [Adjacency.twoSided a b predicate forth back] ∧
            net.linksBetween b a predicate = []
      | some forth, none =>
          net.linksBetween a b predicate = [Adjacency.oneSided a b predicate forth] ∧
            net.linksBetween b a predicate = []
      | none, some back =>
          net.linksBetween a b predicate = [] ∧
            net.linksBetween b a predicate = [Adjacency.oneSided b a predicate back]
      | none, none =>
          net.linksBetween a b predicate = [] ∧ net.linksBetween b a predicate = []) ∧
    ∀ relation ∈ net.linkRelations.toList,
      relation.kind = .link ∧
        relation.style.isFlagged =
          ((net.lastLink? relation.left relation.right relation.predicate).isSome ^^
            (net.lastLink? relation.right relation.left relation.predicate).isSome) ∧
        relation.left ≠ relation.right ∧
        ∃ device ∈ net.polledDevices, device.adminIp = relation.left ∧
          ∃ link ∈ device.links, net.peerIp? device link = some relation.right ∧
            link.predicate = relation.predicate := by
  constructor
  · intro a b predicate hlt
    cases hforth : net.lastLink? a b predicate with
    | some forth =>
        cases hback : net.lastLink? b a predicate with
        | some back => exact linksBetween_of_both hlt hforth hback
        | none => exact linksBetween_of_one hforth hback
    | none =>
        cases hback : net.lastLink? b a predicate with
        | some back => exact (linksBetween_of_one hback hforth).symm
        | none =>
            exact ⟨linksBetween_eq_nil (Or.inl hforth), linksBetween_eq_nil (Or.inl hback)⟩
  · intro relation hmem
    exact ⟨congrArg Relation.Key.kind (key_of_mem_linkRelations hmem),
      isFlagged_of_mem_linkRelations hmem, backed_of_mem_linkRelations hmem⟩

end Network

end NetTopology
