/-
# The same records give the same topology

Networks of one catalog whose observations hold the same records show the same
edges: every relation of the one network has a relation of the other one with
its key, drawn in the same direction and marked alike. Only labels and the colour
of a selected path tell which of several records came last. Next hops, gateways
and declared links carry no data of a record, and are the same altogether.
-/

import NetTopology.Proofs.Adjacency
import NetTopology.Proofs.Multicast
import NetTopology.Proofs.SameRecords.Network

namespace NetTopology

namespace Relation

/-- Whether the relations of a kind are drawn without data of a record. -/
def Kind.isPlain : Kind → Bool
  | .declared | .nextHop | .multicastGateway => true
  | .selection | .link | .multicastUpstream | .multicastDownstream | .igmp => false

/-- Gateway edges are the plain ones of a multicast tree. -/
theorem Kind.eq_multicastGateway {kind : Kind} (hpart : kind.part = .multicast)
    (hplain : kind.isPlain) : kind = .multicastGateway := by
  cases kind with
  | multicastGateway => rfl
  | multicastUpstream | multicastDownstream => cases hplain
  | _ => cases hpart

/-- What a relation shows besides labels and colours: its key, the direction of
its line, and whether the line is marked as inconsistent. -/
def outline (relation : Relation) : Key × Direction × Bool :=
  (relation.key, relation.style.direction, relation.style.isFlagged)

/-- The two relations have one outline, and are the same if their kind is plain. -/
structure Agrees (first second : Relation) : Prop where
  outline : first.outline = second.outline
  eq_of_isPlain : first.kind.isPlain → first = second

namespace Agrees

theorem refl (relation : Relation) : relation.Agrees relation where
  outline := rfl
  eq_of_isPlain _ := rfl

theorem key_eq {first second : Relation} (hagrees : first.Agrees second) :
    first.key = second.key :=
  congrArg Prod.fst hagrees.outline

/-- Two plain arrows with one key agree, and are the same if their kind is plain. -/
theorem of_directed {first second : Relation} (hkey : first.key = second.key)
    (hfirst : first.style = .directed) (hsecond : second.style = .directed)
    (hplain : first.kind.isPlain → first.drawing = second.drawing) : first.Agrees second where
  outline := by rw [Relation.outline, Relation.outline, hkey, hfirst, hsecond]
  eq_of_isPlain hkind := congr (congrArg Relation.mk hkey) (hplain hkind)

end Agrees

end Relation

/-- The outline of a path does not tell which route it is drawn from. -/
theorem Selection.outline_relation_eq (path : Arc Address) (resolved other : ResolvedRoute) :
    (relation path resolved).outline = (relation path other).outline := by
  have hflagged (resolved : ResolvedRoute) : (relation path resolved).style.isFlagged = false := by
    rw [relation]
    cases resolved.hasUnmodeledVia <;> rfl
  rw [Relation.outline, Relation.outline, hflagged, hflagged]
  rfl

namespace Network

variable {first second : Network}

namespace SameRecords

/-! ## Next hops and selected paths -/

theorem forwards (hsame : first.SameRecords second) {a b : Address}
    (hforward : first.Forwards a b) : second.Forwards a b := by
  obtain ⟨hne, device, hdevice, rfl, route, hroute, hhop⟩ := hforward
  obtain ⟨other, hother, hrecords⟩ := hsame.exists_polledDevice hdevice
  rw [hsame.viaIp?_resolve_eq hrecords, hsame.destinations_resolve_eq hrecords] at hhop
  exact ⟨hne, other, hother, hrecords.adminIp_eq.symm, route,
    (hrecords.mem_routes_iff route).mp hroute, hhop⟩

theorem forwards_iff (hsame : first.SameRecords second) {a b : Address} :
    first.Forwards a b ↔ second.Forwards a b :=
  ⟨hsame.forwards, hsame.symm.forwards⟩

theorem mem_nextHopRelations_congr (hsame : first.SameRecords second) {relation : Relation} :
    relation ∈ first.nextHopRelations.toList ↔ relation ∈ second.nextHopRelations.toList := by
  rw [mem_nextHopRelations_iff, mem_nextHopRelations_iff]
  simp only [hsame.forwards_iff]

/-- A path that a route selects is selected in the other network too, maybe by another route. -/
theorem exists_mem_selections (hsame : first.SameRecords second) {path : Arc Address}
    {resolved : ResolvedRoute} (hmem : (path, resolved) ∈ first.selections) :
    ∃ other, (path, other) ∈ second.selections := by
  obtain ⟨hresolved, hsrc, hselected⟩ := mem_selections_iff.mp hmem
  obtain ⟨device, hdevice, route, hroute, rfl⟩ := mem_resolvedRoutes_iff.mp hresolved
  obtain ⟨other, hother, hrecords⟩ := hsame.exists_polledDevice hdevice
  refine ⟨second.resolve other route, mem_selections_iff.mpr ⟨?_, ?_, ?_⟩⟩
  · exact mem_resolvedRoutes_iff.mpr
      ⟨other, hother, route, (hrecords.mem_routes_iff route).mp hroute, rfl⟩
  · exact hsrc.trans hrecords.adminIp_eq
  · rwa [← hsame.selectedBy_resolve_eq hrecords]

theorem exists_selectionRelation (hsame : first.SameRecords second) {relation : Relation}
    (hmem : relation ∈ first.selectionRelations.toList) :
    ∃ other ∈ second.selectionRelations.toList, relation.Agrees other := by
  obtain ⟨path, resolved, hlast, rfl⟩ := mem_selectionRelations_iff.mp hmem
  obtain ⟨other, hother⟩ := hsame.exists_mem_selections (mem_of_lastWriteTo_eq_some hlast)
  -- another route may be the last one that selects the path there
  obtain ⟨last, hlast⟩ := exists_lastWriteTo_eq_some hother
  exact ⟨_, mem_selectionRelations_iff.mpr ⟨path, last, hlast, rfl⟩,
    Selection.outline_relation_eq path resolved last, fun hplain => by cases hplain⟩

/-! ## Adjacencies -/

theorem isSome_lastLink? (hsame : first.SameRecords second) {a b : Address} {predicate : String}
    (hsome : (first.lastLink? a b predicate).isSome) :
    (second.lastLink? a b predicate).isSome := by
  obtain ⟨device, hdevice, rfl, link, hlink, hpeer, hpredicate⟩ := isSome_lastLink?_iff.mp hsome
  obtain ⟨other, hother, hrecords⟩ := hsame.exists_polledDevice hdevice
  rw [peerIp?, hrecords.adminIp_eq, hsame.ownerIp?_eq] at hpeer
  exact isSome_lastLink?_iff.mpr ⟨other, hother, hrecords.adminIp_eq.symm, link,
    (hrecords.mem_links_iff link).mp hlink, hpeer, hpredicate⟩

theorem isSome_lastLink?_eq (hsame : first.SameRecords second) (a b : Address)
    (predicate : String) :
    (first.lastLink? a b predicate).isSome = (second.lastLink? a b predicate).isSome :=
  Bool.eq_iff_iff.mpr ⟨hsame.isSome_lastLink?, hsame.symm.isSome_lastLink?⟩

theorem exists_linkRelation (hsame : first.SameRecords second) {relation : Relation}
    (hmem : relation ∈ first.linkRelations.toList) :
    ∃ other ∈ second.linkRelations.toList, relation.Agrees other := by
  obtain ⟨a, b, predicate, forth, hforth, hcases⟩ := mem_linkRelations_iff.mp hmem
  have hsomeForth := hsame.isSome_lastLink?_eq a b predicate
  have hsomeBack := hsame.isSome_lastLink?_eq b a predicate
  rw [hforth] at hsomeForth
  obtain ⟨otherForth, hotherForth⟩ := Option.isSome_iff_exists.mp hsomeForth.symm
  rcases hcases with ⟨back, hback, hlt, rfl⟩ | ⟨hback, rfl⟩
  · rw [hback] at hsomeBack
    obtain ⟨otherBack, hotherBack⟩ := Option.isSome_iff_exists.mp hsomeBack.symm
    exact ⟨_, mem_linkRelations_iff.mpr ⟨a, b, predicate, otherForth, hotherForth,
      Or.inl ⟨otherBack, hotherBack, hlt, rfl⟩⟩, rfl, fun hplain => by cases hplain⟩
  · rw [hback] at hsomeBack
    have hotherBack := Option.isSome_eq_false_iff.mp hsomeBack.symm
    exact ⟨_, mem_linkRelations_iff.mpr ⟨a, b, predicate, otherForth, hotherForth,
      Or.inr ⟨Option.isNone_iff_eq_none.mp hotherBack, rfl⟩⟩, rfl, fun hplain => by cases hplain⟩

/-! ## Multicast trees and memberships -/

theorem isFirstOwner (hsame : first.SameRecords second) {address : Address} {device other : Device}
    (hother : other ∈ second.polledDevices) (hrecords : device.SameRecords other)
    (howner : first.IsFirstOwner address device) : second.IsFirstOwner address other := by
  obtain ⟨-, howns, hfirst⟩ := howner
  rw [hrecords.sameAddresses.ownsIp_eq] at howns
  refine ⟨hother, howns, ?_⟩
  intro third hthird hthirdOwns
  -- an owner that precedes it there would precede it here as well
  obtain ⟨fourth, hfourth, hcorrespond⟩ := hsame.symm.exists_polledDevice hthird
  rw [hcorrespond.sameAddresses.ownsIp_eq] at hthirdOwns
  have hnot := hfirst fourth hfourth hthirdOwns
  rwa [Device.Precedes, ← hcorrespond.name_eq, hrecords.name_eq] at hnot

theorem isTree (hsame : first.SameRecords second) {group source : Address}
    (htree : first.IsTree group source) : second.IsTree group source := by
  obtain ⟨device, hdevice, route, hroute, hends⟩ := htree
  obtain ⟨other, hother, hrecords⟩ := hsame.exists_polledDevice hdevice
  exact ⟨other, hother, route, (hrecords.mem_mroutes_iff route).mp hroute, hends⟩

theorem treeEdge (hsame : first.SameRecords second) {group source left right : Address}
    {kind : Relation.Kind} (hedge : first.TreeEdge group source kind left right) :
    second.TreeEdge group source kind left right := by
  cases hedge with
  | upstream hdevice hroute hgroup hsource howner =>
      obtain ⟨other, hother, hrecords⟩ := hsame.exists_polledDevice hdevice
      rw [hrecords.adminIp_eq, hsame.ownerIp?_eq] at howner
      rw [hrecords.adminIp_eq]
      exact .upstream hother ((hrecords.mem_mroutes_iff _).mp hroute) hgroup hsource howner
  | downstream hdevice hroute hgroup hsource hmembership hmember howner =>
      obtain ⟨other, hother, hrecords⟩ := hsame.exists_polledDevice hdevice
      rw [hrecords.adminIp_eq, hsame.ownerIp?_eq] at howner
      rw [hrecords.adminIp_eq]
      exact .downstream hother ((hrecords.mem_mroutes_iff _).mp hroute) hgroup hsource
        ((hrecords.mem_igmps_iff _).mp hmembership) hmember howner
  | gateway htree horigin hroute hvia howner =>
      obtain ⟨other, hother, hrecords⟩ := hsame.exists_polledDevice horigin.1
      rw [hrecords.adminIp_eq, hsame.ownerIp?_eq] at howner
      rw [hrecords.adminIp_eq]
      exact .gateway (hsame.isTree htree) (hsame.isFirstOwner hother hrecords horigin)
        ((hrecords.mem_routes_iff _).mp hroute) hvia howner

theorem exists_multicastRelation (hsame : first.SameRecords second) {relation : Relation}
    (hmem : relation ∈ first.multicastRelations.toList) :
    ∃ other ∈ second.multicastRelations.toList, relation.Agrees other := by
  obtain ⟨hstyle, group, source, hsource, hedge, hkey⟩ := exists_tree_of_mem_multicastRelations hmem
  have hsome := isSome_get?_multicastRelations_iff.mpr ⟨hsource, hsame.treeEdge hedge⟩
  obtain ⟨other, hother, hotherKey⟩ := RelationSet.isSome_get?_iff.mp hsome
  have hotherStyle := (exists_tree_of_mem_multicastRelations hother).1
  have hsameKey : relation.key = other.key := hkey.trans hotherKey.symm
  refine ⟨other, hother, .of_directed hsameKey hstyle hotherStyle ?_⟩
  intro hplain
  have hkind : relation.kind = .multicastGateway :=
    Relation.Kind.eq_multicastGateway (part_kind_of_mem_multicastRelations hmem) hplain
  have hotherKind : other.kind = .multicastGateway := by
    rw [← hkind]
    exact congrArg Relation.Key.kind hsameKey.symm
  rw [drawing_of_mem_multicastRelations hmem hkind,
    drawing_of_mem_multicastRelations hother hotherKind]

theorem exists_membershipRelation (hsame : first.SameRecords second) {relation : Relation}
    (hmem : relation ∈ first.membershipRelations.toList) :
    ∃ other ∈ second.membershipRelations.toList, relation.Agrees other := by
  obtain ⟨device, hdevice, membership, hmembership, reporter, howner, rfl⟩ :=
    exists_report_of_mem_membershipRelations hmem
  obtain ⟨other, hother, hrecords⟩ := hsame.exists_polledDevice hdevice
  rw [reporterIp?, hrecords.adminIp_eq, hsame.ownerIp?_eq] at howner
  obtain ⟨found, hfound, hkey⟩ := exists_membershipRelation_of_report hother
    ((hrecords.mem_igmps_iff membership).mp hmembership) howner
  have hstyle : found.style = .directed := by
    obtain ⟨_, -, _, -, _, -, rfl⟩ := exists_report_of_mem_membershipRelations hfound
    rfl
  rw [hrecords.adminIp_eq]
  exact ⟨found, hfound, .of_directed hkey.symm rfl hstyle fun hplain => by cases hplain⟩

/-! ## All relations -/

/-- Every relation of a part has a counterpart in the same part of the other network. -/
theorem exists_of_mem_relationsOf (hsame : first.SameRecords second) {part : Part}
    {relation : Relation} (hmem : relation ∈ (first.relationsOf part).toList) :
    ∃ other ∈ (second.relationsOf part).toList, relation.Agrees other := by
  cases part with
  | declared =>
      rw [relationsOf, hsame.catalog] at hmem
      exact ⟨relation, hmem, .refl relation⟩
  | nextHop => exact ⟨relation, hsame.mem_nextHopRelations_congr.mp hmem, .refl relation⟩
  | selection => exact hsame.exists_selectionRelation hmem
  | links => exact hsame.exists_linkRelation hmem
  | multicast => exact hsame.exists_multicastRelation hmem
  | igmp => exact hsame.exists_membershipRelation hmem

theorem exists_relation (hsame : first.SameRecords second) {relation : Relation}
    (hmem : relation ∈ first.relations.toList) :
    ∃ other ∈ second.relations.toList, relation.Agrees other := by
  obtain ⟨other, hother, hagrees⟩ := hsame.exists_of_mem_relationsOf (mem_relations_iff.mp hmem)
  have hkind : relation.kind = other.kind := congrArg Relation.Key.kind hagrees.key_eq
  rw [hkind] at hother
  exact ⟨other, mem_relations_iff.mpr hother, hagrees⟩

/-- Under each key the two networks have relations that agree, or nothing. -/
theorem rel_get?_relations (hsame : first.SameRecords second) (key : Relation.Key) :
    Option.Rel Relation.Agrees (first.relations.get? key) (second.relations.get? key) := by
  apply RelationSet.rel_get?
  · intro relation other hagrees
    exact hagrees.key_eq
  · intro relation hmem
    exact hsame.exists_relation hmem
  · intro relation hmem
    exact hsame.symm.exists_relation hmem

end SameRecords

/-- Networks of one catalog whose observations hold the same records, in any
order and with any repetitions, show the same keys with the same directions and
marks, and the same next hops, gateways and declared links. -/
theorem outlines_eq_and_plain_eq (first second : Network) (hsame : first.SameRecords second) :
    first.relations.toList.map Relation.outline = second.relations.toList.map Relation.outline ∧
      ∀ kind : Relation.Kind, kind.isPlain →
        first.relations.ofKind kind = second.relations.ofKind kind := by
  constructor
  · apply RelationSet.map_toList_eq
    intro key
    have hrel := hsame.rel_get?_relations key
    generalize first.relations.get? key = one, second.relations.get? key = other at hrel
    cases hrel with
    | some hagrees => exact congrArg some hagrees.outline
    | none => rfl
  · intro kind hplain
    apply RelationSet.ofKind_eq
    intro key hkind
    have hrel := hsame.rel_get?_relations key
    generalize hone : first.relations.get? key = one, second.relations.get? key = other at hrel
    cases hrel with
    | some hagrees =>
        rw [← hkind, ← RelationSet.key_eq_of_get?_eq_some hone] at hplain
        exact congrArg some (hagrees.eq_of_isPlain hplain)
    | none => rfl

/-! ## A router that reports its routes in another order -/

namespace Reordered

/-- A route to the server over the linked host. -/
def known : Route :=
  Sample.route (Sample.ip 10 1 0 1) .hostMask (Sample.ip 10 0 0 2) "ospf" 20 "1"

/-- A route to the server over an address that nobody owns. -/
def unknown : Route :=
  Sample.route (Sample.ip 10 1 0 1) .hostMask (Sample.ip 10 9 9 9) "static" 1 "1"

def catalog : Catalog :=
  Sample.declare
    [("host", { ip := Sample.ip 10 0 0 2 }),
      ("router", { ip := Sample.ip 10 0 0 1, links := ["host"] }),
      ("server", { ip := Sample.ip 10 1 0 1 })]

/-- The router answers with the given routes, and the other devices are down. -/
def network (routes : List Route) : Network where
  catalog := catalog
  observations := (∅ : ObservationSet).insert "router"
    { interfaces := [Sample.interface "1" "eth0" (Sample.ip 10 0 0 1) Sample.lan], routes := routes }

/-- The path to the server is drawn from another route, in another colour, but
nothing else differs. -/
theorem outlines_eq_repeated :
    (network [known, unknown]).SameRecords (network [unknown, known, unknown, known]) ∧
      (network [known, unknown]).relations.toList ≠
        (network [unknown, known, unknown, known]).relations.toList ∧
      (network [known, unknown]).relations.toList.map Relation.outline =
        (network [unknown, known, unknown, known]).relations.toList.map Relation.outline := by
  have hsame : (network [known, unknown]).SameRecords
      (network [unknown, known, unknown, known]) := by
    refine ⟨rfl, (ObservationSet.SameRecords.refl ∅).insert "router" ?_⟩
    have hroutes (route : Route) :
        route ∈ [known, unknown] ↔ route ∈ [unknown, known, unknown, known] := by
      simp only [List.mem_cons, List.not_mem_nil]
      tauto
    exact { Observation.SameRecords.refl _ with routes := hroutes }
  have hdiffer : (network [known, unknown]).relations.toList ≠
      (network [unknown, known, unknown, known]).relations.toList := by decide +kernel
  exact ⟨hsame, hdiffer, (outlines_eq_and_plain_eq _ _ hsame).1⟩

end Reordered

end Network

end NetTopology
