/-
# Display predicates name what they show

The display predicate of a multicast tree is written with the group and the
source of the tree, and that of a selected path with its destination. Addresses
are in dotted decimal form there, so the underscore or the quote that follows
one of them ends it, and what is named can be read back. Two trees therefore
never share a predicate, and neither do two destinations.

The first letter after the word that all predicates start with tells the sorts
of relations apart. Only links are shown by predicates that the devices report,
and these may be anything. Among all other relations of a network, the predicate
of a tree shows nothing but edges of this tree, and that of a destination shows
exactly the paths to it.
-/

import NetTopology.Proofs.Multicast
import NetTopology.Proofs.NextHop
import NetTopology.Samples

namespace NetTopology

namespace Selection

theorem toList_predicate (dst : Address) :
    (predicate dst).toList = "options.ospf options.routes or selection.name '".toList ++
      (dst.toText.toList ++ "' ends_with and".toList) := by
  unfold predicate
  rw [String.toList_append, String.toList_append, List.append_assoc]

/-- The display predicate names the destination. -/
theorem eq_of_predicate_eq {dst other : Address} (heq : predicate dst = predicate other) :
    dst = other := by
  have hquote : Address.isTextChar '\'' = false := by decide
  have hend : "' ends_with and".toList = '\'' :: " ends_with and".toList := by decide
  have htext := congrArg String.toList heq
  rw [toList_predicate, toList_predicate, hend] at htext
  exact (Address.eq_and_eq_of_toText_append_eq hquote (List.append_cancel_left htext)).1

end Selection

/-! ## Sorts of predicates -/

namespace Relation

/-- The first letter of a display predicate after `options.`. -/
def sortLetter? (predicate : String) : Option Char :=
  predicate.toList[8]?

end Relation

theorem Selection.sortLetter?_predicate (dst : Address) :
    Relation.sortLetter? (predicate dst) = some 'o' := by
  have hlong : 8 < "options.ospf options.routes or selection.name '".toList.length := by decide
  rw [Relation.sortLetter?, toList_predicate, List.getElem?_append_left hlong]
  decide

/-- The predicate of a tree goes on with its group. -/
theorem Multicast.exists_sortLetter?_predicate (group source : Address) :
    ∃ c, Relation.sortLetter? (predicate group source) = some c ∧ Address.isTextChar c := by
  have hgroup : group.toText.toList ≠ [] := by
    rw [Address.toList_toText]
    exact List.append_ne_nil_of_right_ne_nil _ (List.cons_ne_nil _ _)
  obtain ⟨c, rest, htext⟩ := List.exists_cons_of_ne_nil hgroup
  refine ⟨c, ?_, Address.isTextChar_of_mem_toText (htext ▸ List.mem_cons_self)⟩
  have hshort : "options.".toList.length = 8 := by decide
  rw [Relation.sortLetter?, predicate, String.toList_append, String.toList_append,
    String.toList_append, htext, List.append_assoc, List.append_assoc,
    List.getElem?_append_right hshort.le, hshort]
  rfl

/-- No selected path has the predicate of a tree. -/
theorem Multicast.predicate_ne_selectionPredicate (group source dst : Address) :
    predicate group source ≠ Selection.predicate dst := by
  intro heq
  obtain ⟨digit, hdigit, htext⟩ := exists_sortLetter?_predicate group source
  rw [heq, Selection.sortLetter?_predicate, Option.some.injEq] at hdigit
  rw [← hdigit] at htext
  cases htext

namespace Network

/-- The display predicates of declared links, next hops and memberships. -/
def fixedPredicates : List String :=
  [Catalog.linkPredicate, NextHop.predicate, Multicast.membershipPredicate]

/-- A fixed predicate goes on with a letter that begins neither an address nor the
predicate of a selected path. -/
theorem exists_sortLetter?_of_fixed {text : String} (hfixed : text ∈ fixedPredicates) :
    ∃ c, Relation.sortLetter? text = some c ∧ Address.isTextChar c = false ∧ c ≠ 'o' := by
  simp only [fixedPredicates, List.mem_cons, List.not_mem_nil, or_false] at hfixed
  rcases hfixed with rfl | rfl | rfl
  · exact ⟨'n', by decide, by decide, by decide⟩
  · exact ⟨'r', by decide, by decide, by decide⟩
  · exact ⟨'i', by decide, by decide, by decide⟩

/-- Fixed predicates name neither a tree nor a destination. -/
theorem ne_of_mem_fixedPredicates {text : String} (hfixed : text ∈ fixedPredicates) :
    (∀ group source, text ≠ Multicast.predicate group source) ∧
      ∀ dst, text ≠ Selection.predicate dst := by
  obtain ⟨c, hc, hnoText, hother⟩ := exists_sortLetter?_of_fixed hfixed
  constructor
  · rintro group source rfl
    obtain ⟨digit, hdigit, htext⟩ := Multicast.exists_sortLetter?_predicate group source
    rw [hdigit, Option.some.injEq] at hc
    rw [← hc, htext] at hnoText
    cases hnoText
  · rintro dst rfl
    rw [Selection.sortLetter?_predicate, Option.some.injEq] at hc
    exact hother hc.symm

/-! ## The relations of a network -/

/-- What the display predicate of a relation comes from. -/
inductive Named (net : Network) (relation : Relation) : Prop
  /-- A link has the predicate that a device reported. -/
  | link (hkind : relation.kind = .link)
  /-- A declared link, a next hop or a membership has the predicate of its sort. -/
  | fixed (hdst : relation.dst = none) (hpredicate : relation.predicate ∈ fixedPredicates)
  /-- A selected path has the predicate of its destination. -/
  | destination {dst : Address} (hdst : relation.dst = some dst)
      (hpredicate : relation.predicate = Selection.predicate dst)
  /-- An edge of a multicast tree has the predicate of the tree. -/
  | tree {group source : Address} (hdst : relation.dst = none) (hsource : source ≠ .unspecified)
      (hedge : net.TreeEdge group source relation.kind relation.left relation.right)
      (hpredicate : relation.predicate = Multicast.predicate group source)

variable {net : Network} {relation : Relation}

theorem named_of_mem_relationsOf {part : Part}
    (hmem : relation ∈ (net.relationsOf part).toList) : net.Named relation := by
  cases part with
  | declared =>
      obtain ⟨link, -, rfl⟩ := List.mem_map.mp (RelationSet.mem_of_mem_toList_ofList hmem)
      exact .fixed rfl List.mem_cons_self
  | nextHop =>
      have hfixed : NextHop.predicate ∈ fixedPredicates :=
        List.mem_cons_of_mem _ List.mem_cons_self
      obtain ⟨a, b, -, ⟨-, -, rfl⟩ | ⟨-, rfl⟩⟩ := mem_nextHopRelations_iff.mp hmem
      · exact .fixed rfl hfixed
      · exact .fixed rfl hfixed
  | selection =>
      obtain ⟨⟨path, resolved⟩, -, rfl⟩ :=
        List.mem_map.mp (RelationSet.mem_of_mem_toList_ofList hmem)
      exact .destination rfl rfl
  | links =>
      obtain ⟨pair, -, rfl⟩ := List.mem_map.mp (RelationSet.mem_of_mem_toList_ofList hmem)
      exact .link rfl
  | multicast =>
      obtain ⟨-, group, source, hsource, hedge, hkey⟩ := exists_tree_of_mem_multicastRelations hmem
      exact .tree (congrArg Relation.Key.dst hkey) hsource hedge
        (congrArg Relation.Key.predicate hkey)
  | igmp =>
      obtain ⟨device, -, membership, -, reporter, -, rfl⟩ :=
        exists_report_of_mem_membershipRelations hmem
      exact .fixed rfl (List.mem_cons_of_mem _ (List.mem_cons_of_mem _ List.mem_cons_self))

/-- What has the predicate of a tree is an edge of the tree. -/
theorem Named.treeEdge {group source : Address} (hnamed : net.Named relation)
    (hkind : relation.kind ≠ .link)
    (hpredicate : relation.predicate = Multicast.predicate group source) :
    source ≠ .unspecified ∧
      net.TreeEdge group source relation.kind relation.left relation.right := by
  cases hnamed with
  | link hlink => exact absurd hlink hkind
  | fixed _ hfixed => exact absurd hpredicate ((ne_of_mem_fixedPredicates hfixed).1 _ _)
  | destination _ hdst =>
      exact absurd (hpredicate.symm.trans hdst) (Multicast.predicate_ne_selectionPredicate _ _ _)
  | tree _ hsource hedge htree =>
      obtain ⟨rfl, rfl⟩ := Multicast.eq_and_eq_of_predicate_eq (htree.symm.trans hpredicate)
      exact ⟨hsource, hedge⟩

/-- What has the predicate of a destination is a path to it, and nothing else is. -/
theorem Named.predicate_eq_iff {dst : Address} (hnamed : net.Named relation)
    (hkind : relation.kind ≠ .link) :
    relation.predicate = Selection.predicate dst ↔ relation.dst = some dst := by
  cases hnamed with
  | link hlink => exact absurd hlink hkind
  | fixed hnone hfixed =>
      exact iff_of_false ((ne_of_mem_fixedPredicates hfixed).2 dst) (by simp [hnone])
  | destination hdst hpredicate =>
      rw [hdst, hpredicate, Option.some.injEq]
      exact ⟨Selection.eq_of_predicate_eq, congrArg Selection.predicate⟩
  | tree hnone _ _ htree =>
      rw [htree]
      exact iff_of_false (Multicast.predicate_ne_selectionPredicate _ _ dst) (by simp [hnone])

/-- Different multicast trees have different display predicates, and so have
different destinations. Links aside, what a network shows under the predicate of
a tree is an edge of that tree, and what it shows under the predicate of a
destination are the paths to it. -/
theorem predicates_name_trees_and_destinations :
    (∀ group source otherGroup otherSource : Address,
      Multicast.predicate group source = Multicast.predicate otherGroup otherSource →
        group = otherGroup ∧ source = otherSource) ∧
    (∀ dst other : Address, Selection.predicate dst = Selection.predicate other → dst = other) ∧
    ∀ net : Network, ∀ relation ∈ net.relations.toList, relation.kind ≠ .link →
      (∀ group source, relation.predicate = Multicast.predicate group source →
        source ≠ .unspecified ∧
          net.TreeEdge group source relation.kind relation.left relation.right) ∧
      ∀ dst, relation.predicate = Selection.predicate dst ↔ relation.dst = some dst := by
  refine ⟨?_, ?_, ?_⟩
  · intro group source otherGroup otherSource heq
    exact Multicast.eq_and_eq_of_predicate_eq heq
  · intro dst other heq
    exact Selection.eq_of_predicate_eq heq
  · intro net relation hmem hkind
    have hnamed := named_of_mem_relationsOf (mem_relations_iff.mp hmem)
    exact ⟨fun group source hpredicate => hnamed.treeEdge hkind hpredicate,
      fun dst => hnamed.predicate_eq_iff hkind⟩

/-! ## The stream of the sample network -/

namespace Stream

def group : Address := Sample.ip 226 1 1 1

def camera : Address := Sample.ip 10 0 0 9

def host : Address := Sample.ip 10 0 2 5

def network : Network := Sample.multicastTree.network []

theorem exists_edge : ∃ relation ∈ network.multicastRelations.toList,
    relation.kind = .multicastUpstream ∧
      relation.predicate = Multicast.predicate group camera := by
  decide +kernel

theorem exists_path : ∃ relation ∈ network.selectionRelations.toList,
    relation.kind = .selection ∧ relation.predicate = Selection.predicate host := by
  decide +kernel

/-- The predicates of the stream are read back, and so is what an edge of its tree
and a path to its receiver stand for. -/
theorem predicates_name_trees_and_destinations_stream :
    (Multicast.predicate ⟨0xE2010101⟩ ⟨0x0A000009⟩ = Multicast.predicate group camera ∧
      ⟨0xE2010101⟩ = group ∧ ⟨0x0A000009⟩ = camera) ∧
    (Selection.predicate ⟨0x0A000205⟩ = Selection.predicate host ∧ ⟨0x0A000205⟩ = host) ∧
    (∃ edge ∈ network.relations.toList, edge.kind ≠ .link ∧
      edge.predicate = Multicast.predicate group camera ∧
        network.TreeEdge group camera edge.kind edge.left edge.right) ∧
    ∃ path ∈ network.relations.toList, path.kind ≠ .link ∧
      path.predicate = Selection.predicate host ∧ path.dst = some host := by
  obtain ⟨htrees, hdestinations, hnetwork⟩ := predicates_name_trees_and_destinations
  have hstream : Multicast.predicate ⟨0xE2010101⟩ ⟨0x0A000009⟩ =
      Multicast.predicate group camera := by decide +kernel
  have hreceiver : Selection.predicate ⟨0x0A000205⟩ = Selection.predicate host := by
    decide +kernel
  obtain ⟨edge, hedge, hedgeKind, hedgeText⟩ := exists_edge
  obtain ⟨path, hpath, hpathKind, hpathText⟩ := exists_path
  have hedgeMem : edge ∈ network.relations.toList := by
    rw [mem_relations_iff, hedgeKind]
    exact hedge
  have hpathMem : path ∈ network.relations.toList := by
    rw [mem_relations_iff, hpathKind]
    exact hpath
  have hedgeLink : edge.kind ≠ .link := by
    rw [hedgeKind]
    decide
  have hpathLink : path.kind ≠ .link := by
    rw [hpathKind]
    decide
  obtain ⟨htree, -⟩ := hnetwork network edge hedgeMem hedgeLink
  obtain ⟨-, hdst⟩ := hnetwork network path hpathMem hpathLink
  exact ⟨⟨hstream, htrees _ _ _ _ hstream⟩, ⟨hreceiver, hdestinations _ _ hreceiver⟩,
    ⟨edge, hedgeMem, hedgeLink, hedgeText, (htree _ _ hedgeText).2⟩,
    ⟨path, hpathMem, hpathLink, hpathText, (hdst host).mp hpathText⟩⟩

end Stream

end Network

end NetTopology
