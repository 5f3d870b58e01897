/-
# Selected paths follow the next hops

A selection relation is drawn from the last route that selects its path, and
that route decides its colour. A blue one comes from a route whose next hop is
known: the route names the device it selects as its next hop, or leads to that
device directly. In both cases the source forwards to it, so a next-hop relation
shows the same step, and a walk along blue relations stays on the next-hop edges
of the graph.
-/

import NetTopology.Proofs.NextHop
import NetTopology.Samples

namespace NetTopology

theorem ResolvedRoute.hasUnmodeledVia_eq (resolved : ResolvedRoute) :
    resolved.hasUnmodeledVia = (!resolved.isDirect && resolved.viaIp?.isNone) := by
  rw [hasUnmodeledVia, viaIp?, Option.isNone_map]

namespace Selection

theorem color_relation_eq_blue_iff {path : Arc Address} {resolved : ResolvedRoute} :
    (relation path resolved).style.color = some .blue ↔ resolved.hasUnmodeledVia = false := by
  rw [relation]
  cases resolved.hasUnmodeledVia <;> simp

end Selection

namespace Network

variable {net : Network}

theorem mem_selections_iff {path : Arc Address} {resolved : ResolvedRoute} :
    (path, resolved) ∈ net.selections ↔
      resolved ∈ net.resolvedRoutes ∧ path.left = resolved.src ∧
        (path.right, path.tag) ∈ net.selectedBy resolved := by
  rw [selections, List.mem_flatMap]
  constructor
  · rintro ⟨found, hfound, hpaths⟩
    obtain ⟨⟨via, dst⟩, hselected, hpair⟩ := List.mem_map.mp hpaths
    obtain ⟨rfl, rfl⟩ := Prod.mk.inj hpair
    exact ⟨hfound, rfl, hselected⟩
  · rintro ⟨hresolved, hsrc, hselected⟩
    refine ⟨resolved, hresolved, List.mem_map.mpr ⟨(path.right, path.tag), hselected, ?_⟩⟩
    rw [← hsrc]

/-- What a route selects depends on the name of its device, on where it leads
and on the links of the catalog. -/
theorem selectedBy_congr {first second : Network} {one other : ResolvedRoute}
    (hcatalog : first.catalog = second.catalog) (hname : one.device.name = other.device.name)
    (hroute : one.route = other.route) (hdirect : one.isDirect = other.isDirect)
    (hvia : one.viaIp? = other.viaIp?) (hdestinations : one.destinations = other.destinations) :
    first.selectedBy one = second.selectedBy other := by
  have hunmodeled : one.hasUnmodeledVia = other.hasUnmodeledVia := by
    rw [ResolvedRoute.hasUnmodeledVia_eq, ResolvedRoute.hasUnmodeledVia_eq, hdirect, hvia]
  rw [selectedBy, selectedBy, linkedDestinations, linkedDestinations, hcatalog, hname, hroute,
    hunmodeled, hvia, hdestinations]

/-- The routes that select a path are routes of the device it starts at. -/
theorem filter_selections (net : Network) (path : Arc Address) :
    (net.selections.filter fun write => write.1 = path) =
      (net.resolvedRoutes.filter fun resolved => resolved.src == path.left).flatMap
        fun resolved => ((net.selectedBy resolved).filter fun hop =>
          (⟨path.left, hop.1, hop.2⟩ : Arc Address) = path).map fun _ => (path, resolved) := by
  rw [selections]
  induction net.resolvedRoutes with
  | nil => rfl
  | cons resolved later ih =>
      rw [List.flatMap_cons, List.filter_append, ih, List.filter_map, List.filter_cons]
      by_cases hsrc : resolved.src = path.left
      · rw [if_pos (beq_iff_eq.mpr hsrc), List.flatMap_cons, ← hsrc]
        congr 1
        apply List.map_congr_left
        intro hop hhop
        have hpath := of_decide_eq_true (List.mem_filter.mp hhop).2
        exact Prod.ext hpath rfl
      · rw [if_neg (by simpa using hsrc), List.append_left_eq_self, List.map_eq_nil_iff,
          List.filter_eq_nil_iff]
        intro hop _ hpath
        exact hsrc (congrArg Arc.left (of_decide_eq_true hpath))

/-- A path has a key of its own. -/
theorem nodup_keys_selections (net : Network) :
    (((lastWrites net.selections).toList.map fun (path, resolved) =>
      Selection.relation path resolved).map Relation.key).Nodup := by
  rw [List.map_map, List.Nodup, List.pairwise_map]
  refine Std.ExtTreeMap.distinct_keys_toList.imp ?_
  rintro ⟨path, _⟩ ⟨other, _⟩ hdistinct hkey
  apply hdistinct
  obtain ⟨-, hleft, hright, htag, -⟩ := Relation.Key.mk.inj hkey
  have hsame : path = other := Arc.eq_of_ends_eq hleft hright (Option.some.inj htag)
  rw [hsame, Std.ReflOrd.compare_self]

/-- The selection relations are the selected paths, each drawn from the last
route that selects it. -/
theorem mem_selectionRelations_iff {relation : Relation} :
    relation ∈ net.selectionRelations.toList ↔
      ∃ path resolved, lastWriteTo path net.selections = some resolved ∧
        Selection.relation path resolved = relation := by
  rw [selectionRelations, RelationSet.mem_toList_ofList_iff (nodup_keys_selections net),
    List.mem_map]
  simp only [Prod.exists, Std.ExtTreeMap.mem_toList_iff_getElem?_eq_some, getElem?_lastWrites]

/-- The selection relations of the whole set are those of the routing tables. -/
theorem mem_relations_selection_iff {relation : Relation} (hkind : relation.kind = .selection) :
    relation ∈ net.relations.toList ↔ relation ∈ net.selectionRelations.toList := by
  rw [mem_relations_iff, hkind]
  rfl

/-! ## Blue steps -/

/-- A route with a known next hop forwards to every device that it selects. -/
theorem forwards_of_mem_selections {path : Arc Address} {resolved : ResolvedRoute}
    (hmem : (path, resolved) ∈ net.selections) (hknown : resolved.hasUnmodeledVia = false) :
    net.Forwards path.left path.right := by
  obtain ⟨hresolved, hsrc, hselected⟩ := mem_selections_iff.mp hmem
  obtain ⟨device, hdevice, route, hroute, rfl⟩ := mem_resolvedRoutes_iff.mp hresolved
  rw [selectedBy, hknown] at hselected
  rw [show path.left = device.adminIp from hsrc]
  cases hvia : (net.resolve device route).viaIp? with
  | some via =>
      rw [hvia] at hselected
      obtain ⟨dst, -, hpair⟩ := List.mem_map.mp hselected
      obtain rfl : via = path.right := (Prod.mk.inj hpair).1
      exact ⟨(ne_adminIp_of_viaIp?_eq_some hdevice hvia).symm, device, hdevice, rfl, route, hroute,
        Or.inl hvia⟩
  | none =>
      rw [hvia] at hselected
      obtain ⟨dst, hdst, hpair⟩ := List.mem_map.mp hselected
      obtain rfl : dst = path.right := (Prod.mk.inj hpair).1
      exact ⟨(ne_observer_of_mem_devicesIn hdevice hdst).symm, device, hdevice, rfl, route, hroute,
        Or.inr ⟨hvia, hdst⟩⟩

theorem forwards_of_blue {relation : Relation} (hmem : relation ∈ net.relations.toList)
    (hkind : relation.kind = .selection) (hblue : relation.style.color = some .blue) :
    net.Forwards relation.left relation.right := by
  obtain ⟨path, resolved, hlast, rfl⟩ :=
    mem_selectionRelations_iff.mp ((mem_relations_selection_iff hkind).mp hmem)
  exact forwards_of_mem_selections (mem_of_lastWriteTo_eq_some hlast)
    (Selection.color_relation_eq_blue_iff.mp hblue)

/-- A forwarding direction is shown by its own arrow, or by the line of its pair. -/
theorem Forwards.exists_nextHop {a b : Address} (hforward : net.Forwards a b) :
    ∃ hop ∈ net.relations.toList, hop.kind = .nextHop ∧
      (hop.left = a ∧ hop.right = b ∧
          (hop.style.direction = .directed ∨ hop.style.direction = .bidirectional) ∨
        hop.left = b ∧ hop.right = a ∧ hop.style.direction = .bidirectional) := by
  have hwhole {left right : Address} {style : Relation.Style}
      (hmem : NextHop.line left right style ∈ net.nextHopRelations.toList) :
      NextHop.line left right style ∈ net.relations.toList :=
    (mem_relations_nextHop_iff rfl).mpr hmem
  by_cases hback : net.Forwards b a
  · rcases Address.lt_or_lt_of_ne hforward.1 with hlt | hgt
    · exact ⟨_, hwhole (mem_nextHopRelations_iff.mpr ⟨a, b, hforward, Or.inl ⟨hback, hlt, rfl⟩⟩),
        rfl, Or.inl ⟨rfl, rfl, Or.inr rfl⟩⟩
    · exact ⟨_, hwhole (mem_nextHopRelations_iff.mpr ⟨b, a, hback, Or.inl ⟨hforward, hgt, rfl⟩⟩),
        rfl, Or.inr ⟨rfl, rfl, rfl⟩⟩
  · exact ⟨_, hwhole (mem_nextHopRelations_iff.mpr ⟨a, b, hforward, Or.inr ⟨hback, rfl⟩⟩),
      rfl, Or.inl ⟨rfl, rfl, Or.inl rfl⟩⟩

/-- A blue selection relation leads from `a` to `b`. -/
def SelectsHop (net : Network) (a b : Address) : Prop :=
  ∃ relation ∈ net.relations.toList, relation.kind = .selection ∧
    relation.style.color = some .blue ∧ relation.left = a ∧ relation.right = b

theorem selectsHop_iff {a b : Address} :
    (∃ relation ∈ net.selectionRelations.toList,
      relation.style.color = some .blue ∧ relation.left = a ∧ relation.right = b) ↔
        net.SelectsHop a b := by
  constructor
  · rintro ⟨relation, hmem, hblue, hends⟩
    have hkind : relation.kind = .selection := by
      obtain ⟨_, _, -, rfl⟩ := mem_selectionRelations_iff.mp hmem
      rfl
    exact ⟨relation, (mem_relations_selection_iff hkind).mpr hmem, hkind, hblue, hends⟩
  · rintro ⟨relation, hmem, hkind, hblue, hends⟩
    exact ⟨relation, (mem_relations_selection_iff hkind).mp hmem, hblue, hends⟩

instance (net : Network) (a b : Address) : Decidable (net.SelectsHop a b) :=
  decidable_of_iff _ selectsHop_iff

/-- Every blue selection relation has a next-hop relation for its step: from the
source to the selected device, or a line in both directions between them. A
walk along blue selection relations is a walk along next-hop edges of the graph. -/
theorem blueSelections_follow_nextHops (net : Network) (thresholds : Thresholds) :
    (∀ relation ∈ net.relations.toList, relation.kind = .selection →
      relation.style.color = some .blue →
        ∃ hop ∈ net.relations.toList, hop.kind = .nextHop ∧
          (hop.left = relation.left ∧ hop.right = relation.right ∧
              (hop.style.direction = .directed ∨ hop.style.direction = .bidirectional) ∨
            hop.left = relation.right ∧ hop.right = relation.left ∧
              hop.style.direction = .bidirectional)) ∧
    ∀ path : List Address, path.IsChain net.SelectsHop →
      path.IsChain fun a b => (⟨a, b, .nextHop⟩ : Edge) ∈ (net.snapshot thresholds).graph.edges := by
  constructor
  · intro relation hmem hkind hblue
    exact (forwards_of_blue hmem hkind hblue).exists_nextHop
  · intro path hpath
    apply hpath.imp
    rintro a b ⟨relation, hmem, hkind, hblue, rfl, rfl⟩
    rw [← List.count_pos_iff,
      (count_graph_nextHop net thresholds _ _).1 (forwards_of_blue hmem hkind hblue)]
    exact Nat.one_pos

/-- The host of the triangle reaches the first router over the third one. -/
theorem blueSelections_follow_nextHops_triangle :
    ([Sample.ip 10 3 0 10, Sample.ip 10 0 3 3, Sample.ip 10 0 1 1] : List Address).IsChain
        (Sample.routedTriangle.network []).SelectsHop ∧
      ([Sample.ip 10 3 0 10, Sample.ip 10 0 3 3, Sample.ip 10 0 1 1] : List Address).IsChain
        fun a b => (⟨a, b, .nextHop⟩ : Edge) ∈
          ((Sample.routedTriangle.network []).snapshot {}).graph.edges := by
  have hpath : ([Sample.ip 10 3 0 10, Sample.ip 10 0 3 3, Sample.ip 10 0 1 1] : List Address).IsChain
      (Sample.routedTriangle.network []).SelectsHop := by decide +kernel
  exact ⟨hpath, (blueSelections_follow_nextHops (Sample.routedTriangle.network []) {}).2 _ hpath⟩

end Network

end NetTopology
