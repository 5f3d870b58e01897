/-
# Which routes select a path, and which one draws it

A route selects a path in one of four ways, by whether its next hop is known,
whether it leads to its own device, and what the catalog links that device to.
A path is drawn exactly when some route of the device it starts at selects it,
and the last such route of the table gives the labels and the colour: dark
violet when nobody owns its next hop, blue in every other case.
-/

import NetTopology.Proofs.Selection

namespace NetTopology

/-- The route has no next hop, or its next hop is an address of the device. -/
def Device.LeadsToSelf (device : Device) (route : Route) : Prop :=
  route.viaIp = .unspecified ∨
    ∃ interface ∈ device.interfaces, interface.ip = some route.viaIp

theorem Device.isDirect_iff {device : Device} {route : Route} :
    device.isDirect route ↔ device.LeadsToSelf route := by
  rw [isDirect, Route.isAttached, Bool.or_eq_true, beq_iff_eq, ownsIp_iff, LeadsToSelf]

namespace Network

section

variable (net : Network) (device : Device) (route : Route)

/-- The ways in which a route of a device selects the first address as the next
hop towards the second one. -/
inductive Selects : Address → Address → Prop
  /-- The next hop is a known device, and the destination lies behind it. -/
  | known {via dst : Address} (hvia : (net.resolve device route).viaIp? = some via)
      (hdst : dst ∈ (net.resolve device route).destinations) (hbehind : dst ≠ via) :
      Selects via dst
  /-- Nobody owns the next hop, and the only linked device stands for it. -/
  | onlyLink {via dst : Address} (hforeign : ¬ device.LeadsToSelf route)
      (hunknown : (net.resolve device route).viaIp? = none)
      (hlinks : net.catalog.linkedAdminIps device.name = [via])
      (hdst : dst ∈ (net.resolve device route).destinations) (hbehind : dst ≠ via) :
      Selects via dst
  /-- Nobody owns the next hop, there is not just one linked device, and this one
  lies in the destination subnet. -/
  | someLink {dst : Address} (hforeign : ¬ device.LeadsToSelf route)
      (hunknown : (net.resolve device route).viaIp? = none)
      (hlinks : (net.catalog.linkedAdminIps device.name).length ≠ 1)
      (hlinked : dst ∈ net.catalog.linkedAdminIps device.name)
      (hinside : dst.sameSubnet route.dstSubnet route.dstMask) :
      Selects dst dst
  /-- The route leads to its device, so the destination is reached directly. -/
  | direct {dst : Address} (hself : device.LeadsToSelf route)
      (hdst : dst ∈ (net.resolve device route).destinations) :
      Selects dst dst

/-- A route selects the path, and no later one of the table does. -/
def SelectsLast (via dst : Address) : Prop :=
  ∃ earlier later, device.routes = earlier ++ route :: later ∧ net.Selects device route via dst ∧
    ∀ other ∈ later, ¬ net.Selects device other via dst

end

variable {net : Network} {device : Device} {route : Route}

theorem SelectsLast.mem_routes {via dst : Address} (hlast : net.SelectsLast device route via dst) :
    route ∈ device.routes := by
  obtain ⟨earlier, later, htable, -, -⟩ := hlast
  rw [htable]
  exact List.mem_append_right earlier List.mem_cons_self

theorem SelectsLast.selects {via dst : Address} (hlast : net.SelectsLast device route via dst) :
    net.Selects device route via dst := by
  obtain ⟨-, -, -, hselects, -⟩ := hlast
  exact hselects

/-- A next hop has an owner only if the route leads to another device. -/
theorem viaIp?_eq_none_of_leadsToSelf (hself : device.LeadsToSelf route) :
    (net.resolve device route).viaIp? = none := by
  rw [viaIp?_resolve, if_pos (Device.isDirect_iff.mpr hself)]

theorem hasUnmodeledVia_resolve_iff :
    (net.resolve device route).hasUnmodeledVia ↔
      ¬ device.LeadsToSelf route ∧ (net.resolve device route).viaIp? = none := by
  rw [ResolvedRoute.hasUnmodeledVia_eq, Bool.and_eq_true, Option.isNone_iff_eq_none,
    ← Device.isDirect_iff, Bool.not_eq_true']
  exact and_congr_left fun _ => (Bool.not_eq_true _).symm.to_iff

theorem mem_linkedDestinations_iff {link : Address} :
    link ∈ net.linkedDestinations (net.resolve device route) ↔
      link ∈ net.catalog.linkedAdminIps device.name ∧
        link.sameSubnet route.dstSubnet route.dstMask :=
  List.mem_filter

/-! ## The four ways -/

section

variable {hop dst : Address} {destinations : List Address}

/-- A next hop is selected for all destinations but itself. -/
theorem mem_over_iff {via : Address} :
    (hop, dst) ∈ (destinations.filter fun dst => dst != via).map (fun dst => (via, dst)) ↔
      hop = via ∧ dst ∈ destinations ∧ dst ≠ via := by
  simp only [List.mem_map, List.mem_filter, bne_iff_ne, Prod.mk.injEq]
  constructor
  · rintro ⟨other, hother, rfl, rfl⟩
    exact ⟨rfl, hother⟩
  · rintro ⟨rfl, hdst⟩
    exact ⟨dst, hdst, rfl, rfl⟩

/-- A destination that is reached directly is its own next hop. -/
theorem mem_directly_iff :
    (hop, dst) ∈ destinations.map (fun dst => (dst, dst)) ↔ hop = dst ∧ dst ∈ destinations := by
  simp only [List.mem_map, Prod.mk.injEq]
  constructor
  · rintro ⟨other, hother, rfl, rfl⟩
    exact ⟨rfl, hother⟩
  · rintro ⟨rfl, hdst⟩
    exact ⟨hop, hdst, rfl, rfl⟩

end

/-- A route over a known device selects that device. -/
theorem selectedBy_of_known {via : Address}
    (hvia : (net.resolve device route).viaIp? = some via) :
    net.selectedBy (net.resolve device route) =
      ((net.resolve device route).destinations.filter fun dst => dst != via).map
        fun dst => (via, dst) := by
  rw [selectedBy, hvia]

/-- A route that leads to its device selects each destination directly. -/
theorem selectedBy_of_leadsToSelf (hself : device.LeadsToSelf route) :
    net.selectedBy (net.resolve device route) =
      (net.resolve device route).destinations.map fun dst => (dst, dst) := by
  have hmodeled : (net.resolve device route).hasUnmodeledVia = false := by
    rw [← Bool.not_eq_true, hasUnmodeledVia_resolve_iff]
    exact fun hunmodeled => hunmodeled.1 hself
  rw [selectedBy, viaIp?_eq_none_of_leadsToSelf hself, hmodeled]
  rfl

section

variable (hforeign : ¬ device.LeadsToSelf route)
  (hunknown : (net.resolve device route).viaIp? = none)

include hforeign hunknown

/-- Of a next hop that nobody owns, the only linked device takes the place. -/
theorem selectedBy_of_onlyLink {link : Address}
    (hlinks : net.catalog.linkedAdminIps device.name = [link]) :
    net.selectedBy (net.resolve device route) =
      ((net.resolve device route).destinations.filter fun dst => dst != link).map
        fun dst => (link, dst) := by
  have hname : (net.resolve device route).device.name = device.name := rfl
  rw [selectedBy, hunknown, hasUnmodeledVia_resolve_iff.mpr ⟨hforeign, hunknown⟩, hname, hlinks]
  rfl

/-- Of several linked devices, or of none, those in the destination subnet count. -/
theorem selectedBy_of_someLink
    (hlinks : (net.catalog.linkedAdminIps device.name).length ≠ 1) :
    net.selectedBy (net.resolve device route) =
      (net.linkedDestinations (net.resolve device route)).map fun link => (link, link) := by
  have hname : (net.resolve device route).device.name = device.name := rfl
  rw [selectedBy, hunknown, hasUnmodeledVia_resolve_iff.mpr ⟨hforeign, hunknown⟩, hname]
  split
  · rename_i hsome
    cases hsome
  · rw [if_pos rfl]
    split
    · rename_i hone
      rw [hone] at hlinks
      exact absurd rfl hlinks
    · rfl

end

theorem mem_selectedBy_iff {via dst : Address} :
    (via, dst) ∈ net.selectedBy (net.resolve device route) ↔ net.Selects device route via dst := by
  constructor
  · intro hmem
    cases hvia : (net.resolve device route).viaIp? with
    | some known =>
        rw [selectedBy_of_known hvia, mem_over_iff] at hmem
        obtain ⟨rfl, hdst, hbehind⟩ := hmem
        exact .known hvia hdst hbehind
    | none =>
        by_cases hself : device.LeadsToSelf route
        · rw [selectedBy_of_leadsToSelf hself, mem_directly_iff] at hmem
          obtain ⟨rfl, hdst⟩ := hmem
          exact .direct hself hdst
        · by_cases hlinks : (net.catalog.linkedAdminIps device.name).length = 1
          · obtain ⟨link, hlink⟩ := List.length_eq_one_iff.mp hlinks
            rw [selectedBy_of_onlyLink hself hvia hlink, mem_over_iff] at hmem
            obtain ⟨rfl, hdst, hbehind⟩ := hmem
            exact .onlyLink hself hvia hlink hdst hbehind
          · rw [selectedBy_of_someLink hself hvia hlinks, mem_directly_iff,
              mem_linkedDestinations_iff] at hmem
            obtain ⟨rfl, hlinked, hinside⟩ := hmem
            exact .someLink hself hvia hlinks hlinked hinside
  · intro hselects
    cases hselects with
    | known hvia hdst hbehind =>
        rw [selectedBy_of_known hvia, mem_over_iff]
        exact ⟨rfl, hdst, hbehind⟩
    | onlyLink hforeign hunknown hlinks hdst hbehind =>
        rw [selectedBy_of_onlyLink hforeign hunknown hlinks, mem_over_iff]
        exact ⟨rfl, hdst, hbehind⟩
    | someLink hforeign hunknown hlinks hlinked hinside =>
        rw [selectedBy_of_someLink hforeign hunknown hlinks, mem_directly_iff,
          mem_linkedDestinations_iff]
        exact ⟨rfl, hlinked, hinside⟩
    | direct hself hdst =>
        rw [selectedBy_of_leadsToSelf hself, mem_directly_iff]
        exact ⟨rfl, hdst⟩

/-! ## The last route that selects a path -/

/-- What a route writes for a path: itself, once for each time it selects the path. -/
theorem getLast?_map_filter_selectedBy (net : Network) (path : Arc Address)
    (resolved : ResolvedRoute) :
    (((net.selectedBy resolved).filter fun hop =>
        (⟨path.left, hop.1, hop.2⟩ : Arc Address) = path).map fun _ => (path, resolved)).getLast? =
      if (path.right, path.tag) ∈ net.selectedBy resolved then some (path, resolved) else none := by
  have hsame (hop : Address × Address) :
      (⟨path.left, hop.1, hop.2⟩ : Arc Address) = path ↔ hop = (path.right, path.tag) := by
    constructor
    · intro heq
      rw [← heq]
    · rintro rfl
      rfl
  simp only [hsame]
  rw [List.getLast?_map]
  split
  · rename_i hmem
    have hfound : (path.right, path.tag) ∈
        (net.selectedBy resolved).filter fun hop => hop = (path.right, path.tag) :=
      List.mem_filter.mpr ⟨hmem, decide_eq_true rfl⟩
    rw [List.getLast?_eq_some_getLast (List.ne_nil_of_mem hfound), Option.map_some]
  · rename_i hnot
    rw [List.filter_eq_nil_iff.mpr ?_]
    · rfl
    · intro hop hhop heq
      obtain rfl := of_decide_eq_true heq
      exact hnot hhop

/-- The route that draws a path is looked for from the end of the table of the
device that the path starts at. -/
theorem lastWriteTo_selections (net : Network) (path : Arc Address) :
    lastWriteTo path net.selections =
      (net.polledDevices.find? fun device => device.adminIp == path.left).elim none fun device =>
        device.routes.reverse.findSome? fun route =>
          if (path.right, path.tag) ∈ net.selectedBy (net.resolve device route) then
            some (net.resolve device route)
          else none := by
  rw [lastWriteTo_eq_getLast?, filter_selections, filter_src_resolvedRoutes]
  cases net.polledDevices.find? fun device => device.adminIp == path.left with
  | none => rfl
  | some device =>
      rw [Option.elim_some, Option.elim_some, List.flatMap_map, List.getLast?_flatMap,
        List.map_findSome?]
      congr 1
      funext route
      rw [Function.comp_apply, getLast?_map_filter_selectedBy]
      split <;> rfl

/-- The last route of a table that selects a path, found from the end. -/
theorem findSome?_reverse_routes_eq_some_iff {via dst : Address} {resolved : ResolvedRoute} :
    (device.routes.reverse.findSome? fun route =>
        if (via, dst) ∈ net.selectedBy (net.resolve device route) then
          some (net.resolve device route)
        else none) = some resolved ↔
      ∃ route, net.SelectsLast device route via dst ∧ net.resolve device route = resolved := by
  rw [findSome?_reverse_ite_eq_some_iff]
  simp only [mem_selectedBy_iff]
  rfl

/-- A path is drawn from the last route that selects it, in the table of the
device that it starts at. -/
theorem lastWriteTo_selections_eq_some_iff {path : Arc Address} {resolved : ResolvedRoute} :
    lastWriteTo path net.selections = some resolved ↔
      ∃ device ∈ net.polledDevices, device.adminIp = path.left ∧
        ∃ route, net.SelectsLast device route path.right path.tag ∧
          net.resolve device route = resolved := by
  rw [lastWriteTo_selections]
  constructor
  · intro hfound
    cases hfind : net.polledDevices.find? fun device => device.adminIp == path.left with
    | none =>
        rw [hfind] at hfound
        cases hfound
    | some device =>
        obtain ⟨hdevice, hip⟩ := find?_polledDevices_eq_some_iff.mp hfind
        rw [hfind, Option.elim_some, findSome?_reverse_routes_eq_some_iff] at hfound
        exact ⟨device, hdevice, hip, hfound⟩
  · rintro ⟨device, hdevice, hip, hlast⟩
    rw [find?_polledDevices_eq_some_iff.mpr ⟨hdevice, hip⟩, Option.elim_some,
      findSome?_reverse_routes_eq_some_iff]
    exact hlast

/-- When a route of a table selects a path, there is a last one that does. -/
theorem exists_selectsLast {via dst : Address} (hroute : route ∈ device.routes)
    (hselects : net.Selects device route via dst) :
    ∃ last, net.SelectsLast device last via dst :=
  exists_last_of_mem hroute hselects

/-! ## The relations -/

/-- The selection relations are the paths of each device, drawn from the last
route of its table that selects them. -/
theorem mem_selectionRelations_iff_exists_last {relation : Relation} :
    relation ∈ net.selectionRelations.toList ↔
      ∃ device ∈ net.polledDevices, ∃ route via dst, net.SelectsLast device route via dst ∧
        Selection.relation ⟨device.adminIp, via, dst⟩ (net.resolve device route) = relation := by
  rw [mem_selectionRelations_iff]
  constructor
  · rintro ⟨path, resolved, hlast, rfl⟩
    obtain ⟨device, hdevice, hip, route, hselects, rfl⟩ :=
      lastWriteTo_selections_eq_some_iff.mp hlast
    exact ⟨device, hdevice, route, path.right, path.tag, hselects, by rw [hip]⟩
  · rintro ⟨device, hdevice, route, via, dst, hselects, rfl⟩
    exact ⟨⟨device.adminIp, via, dst⟩, net.resolve device route,
      lastWriteTo_selections_eq_some_iff.mpr ⟨device, hdevice, rfl, route, hselects, rfl⟩, rfl⟩

theorem color_relation_eq_darkViolet_iff {path : Arc Address} :
    (Selection.relation path (net.resolve device route)).style.color = some .darkViolet ↔
      ¬ device.LeadsToSelf route ∧ (net.resolve device route).viaIp? = none := by
  rw [← hasUnmodeledVia_resolve_iff, Selection.relation]
  cases (net.resolve device route).hasUnmodeledVia <;> simp

/-- A selection relation leads from a device over a next hop to a destination
exactly when a route of the device selects that path. The last such route of its
table draws the relation: the labels are those of that route, and the colour is
dark violet when it leads to another device but nobody owns its next hop, and
blue in all other cases. -/
theorem selectionRelations_eq_lastSelecting (net : Network) :
    (∀ src via dst,
      (∃ relation ∈ net.selectionRelations.toList,
        relation.left = src ∧ relation.right = via ∧ relation.dst = some dst) ↔
      ∃ device ∈ net.polledDevices, device.adminIp = src ∧
        ∃ route ∈ device.routes, net.Selects device route via dst) ∧
    ∀ relation ∈ net.selectionRelations.toList,
      ∃ device ∈ net.polledDevices, ∃ route via dst, net.SelectsLast device route via dst ∧
        relation.key =
          { kind := .selection, left := device.adminIp, right := via, dst := some dst,
            predicate := Selection.predicate dst } ∧
        relation.leftLabels = Selection.leftLabels (net.resolve device route) ∧
        relation.middleLabels = Selection.middleLabels (net.resolve device route) ∧
        relation.rightLabels = Selection.rightLabels (net.resolve device route) ∧
        (relation.style.color = some .darkViolet ↔
          ¬ device.LeadsToSelf route ∧ (net.resolve device route).viaIp? = none) ∧
        (relation.style.color = some .blue ↔
          device.LeadsToSelf route ∨ (net.resolve device route).viaIp? ≠ none) := by
  constructor
  · intro src via dst
    constructor
    · rintro ⟨relation, hmem, hleft, hright, hdst⟩
      obtain ⟨device, hdevice, route, hop, destination, hlast, rfl⟩ :=
        mem_selectionRelations_iff_exists_last.mp hmem
      obtain rfl : hop = via := hright
      obtain rfl : destination = dst := Option.some.inj hdst
      exact ⟨device, hdevice, hleft, route, hlast.mem_routes, hlast.selects⟩
    · rintro ⟨device, hdevice, rfl, route, hroute, hselects⟩
      obtain ⟨last, hlast⟩ := exists_selectsLast hroute hselects
      exact ⟨_, mem_selectionRelations_iff_exists_last.mpr
        ⟨device, hdevice, last, via, dst, hlast, rfl⟩, rfl, rfl, rfl⟩
  · intro relation hmem
    obtain ⟨device, hdevice, route, via, dst, hlast, rfl⟩ :=
      mem_selectionRelations_iff_exists_last.mp hmem
    refine ⟨device, hdevice, route, via, dst, hlast, rfl, rfl, rfl, rfl,
      color_relation_eq_darkViolet_iff, ?_⟩
    have hmodeled : (net.resolve device route).hasUnmodeledVia = false ↔
        device.LeadsToSelf route ∨ (net.resolve device route).viaIp? ≠ none := by
      rw [← Bool.not_eq_true, hasUnmodeledVia_resolve_iff, not_and_or, not_not]
    exact Selection.color_relation_eq_blue_iff.trans hmodeled

end Network

end NetTopology
