/-
# What the right end of a selected path shows

The right end of a selection relation shows where the route that draws it goes:
the address of the next hop, or the destination subnet of a route that has none.
A route over one of the device's own addresses is direct like one without a next
hop, but what is shown only tells apart whether there is a next hop. Such a route
therefore puts an address of the left end at the right end, and no other route
does.
-/

import NetTopology.Proofs.Address.Text
import NetTopology.Proofs.Selection.Selecting

namespace NetTopology

namespace Selection

/-- The destination subnet of a route with its mask. -/
def subnetText (route : Route) : String :=
  route.dstSubnet.toText ++ "/" ++ route.dstMask.maskText

/-- The addresses at the right end, which stand on the third level. The name and
the hardware address of an interface are on the levels around it. -/
def hopTexts (relation : Relation) : List String :=
  (relation.rightLabels.filter fun label => label.level == 3).map Relation.Label.text

theorem hopTexts_relation (path : Arc Address) (resolved : ResolvedRoute) :
    hopTexts (relation path resolved) = [hopText resolved.route] := by
  have hname (interfaces : List Interface) :
      (interfaces.map fun interface => Relation.Label.smaller interface.name 2).filter
        (fun label => label.level == 3) = [] := by
    simp [List.filter_eq_nil_iff, Relation.Label.smaller]
  have hmac (macs : List String) :
      (macs.map fun mac => Relation.Label.smallest mac 4).filter
        (fun label => label.level == 3) = [] := by
    simp [List.filter_eq_nil_iff, Relation.Label.smallest]
  rw [hopTexts, relation, rightLabels, List.filter_append, List.filter_append, hname, hmac]
  rfl

theorem hopText_eq (route : Route) :
    hopText route =
      if route.viaIp = .unspecified then subnetText route else route.viaIp.toText := by
  rw [hopText, Route.isAttached]
  simp only [beq_iff_eq]
  rfl

/-- No address is written like a subnet, which has a slash in it. -/
theorem subnetText_ne_toText (route : Route) (ip : Address) : subnetText route ≠ ip.toText := by
  have hslash : '/' ∈ (subnetText route).toList := by
    rw [subnetText, String.toList_append, String.toList_append]
    exact List.mem_append_left _ (List.mem_append_right _ (by decide))
  exact Address.ne_toText_of_mem hslash (by decide) ip

end Selection

namespace Device

/-- The next hop of the route is an address of the device. -/
def RoutesOverItself (device : Device) (route : Route) : Prop :=
  route.viaIp ≠ .unspecified ∧ device.ownsIp route.viaIp

/-- The right end of the relation shows an address of the device. -/
def IsShownAtRight (device : Device) (relation : Relation) : Prop :=
  ∃ ip, device.ownsIp ip ∧ ip.toText ∈ Selection.hopTexts relation

variable {device : Device} {route : Route} {relation : Relation}

theorem isDirect_iff_or :
    device.isDirect route ↔ route.viaIp = .unspecified ∨ device.RoutesOverItself route := by
  rw [isDirect, Bool.or_eq_true, Route.isAttached, beq_iff_eq, RoutesOverItself]
  by_cases hvia : route.viaIp = .unspecified <;> simp [hvia]

section

variable (hshown : Selection.hopTexts relation =
  [if route.viaIp = .unspecified then Selection.subnetText route else route.viaIp.toText])

include hshown

/-- What is shown depends on whether the route is direct, except for a route over
one of the device's own addresses. -/
theorem hopTexts_eq_of_isDirect_iff :
    Selection.hopTexts relation =
        [if device.isDirect route then Selection.subnetText route else route.viaIp.toText] ↔
      ¬ device.RoutesOverItself route := by
  rw [hshown, List.singleton_inj]
  by_cases hitself : device.RoutesOverItself route
  · rw [if_neg hitself.1, if_pos (isDirect_iff_or.mpr (Or.inr hitself))]
    exact iff_of_false (Selection.subnetText_ne_toText route _).symm (not_not_intro hitself)
  · have hsame : device.isDirect route ↔ route.viaIp = .unspecified := by
      rw [isDirect_iff_or, or_iff_left hitself]
    exact iff_of_true (if_congr hsame rfl rfl).symm hitself

theorem isShownAtRight_iff : device.IsShownAtRight relation ↔ device.RoutesOverItself route := by
  rw [IsShownAtRight, hshown]
  simp only [List.mem_singleton]
  constructor
  · rintro ⟨ip, hown, htext⟩
    by_cases hvia : route.viaIp = .unspecified
    · rw [if_pos hvia] at htext
      exact absurd htext.symm (Selection.subnetText_ne_toText route ip)
    · rw [if_neg hvia] at htext
      obtain rfl := Address.toText_injective htext
      exact ⟨hvia, hown⟩
  · rintro ⟨hvia, hown⟩
    exact ⟨route.viaIp, hown, (if_neg hvia).symm⟩

end

end Device

namespace Network

/-- The relation of a path shows the next hop of the route that draws it, or its
destination subnet. -/
theorem hopTexts_relation_resolve (net : Network) (device : Device) (route : Route)
    (via dst : Address) :
    Selection.hopTexts
        (Selection.relation ⟨device.adminIp, via, dst⟩ (net.resolve device route)) =
      [if route.viaIp = .unspecified then Selection.subnetText route
        else route.viaIp.toText] := by
  rw [Selection.hopTexts_relation, Selection.hopText_eq]
  rfl

/-- The right end of a selection relation shows one address, that of the route
which draws it: the destination subnet with its mask if the route has no next
hop, and the next hop if it has one. Whether the route is direct decides what is
shown, and no address of the left end is shown, exactly when the route does not
go over one of its device's own addresses. -/
theorem selectionRelations_show_subnet_or_nextHop (net : Network) :
    (∀ relation ∈ net.selectionRelations.toList,
      ∃ device ∈ net.polledDevices, device.adminIp = relation.left ∧
        ∃ route dst, relation.dst = some dst ∧ net.SelectsLast device route relation.right dst ∧
          Selection.hopTexts relation =
            [if route.viaIp = .unspecified then Selection.subnetText route
              else route.viaIp.toText] ∧
          (Selection.hopTexts relation =
              [if device.isDirect route then Selection.subnetText route
                else route.viaIp.toText] ↔
            ¬ device.RoutesOverItself route) ∧
          (device.IsShownAtRight relation ↔ device.RoutesOverItself route)) ∧
    ((∀ relation ∈ net.selectionRelations.toList, ∀ device ∈ net.polledDevices,
        device.adminIp = relation.left → ¬ device.IsShownAtRight relation) ↔
      ∀ device ∈ net.polledDevices, ∀ route via dst, net.SelectsLast device route via dst →
        ¬ device.RoutesOverItself route) := by
  refine ⟨?_, ?_, ?_⟩
  · intro relation hmem
    obtain ⟨device, hdevice, route, via, dst, hlast, rfl⟩ :=
      mem_selectionRelations_iff_exists_last.mp hmem
    have hshown := net.hopTexts_relation_resolve device route via dst
    exact ⟨device, hdevice, rfl, route, dst, rfl, hlast, hshown,
      Device.hopTexts_eq_of_isDirect_iff hshown, Device.isShownAtRight_iff hshown⟩
  · intro hforeign device hdevice route via dst hlast
    have hmem := mem_selectionRelations_iff_exists_last.mpr
      ⟨device, hdevice, route, via, dst, hlast, rfl⟩
    rw [← Device.isShownAtRight_iff (net.hopTexts_relation_resolve device route via dst)]
    exact hforeign _ hmem device hdevice rfl
  · intro hforeign relation hmem device hdevice hleft
    obtain ⟨source, hsource, route, via, dst, hlast, rfl⟩ :=
      mem_selectionRelations_iff_exists_last.mp hmem
    obtain rfl : device = source := eq_of_adminIp_eq (mem_devices_of_mem_polledDevices hdevice)
      (mem_devices_of_mem_polledDevices hsource) hleft
    rw [Device.isShownAtRight_iff (net.hopTexts_relation_resolve device route via dst)]
    exact hforeign device hdevice route via dst hlast

/-! ## A router with a route over its own address -/

namespace OwnGateway

/-- A router that reaches its network over its own address there. -/
def router : Observation where
  interfaces := [{ index := "1", name := "eth0", ip := some (Sample.ip 10 1 0 1) }]
  routes :=
    [{ dstSubnet := Sample.ip 10 1 0 0, dstMask := Sample.ip 255 255 0 0,
       viaIp := Sample.ip 10 1 0 1, protocol := "local", ifindex := some "1" }]

/-- The router and a server in its network. -/
def network : Network where
  catalog := Sample.declare
    [("router", { ip := Sample.ip 10 0 0 1 }),
      ("server", { ip := Sample.ip 10 1 0 2, kind := .external })]
  observations := .ofList [("router", router)]

/-- The path to the server shows the router's own address at the end of the server. -/
theorem not_forall_shown_by_isDirect :
    ¬ ∀ (net : Network) (device : Device) (route : Route) (via dst : Address),
      device ∈ net.polledDevices → net.SelectsLast device route via dst →
        ∀ relation ∈ net.selectionRelations.toList, relation.left = device.adminIp →
          relation.right = via → relation.dst = some dst →
            Selection.hopTexts relation =
                [if device.isDirect route then Selection.subnetText route
                  else route.viaIp.toText] ∧
              ¬ device.IsShownAtRight relation := by
  intro hall
  have hdrawn : network.selectionRelations.toList ≠ [] := by decide +kernel
  have hown : ∀ device ∈ network.polledDevices, ∀ route ∈ device.routes,
      route.viaIp ≠ .unspecified ∧ device.ownsIp route.viaIp := by decide +kernel
  obtain ⟨relation, hmem⟩ := List.exists_mem_of_ne_nil _ hdrawn
  obtain ⟨device, hdevice, route, via, dst, hlast, rfl⟩ :=
    mem_selectionRelations_iff_exists_last.mp hmem
  have hforeign := (hall network device route via dst hdevice hlast _ hmem rfl rfl rfl).2
  rw [Device.isShownAtRight_iff (network.hopTexts_relation_resolve device route via dst)]
    at hforeign
  exact hforeign (hown device hdevice route hlast.mem_routes)

end OwnGateway

end Network

end NetTopology
