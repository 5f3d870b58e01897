/-
# Multicast trees

Each pair of a group and a source has a tree of its own, with its own display
predicate. Its edges come from three places: the neighbour that a device
receives the traffic from, the members that reported to a device on the tree,
and the next hops of the device that owns the source address. The edges of a
tree are never merged with their reverse. Entries of traffic that the device
originates itself are left out.

Reported memberships are drawn once more, outside any tree.
-/

import NetTopology.Quantity
import NetTopology.Relation.Set
import NetTopology.Owner

namespace NetTopology

namespace Multicast

/-- The display predicate of the tree of `group` from `source`. -/
def predicate (group source : Address) : String :=
  "options." ++ group.toText ++ "_from_" ++ source.toText

def membershipPredicate : String := "options.igmp"

/-- An age for a label. -/
def ageText (seconds : Float) : String :=
  Quantity.duration seconds ++ " old"

/-- The texts of an upstream edge: age, protocol and packets of the entry. -/
def upstreamTexts (route : MulticastRoute) : List String :=
  [(route.uptime.map ageText).getD "",
    route.protocol.getD "",
    (route.packets.map fun packets => Quantity.counter packets ++ "pkt").getD ""]

/-- The edge from the neighbour the traffic comes from. -/
def upstreamRelation (route : MulticastRoute) (upstream device : Address) : Relation where
  kind := .multicastUpstream
  left := upstream
  right := device
  predicate := predicate route.group route.source
  style := .directed
  middleLabels := Relation.Label.positional (upstreamTexts route)

/-- The label for the age of a membership, if it is known. -/
def ageLabels (membership : Membership) : List Relation.Label :=
  membership.age.toList.map fun age => .small (ageText age) 1

/-- The edge towards a member. -/
def downstreamRelation (route : MulticastRoute) (membership : Membership)
    (device reporter : Address) : Relation where
  kind := .multicastDownstream
  left := device
  right := reporter
  predicate := predicate route.group route.source
  style := .directed
  middleLabels := ageLabels membership ++ [.small "igmp" 2]

/-- The edge from the device of the source to one of its next hops. -/
def gatewayRelation (route : MulticastRoute) (origin gateway : Address) : Relation where
  kind := .multicastGateway
  left := origin
  right := gateway
  predicate := predicate route.group route.source
  style := .directed
  middleLabels := [.small "gateway" 2]

/-- The line of a reported membership. -/
def membershipRelation (membership : Membership) (device reporter : Address) : Relation where
  kind := .igmp
  left := device
  right := reporter
  predicate := membershipPredicate
  style := .directed
  middleLabels := ageLabels membership ++ [.small membership.group.toText 2]

end Multicast

/-- The multicast entries of a device whose traffic comes from elsewhere. -/
def Device.treeEntries (device : Device) : List MulticastRoute :=
  device.mroutes.filter fun route => !route.isLocal

namespace Network

variable (net : Network)

/-- The device that reported a membership to `device`. -/
def reporterIp? (device : Device) (membership : Membership) : Option Address :=
  net.ownerIp? device.adminIp membership.reporter .hostMask

/-- The edge from the neighbour that the traffic of an entry comes from. -/
def upstreamEdges (device : Device) (route : MulticastRoute) : List Relation :=
  (net.ownerIp? device.adminIp route.upstream .hostMask).toList.map fun upstream =>
    Multicast.upstreamRelation route upstream device.adminIp

/-- The edges towards the members of the group of an entry. -/
def downstreamEdges (device : Device) (route : MulticastRoute) : List Relation :=
  (device.igmps.filter fun membership => membership.group == route.group).filterMap
    fun membership => (net.reporterIp? device membership).map fun reporter =>
      Multicast.downstreamRelation route membership device.adminIp reporter

/-- The first device that answered and owns an address. -/
def originOf? (source : Address) : Option Device :=
  net.polledDevices.find? fun device => device.ownsIp source

/-- The owners of the next hops of a device. -/
def gatewaysOf (origin : Device) : List Address :=
  (origin.routes.filter fun route => !route.isAttached).filterMap fun route =>
    net.ownerIp? origin.adminIp route.viaIp .hostMask

/-- The edges from the device of the source to its next hops. -/
def gatewayEdges (route : MulticastRoute) : List Relation :=
  match net.originOf? route.source with
  | none => []
  | some origin =>
    (net.gatewaysOf origin).map fun gateway =>
      Multicast.gatewayRelation route origin.adminIp gateway

def multicastRelations : RelationSet :=
  .ofList <| net.polledDevices.flatMap fun device => device.treeEntries.flatMap fun route =>
    net.upstreamEdges device route ++ net.downstreamEdges device route ++ net.gatewayEdges route

def membershipRelations : RelationSet :=
  .ofList <| net.polledDevices.flatMap fun device => device.igmps.filterMap fun membership =>
    (net.reporterIp? device membership).map fun reporter =>
      Multicast.membershipRelation membership device.adminIp reporter

end Network

end NetTopology
