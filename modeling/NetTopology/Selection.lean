/-
# Selected paths

A selection relation tells over which next hop a device reaches a destination.
There are three sorts of routes. One with an owned next hop selects that device
for all destinations but itself. One that leads to the device itself selects
each destination directly. One whose next hop nobody owns falls back to the
links of the catalog: a single linked device stands for the next hop, and of
several ones those in the destination subnet are taken for destinations.

Several routes of a device may select the same path; the last one of its table
gives the labels and the colour.
-/

import NetTopology.LastWrite
import NetTopology.Relation.Pairing
import NetTopology.Relation.Set
import NetTopology.ResolvedRoute

namespace NetTopology

namespace Network

variable (net : Network)

/-- The linked devices that lie in the destination subnet of a route. -/
def linkedDestinations (resolved : ResolvedRoute) : List Address :=
  (net.catalog.linkedAdminIps resolved.device.name).filter fun link =>
    link.sameSubnet resolved.route.dstSubnet resolved.route.dstMask

/-- The next hops that a route selects, each with the destination. -/
def selectedBy (resolved : ResolvedRoute) : List (Address × Address) :=
  match resolved.viaIp? with
  | some via => (resolved.destinations.filter fun dst => dst != via).map fun dst => (via, dst)
  | none =>
    if resolved.hasUnmodeledVia then
      match net.catalog.linkedAdminIps resolved.device.name with
      | [link] =>
        (resolved.destinations.filter fun dst => dst != link).map fun dst => (link, dst)
      | _ => (net.linkedDestinations resolved).map fun link => (link, link)
    else resolved.destinations.map fun dst => (dst, dst)

/-- Whether a route has neither an owned next hop nor a declared link that explains it. -/
def isUnexplained (resolved : ResolvedRoute) : Bool :=
  resolved.hasUnmodeledVia &&
    (net.catalog.linkedAdminIps resolved.device.name).length != 1 &&
    (net.linkedDestinations resolved).isEmpty

/-- The paths that the routes select, in the order of devices and routes. The
destination is the tag of the arc from the source to the next hop. -/
def selections : List (Arc Address × ResolvedRoute) :=
  net.resolvedRoutes.flatMap fun resolved =>
    (net.selectedBy resolved).map fun (via, dst) => (⟨resolved.src, via, dst⟩, resolved)

/-- The routes that select nothing because nothing explains their next hop. -/
def selectionDiagnostics : List Diagnostic :=
  (net.resolvedRoutes.filter net.isUnexplained).map fun resolved =>
    .unreachable resolved.route.dstSubnet resolved.route.viaIp resolved.device.name

end Network

namespace Selection

/-- The display predicate of the paths towards one destination. -/
def predicate (dst : Address) : String :=
  "options.ospf options.routes or selection.name '" ++ dst.toText ++ "' ends_with and"

/-- The interface that the route leaves by. -/
def leftLabels (resolved : ResolvedRoute) : List Relation.Label :=
  match resolved.interface with
  | none => []
  | some interface =>
    .smaller interface.name 2 ::
      (interface.ip.toList.map fun ip => .smallest ip.toText 3) ++
      interface.macAddr.toList.map fun mac => .smallest mac 4

/-- The protocol and the cost, and a remark if the next hop is no known device. -/
def middleLabels (resolved : ResolvedRoute) : List Relation.Label :=
  .small (resolved.route.protocol ++ " cost " ++ toString resolved.route.metric.toInt) 1 ::
    if resolved.hasUnmodeledVia then [.small "via isn't modeled" 4] else []

/-- The address of the next hop, or the destination of a route that has none. -/
def hopText (route : Route) : String :=
  if route.isAttached then route.dstSubnet.toText ++ "/" ++ route.dstMask.maskText
  else route.viaIp.toText

/-- The interface of the next hop, and its address or the destination. -/
def rightLabels (resolved : ResolvedRoute) : List Relation.Label :=
  let interface := resolved.via.bind Owner.interface?
  (interface.toList.map fun interface => .smaller interface.name 2) ++
    [.smallest (hopText resolved.route) 3] ++
    ((interface.bind Interface.macAddr).toList.map fun mac => .smallest mac 4)

/-- The relation of a path, drawn from the route that selects it. -/
def relation (path : Arc Address) (resolved : ResolvedRoute) : Relation where
  kind := .selection
  left := path.left
  right := path.right
  dst := some path.tag
  predicate := predicate path.tag
  style :=
    { direction := .directed
      color := some (if resolved.hasUnmodeledVia then .darkViolet else .blue)
      width := some 3 }
  leftLabels := leftLabels resolved
  middleLabels := middleLabels resolved
  rightLabels := rightLabels resolved

end Selection

namespace Network

variable (net : Network)

def selectionRelations : RelationSet :=
  .ofList <| (lastWrites net.selections).toList.map fun (path, resolved) =>
    Selection.relation path resolved

end Network

end NetTopology
