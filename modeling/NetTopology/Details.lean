/-
# Device details

The tables shown beside a device: its description, its active interfaces and
its routing table. Addresses are shown with the name of the device that has
them where it is known. Rows of the routing table are put in the order of their
destination text; rows with the same destination keep the order of the table.
-/

import NetTopology.ResolvedRoute
import NetTopology.Quantity

namespace NetTopology

/-- A row of the interface table. -/
structure InterfaceRow where
  name : String
  /-- The address with its mask. -/
  address : String
  /-- The hardware address. -/
  macAddr : String
  speed : String
  /-- The largest packet size. -/
  mtu : String
  deriving DecidableEq

/-- A row of the routing table. -/
structure RouteRow where
  /-- The destination subnet, after the name of its device if it has just one. -/
  destination : String
  /-- The next hop after the name of its device; empty for direct routes. -/
  via : String
  /-- The name of the interface that the route leaves by. -/
  out : String
  /-- The protocol that installed the route. -/
  protocol : String
  cost : Int64
  deriving DecidableEq

/-- The tables of one device. -/
structure DeviceDetails where
  /-- The administrative address of the device. -/
  target : Address
  /-- The description, if the device reported one. -/
  systemInfo : Option String
  /-- The active interfaces in the order of the report. -/
  interfaces : List InterfaceRow
  /-- The routing table, ordered by destination. -/
  routes : List RouteRow
  deriving DecidableEq

namespace Interface

/-- The address of an interface with its mask, as far as they are known. -/
def addressText (interface : Interface) : String :=
  match interface.ip, interface.netMask with
  | some ip, some mask => ip.toText ++ "/" ++ mask.maskText
  | some ip, none => ip.toText
  | none, _ => ""

def speedText (bitsPerSecond : Float) : String :=
  Decimal.fixed 1 (bitsPerSecond / 1e6) ++ " Mbps"

def row (interface : Interface) : InterfaceRow where
  name := interface.name
  address := interface.addressText
  macAddr := interface.macAddr.getD ""
  speed := (interface.speed.map speedText).getD ""
  mtu := (interface.mtu.map fun mtu => toString mtu.toNat ++ " B").getD ""

end Interface

namespace Network

variable (net : Network)

/-- The destination of a route, after the name of its device if it has just one. -/
def destinationText (resolved : ResolvedRoute) : String :=
  let subnet := resolved.route.dstSubnet.cidr resolved.route.dstMask
  match resolved.destinations with
  | [dst] =>
    match net.nameOf? dst with
    | some name => name ++ " " ++ subnet
    | none => subnet
  | _ => subnet

/-- The next hop of a route after the name of its device. An address without a
name is not repeated. -/
def viaText (resolved : ResolvedRoute) : String :=
  if resolved.isDirect then ""
  else
    let address := resolved.route.viaIp.toText
    let name := net.displayName resolved.src resolved.route.viaIp
    if name = address then name else name ++ " " ++ address

def routeRow (resolved : ResolvedRoute) : RouteRow where
  destination := net.destinationText resolved
  via := net.viaText resolved
  out := (resolved.interface.map Interface.name).getD ""
  protocol := resolved.route.protocol
  cost := resolved.route.metric

/-- The rows of those of the given routes that a device reported, ordered by
destination. -/
def routeRows (routes : List ResolvedRoute) (device : Device) : List RouteRow :=
  ((routes.filter fun resolved => resolved.src == device.adminIp).map
    net.routeRow).mergeSort fun first second => (compare first.destination second.destination).isLE

/-- The tables of one device, where `routes` are the resolved routes of all. -/
def detailsOf (routes : List ResolvedRoute) (device : Device) : DeviceDetails where
  target := device.adminIp
  systemInfo := if device.systemInfo = "" then none else some device.systemInfo
  interfaces :=
    (device.interfaces.filter fun interface => interface.isActive && interface.name != "").map
      Interface.row
  routes := net.routeRows routes device

/-- The tables of all devices that answered, in the order of names. -/
def details : List DeviceDetails :=
  net.polledDevices.map (net.detailsOf net.resolvedRoutes)

end Network

end NetTopology
