/-
# Resolved routes

A route speaks of a next hop and of a destination subnet. Resolving it finds
the interface it leaves by, the owner of the next hop and the devices in the
destination. A next hop of `0.0.0.0` means that the destination is attached to
the device, and so does one of the device's own addresses.
-/

import NetTopology.Owner
import NetTopology.Diagnostic

namespace NetTopology

/-- A route with everything it refers to. -/
structure ResolvedRoute where
  device : Device
  route : Route
  interface : Option Interface
  /-- The owner of the next hop. -/
  via : Option Owner
  /-- The devices in the destination subnet. -/
  destinations : List Address
  deriving Inhabited

/-- Whether a route of the device leads to itself: there is no next hop, or the
device has the address of the next hop. -/
def Device.isDirect (device : Device) (route : Route) : Bool :=
  route.isAttached || device.ownsIp route.viaIp

namespace ResolvedRoute

/-- The administrative address of the device that reported the route. -/
def src (resolved : ResolvedRoute) : Address :=
  resolved.device.adminIp

/-- The administrative address of the next hop. -/
def viaIp? (resolved : ResolvedRoute) : Option Address :=
  resolved.via.map Owner.adminIp

/-- Whether the destination is attached to the device itself. -/
def isDirect (resolved : ResolvedRoute) : Bool :=
  resolved.device.isDirect resolved.route

/-- Whether there is a next hop, but no device that owns it. -/
def hasUnmodeledVia (resolved : ResolvedRoute) : Bool :=
  !resolved.isDirect && resolved.via.isNone

end ResolvedRoute

namespace Network

variable (net : Network)

def resolve (device : Device) (route : Route) : ResolvedRoute where
  device
  route
  interface := route.ifindex.bind device.interfaceByIndex?
  via :=
    if device.isDirect route then none
    else net.owner? device.adminIp route.viaIp .hostMask
  destinations := net.devicesIn device.adminIp route.dstSubnet route.dstMask

/-- The routes of all devices that answered, resolved, in the order of names. -/
def resolvedRoutes : List ResolvedRoute :=
  net.polledDevices.flatMap fun device => device.routes.map (net.resolve device)

/-- The routes whose interface is not reported. -/
def routeDiagnostics : List Diagnostic :=
  net.resolvedRoutes.filterMap fun resolved =>
    match resolved.interface with
    | some _ => none
    | none =>
      some (.missingInterface resolved.route.dstSubnet resolved.route.dstMask resolved.device.name)

end Network

end NetTopology
