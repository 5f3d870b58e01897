/-
# Observations

What one device reports about itself in one poll cycle. Every record is local
to its device and speaks of raw interface addresses; which device owns an
address is decided elsewhere, from all observations of the cycle together.
-/

import NetTopology.Address

namespace NetTopology

/-- A network interface of a device. -/
structure Interface where
  /-- The index by which other records of the same device refer to the interface. -/
  index : String := ""
  /-- The name, such as `eth1`. -/
  name : String := ""
  /-- The operational status, such as `up`. -/
  status : String := ""
  /-- The address, if one is set. -/
  ip : Option Address := none
  /-- The network mask. -/
  netMask : Option Address := none
  /-- The hardware address. -/
  macAddr : Option String := none
  /-- The speed in bits per second. -/
  speed : Option Float := none
  /-- The largest packet size in bytes. -/
  mtu : Option UInt32 := none
  /-- Bytes received. -/
  inOctets : Option Float := none
  /-- Bytes sent. -/
  outOctets : Option Float := none
  /-- When the status last changed, in seconds after the start of the device. -/
  lastChanged : Option Float := none
  deriving Inhabited

/-- Whether an interface is able to communicate. -/
def Interface.isActive (interface : Interface) : Bool :=
  interface.status == "up" || interface.status == "dormant"

/-- An entry of a routing table. -/
structure Route where
  dstSubnet : Address
  /-- The mask of the destination; `0.0.0.0` for the default route. -/
  dstMask : Address
  /-- The next hop; `0.0.0.0` if the destination is attached to the device. -/
  viaIp : Address
  /-- The protocol that installed the route. -/
  protocol : String := ""
  /-- The cost of the route. -/
  metric : Int64 := 0
  /-- The index of the interface that the route leaves by. -/
  ifindex : Option String := none
  deriving DecidableEq, Inhabited

/-- Whether a route has no next hop. -/
def Route.isAttached (route : Route) : Bool :=
  route.viaIp == .unspecified

/-- A protocol adjacency to a neighbour. -/
structure Link where
  peerIp : Address
  /-- The display predicate of the adjacency. -/
  predicate : String
  /-- Free texts for the middle of the line. -/
  labels : List String := []
  deriving DecidableEq, Inhabited

/-- An entry of a multicast routing table. -/
structure MulticastRoute where
  group : Address
  /-- The source of the traffic; `0.0.0.0` if the device itself originates it. -/
  source : Address
  /-- The neighbour that the traffic comes from. -/
  upstream : Address
  protocol : Option String := none
  /-- The age of the entry in seconds. -/
  uptime : Option Float := none
  packets : Option Float := none
  /-- Bytes forwarded. -/
  octets : Option Float := none
  deriving Inhabited

/-- Whether the device originates the traffic of the group itself. -/
def MulticastRoute.isLocal (route : MulticastRoute) : Bool :=
  route.source == .unspecified

/-- A membership of a multicast group that a neighbour reported. -/
structure Membership where
  group : Address
  /-- The neighbour that reported last. -/
  reporter : Address
  status : String := ""
  /-- The age of the report in seconds. -/
  age : Option Float := none
  deriving Inhabited

/-- All records of one device in one cycle. -/
structure Observation where
  /-- Seconds since the start of the device. -/
  uptime : Option Float := none
  /-- A free description of the device. -/
  systemInfo : String := ""
  interfaces : List Interface := []
  /-- The routing table. -/
  routes : List Route := []
  /-- The protocol adjacencies. -/
  links : List Link := []
  /-- The multicast routing table. -/
  mroutes : List MulticastRoute := []
  /-- The reported group memberships. -/
  igmps : List Membership := []
  /-- The addresses the device takes for rendezvous points. -/
  pimRps : List Address := []
  /-- The addresses the device takes for bootstrap routers. -/
  pimBsrs : List Address := []
  deriving Inhabited

/-- The observations of one cycle, by device name. -/
abbrev ObservationSet := Std.ExtTreeMap String Observation

end NetTopology
