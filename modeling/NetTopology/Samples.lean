/-
# Sample networks

Two small networks with the observations of a cycle in which every pollable
device answers. The command line shows them.
-/

import NetTopology.Network

namespace NetTopology

/-- A sample network. -/
inductive Sample where
  /-- Three routers in a triangle. -/
  | routedTriangle
  /-- A multicast stream over two routers. -/
  | multicastTree
  deriving DecidableEq

namespace Sample

def all : List Sample :=
  [routedTriangle, multicastTree]

def toText : Sample → String
  | routedTriangle => "routed-triangle"
  | multicastTree => "multicast-tree"

def ofText? (text : String) : Option Sample :=
  all.find? fun sample => sample.toText == text

def ip (a b c d : BitVec 8) : Address :=
  .ofOctets a b c d

/-- The mask of 24 ones. -/
def lan : Address := ip 255 255 255 0

/-- An interface that is up. -/
def interface (index name : String) (address mask : Address) : Interface where
  index := index
  name := name
  status := "up"
  ip := some address
  netMask := some mask
  speed := some 1e9
  mtu := some 1500

/-- A route over the next hop `via`. -/
def route (dst mask via : Address) (protocol : String) (metric : Int64) (index : String) :
    Route where
  dstSubnet := dst
  dstMask := mask
  viaIp := via
  protocol := protocol
  metric := metric
  ifindex := some index

def attached (dst : Address) (protocol : String) (index : String) : Route :=
  route dst lan .unspecified protocol 0 index

/-- The default route over the next hop `via`. -/
def defaultRoute (via : Address) (protocol : String) (metric : Int64) (index : String) : Route :=
  route .unspecified .unspecified via protocol metric index

/-- The display predicate of routing adjacencies. -/
def ospfPredicate : String := "options.ospf selection.name 'map' == and"

/-- The display predicate of multicast adjacencies. -/
def pimPredicate : String := "options.pim"

/-- The labels of a routing adjacency that has settled. -/
def settled : List String := ["2 minutes old", "broadcast", "cost 10"]

/-- The declarations of the triangle. A gateway that is not polled stands
behind the first router. -/
def triangleDevices : List (String × Declaration) :=
  [("gw", { ip := ip 192 168 0 1, kind := .external }),
    ("h3", { ip := ip 10 3 0 10, kind := .linuxSsh, mibs := "linux-host" }),
    ("r1", { ip := ip 10 0 1 1, mibs := "cisco-router", links := ["gw"] }),
    ("r2", { ip := ip 10 0 2 2, mibs := "cisco-router" }),
    ("r3", { ip := ip 10 0 3 3, mibs := "cisco-router" })]

/-- The first router, with the gateway and both other routers as neighbours. -/
def firstRouter : Observation where
  uptime := some 259200.0
  systemInfo := "Cisco IOS Software"
  interfaces :=
    [interface "1" "lo" (ip 10 0 1 1) .hostMask,
      interface "2" "eth0" (ip 10 12 0 1) lan,
      interface "3" "eth1" (ip 10 13 0 1) lan,
      interface "4" "eth2" (ip 192 168 0 2) lan]
  routes :=
    [defaultRoute (ip 192 168 0 1) "netmgmt" 1 "4",
      attached (ip 10 12 0 0) "local" "2",
      attached (ip 10 13 0 0) "local" "3",
      route (ip 10 3 0 0) lan (ip 10 13 0 3) "ospf" 20 "3"]
  links :=
    [⟨ip 10 12 0 2, ospfPredicate, settled⟩,
      ⟨ip 10 13 0 3, ospfPredicate, settled⟩,
      ⟨ip 10 13 0 3, pimPredicate, ["1 minute old", "sparse"]⟩]

/-- The second router. One of its interfaces has changed its status lately. -/
def secondRouter : Observation where
  uptime := some 11520.0
  interfaces :=
    [interface "1" "lo" (ip 10 0 2 2) .hostMask,
      interface "2" "eth0" (ip 10 12 0 2) lan,
      { interface "3" "eth1" (ip 10 23 0 2) lan with lastChanged := some 11500.0 }]
  routes :=
    [defaultRoute (ip 10 12 0 1) "ospf" 110 "2",
      attached (ip 10 12 0 0) "local" "2",
      attached (ip 10 23 0 0) "local" "3"]
  links :=
    [⟨ip 10 12 0 1, ospfPredicate, settled⟩,
      ⟨ip 10 23 0 3, ospfPredicate, ["20 seconds old", "broadcast", "cost 10"]⟩]
  pimRps := [ip 10 0 1 1]
  pimBsrs := [ip 10 0 1 1]

/-- The third router. It has rebooted lately, does not report the second one as
its neighbour and reports an unknown one. -/
def thirdRouter : Observation where
  uptime := some 30.0
  interfaces :=
    [interface "1" "lo" (ip 10 0 3 3) .hostMask,
      interface "2" "eth0" (ip 10 13 0 3) lan,
      interface "3" "eth1" (ip 10 23 0 3) lan,
      interface "4" "eth2" (ip 10 3 0 1) lan]
  routes :=
    [defaultRoute (ip 10 13 0 1) "ospf" 110 "2",
      attached (ip 10 13 0 0) "local" "2",
      attached (ip 10 3 0 0) "local" "4"]
  links :=
    [⟨ip 10 13 0 1, ospfPredicate, settled⟩,
      ⟨ip 10 13 0 1, pimPredicate, ["1 minute old", "sparse"]⟩,
      ⟨ip 10 99 0 1, ospfPredicate, ["5 seconds old"]⟩]

/-- A host behind the third router. -/
def triangleHost : Observation where
  uptime := some 4000.0
  systemInfo := "Linux h3 5.10.0"
  interfaces := [interface "1" "eth0" (ip 10 3 0 10) lan]
  routes :=
    [defaultRoute (ip 10 3 0 1) "static" 0 "1",
      attached (ip 10 3 0 0) "kernel" "1"]

/-- The declarations of the multicast stream. -/
def treeDevices : List (String × Declaration) :=
  [("camera", { ip := ip 10 0 0 9, kind := .linuxSsh, mibs := "linux-host" }),
    ("core", { ip := ip 10 0 0 2, mibs := "cisco-router" }),
    ("host1", { ip := ip 10 0 2 5, kind := .linuxSsh, mibs := "linux-host" }),
    ("leaf", { ip := ip 10 0 0 1, mibs := "cisco-router" })]

/-- The source of the stream. -/
def camera : Observation where
  uptime := some 90000.0
  interfaces := [interface "1" "eth0" (ip 10 0 0 9) lan]
  routes := [defaultRoute (ip 10 0 0 2) "static" 0 "1"]

/-- The router next to the source. It also originates a group of its own. -/
def core : Observation where
  uptime := some 7200.0
  interfaces := [interface "1" "eth0" (ip 10 0 0 2) lan]
  routes :=
    [attached (ip 10 0 0 0) "local" "1",
      route (ip 10 0 2 0) lan (ip 10 0 0 1) "ospf" 20 "1"]
  mroutes :=
    [{ group := ip 239 255 255 250, source := .unspecified, upstream := .unspecified,
       protocol := some "local" }]
  pimRps := [ip 10 0 0 2]

/-- The router next to the member. -/
def leaf : Observation where
  uptime := some 7200.0
  interfaces :=
    [interface "1" "eth0" (ip 10 0 0 1) lan,
      interface "2" "eth1" (ip 10 0 2 1) lan]
  routes :=
    [defaultRoute (ip 10 0 0 2) "ospf" 110 "1",
      attached (ip 10 0 2 0) "local" "2"]
  mroutes :=
    [{ group := ip 226 1 1 1, source := ip 10 0 0 9, upstream := ip 10 0 0 2,
       protocol := some "pimSparseMode", uptime := some 300.0, packets := some 25000.0,
       octets := some 30000000.0 }]
  igmps :=
    [{ group := ip 226 1 1 1, reporter := ip 10 0 2 5, status := "active", age := some 30.0 }]
  pimRps := [ip 10 0 0 2]

/-- The member of the group. -/
def treeHost : Observation where
  uptime := some 600.0
  interfaces := [interface "1" "eth0" (ip 10 0 2 5) lan]
  routes := [defaultRoute (ip 10 0 2 1) "static" 0 "1"]

/-- Declare devices one after the other; a declaration that is refused is left out. -/
def declare (devices : List (String × Declaration)) : Catalog :=
  devices.foldl (fun catalog (name, declaration) =>
    let added :=
      (catalog.addDevice name declaration.ip declaration.kind declaration.mibs).toOption.getD
        catalog
    declaration.links.foldl
      (fun catalog target => (catalog.addLink name target).toOption.getD catalog) added) ∅

def catalog : Sample → Catalog
  | routedTriangle => declare triangleDevices
  | multicastTree => declare treeDevices

def observations : Sample → ObservationSet
  | routedTriangle =>
    .ofList [("r1", firstRouter), ("r2", secondRouter), ("r3", thirdRouter), ("h3", triangleHost)]
  | multicastTree =>
    .ofList [("core", core), ("leaf", leaf), ("camera", camera), ("host1", treeHost)]

/-- The network of a sample without the observations of the given devices. -/
def network (sample : Sample) (down : List String) : Network where
  catalog := sample.catalog
  observations := down.foldl (fun observations name => observations.erase name) sample.observations

end Sample

end NetTopology
