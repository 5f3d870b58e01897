/-
# Observation documents

Readers for everything a device reports. All fields of interfaces and of whole
observations have defaults, and so have the descriptive fields of the other
records; the addresses of those have to be given. A record may also be written
as an array of its fields in the order in which they stand here.
-/

import NetTopology.Observation
import NetTopology.Failure
import NetTopology.Json.Record

namespace NetTopology

open Json (Reader Fields)

def Interface.reader : Reader Interface :=
  (Fields.default "index" Reader.text "" <|
    Fields.default "name" Reader.text "" <|
    Fields.default "status" Reader.text "" <|
    Fields.default "ip" (Reader.optional Reader.address) none <|
    Fields.default "net-mask" (Reader.optional Reader.address) none <|
    Fields.default "mac-addr" (Reader.optional Reader.text) none <|
    Fields.default "speed" (Reader.optional Reader.double) none <|
    Fields.default "mtu" (Reader.optional (Reader.natural (1 <<< 32))) none <|
    Fields.default "in-octets" (Reader.optional Reader.double) none <|
    Fields.default "out-octets" (Reader.optional Reader.double) none <|
    Fields.default "last-changed" (Reader.optional Reader.double) none .done).reader.map
      fun (index, name, status, ip, netMask, macAddr, speed, mtu, inOctets, outOctets,
          lastChanged, _) =>
        { index, name, status, ip, netMask, macAddr, speed, mtu := mtu.map UInt32.ofNat,
          inOctets, outOctets, lastChanged }

def Route.reader : Reader Route :=
  (Fields.required "dst-subnet" Reader.address <|
    Fields.required "dst-mask" Reader.address <|
    Fields.required "via-ip" Reader.address <|
    Fields.default "protocol" Reader.text "" <|
    Fields.default "metric" Reader.integer 0 <|
    Fields.default "ifindex" (Reader.optional Reader.text) none .done).reader.map
      fun (dstSubnet, dstMask, viaIp, protocol, metric, ifindex, _) =>
        { dstSubnet, dstMask, viaIp, protocol, metric, ifindex }

def Link.reader : Reader Link :=
  (Fields.required "peer-ip" Reader.address <|
    Fields.required "predicate" Reader.text <|
    Fields.default "labels" (Reader.array Reader.text) [] .done).reader.map
      fun (peerIp, predicate, labels, _) => { peerIp, predicate, labels }

def MulticastRoute.reader : Reader MulticastRoute :=
  (Fields.required "group" Reader.address <|
    Fields.required "source" Reader.address <|
    Fields.required "upstream" Reader.address <|
    Fields.default "protocol" (Reader.optional Reader.text) none <|
    Fields.default "uptime" (Reader.optional Reader.double) none <|
    Fields.default "packets" (Reader.optional Reader.double) none <|
    Fields.default "octets" (Reader.optional Reader.double) none .done).reader.map
      fun (group, source, upstream, protocol, uptime, packets, octets, _) =>
        { group, source, upstream, protocol, uptime, packets, octets }

def Membership.reader : Reader Membership :=
  (Fields.required "group" Reader.address <|
    Fields.required "reporter" Reader.address <|
    Fields.default "status" Reader.text "" <|
    Fields.default "age" (Reader.optional Reader.double) none .done).reader.map
      fun (group, reporter, status, age, _) => { group, reporter, status, age }

def Observation.reader : Reader Observation :=
  (Fields.default "uptime" (Reader.optional Reader.double) none <|
    Fields.default "system-info" Reader.text "" <|
    Fields.default "interfaces" (Reader.array Interface.reader) [] <|
    Fields.default "routes" (Reader.array Route.reader) [] <|
    Fields.default "links" (Reader.array Link.reader) [] <|
    Fields.default "mroutes" (Reader.array MulticastRoute.reader) [] <|
    Fields.default "igmps" (Reader.array Membership.reader) [] <|
    Fields.default "pim-rps" (Reader.array Reader.address) [] <|
    Fields.default "pim-bsrs" (Reader.array Reader.address) [] .done).reader.map
      fun (uptime, systemInfo, interfaces, routes, links, mroutes, igmps, pimRps, pimBsrs, _) =>
        { uptime, systemInfo, interfaces, routes, links, mroutes, igmps, pimRps, pimBsrs }

/-- Read one observation. -/
def Observation.ofDocument (document : String) : Except Failure Observation :=
  (Observation.reader.document document).mapError .document

/-- Read the observations of one cycle, by device name. -/
def ObservationSet.ofDocument (document : String) : Except Failure ObservationSet :=
  ((Reader.table Observation.reader).document document).mapError .document

end NetTopology
