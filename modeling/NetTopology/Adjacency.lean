/-
# Adjacencies

Both ends of a protocol adjacency should report it. Two reports with the same
predicate become one line with arrows on both ends; a report without its
counterpart is drawn as a red arrow. Of several reports of a device about the
same neighbour and predicate the last one counts.
-/

import NetTopology.LastWrite
import NetTopology.Relation.Pairing
import NetTopology.Relation.Set
import NetTopology.Owner
import NetTopology.Diagnostic

namespace NetTopology

namespace Adjacency

/-- The line of one adjacency. The label at an end is the address by which the
other end knows it. -/
def relation (pair : PairedArc String Link) : Relation where
  kind := .link
  left := pair.arc.left
  right := pair.arc.right
  predicate := pair.arc.tag
  style := if pair.back.isSome then .bidirectional else .flagged
  leftLabels := pair.back.toList.map fun back => .smallest back.peerIp.toText 3
  middleLabels := Relation.Label.positional pair.value.labels
  rightLabels := [.smallest pair.value.peerIp.toText 3]

end Adjacency

namespace Network

variable (net : Network)

/-- The device that an adjacency leads to. -/
def peerIp? (device : Device) (link : Link) : Option Address :=
  net.ownerIp? device.adminIp link.peerIp .hostMask

/-- The adjacencies to known devices, in the order of reports. -/
def adjacencies : List (Arc String × Link) :=
  net.polledDevices.flatMap fun device =>
    device.links.filterMap fun link =>
      (net.peerIp? device link).map fun peer => (⟨device.adminIp, peer, link.predicate⟩, link)

/-- The adjacencies to unknown devices. -/
def linkDiagnostics : List Diagnostic :=
  net.polledDevices.flatMap fun device =>
    (device.links.filter fun link => (net.peerIp? device link).isNone).map fun link =>
      .unknownPeer link.peerIp device.name

def linkRelations : RelationSet :=
  .ofList <| (pairUp (lastWrites net.adjacencies)).map Adjacency.relation

end Network

end NetTopology
