/-
# Next hops

A device forwards traffic to another one when a route of it names that device
as its next hop, or when a route without an owned next hop has that device in
its destination. Forwarding in both directions is drawn as one line.
-/

import NetTopology.LastWrite
import NetTopology.Relation.Pairing
import NetTopology.Relation.Set
import NetTopology.ResolvedRoute

namespace NetTopology

/-- Where the traffic of a route is forwarded to: the owner of the next hop, or
the devices in the destination if the next hop has no owner. -/
def ResolvedRoute.forwardsTo (resolved : ResolvedRoute) : List Address :=
  match resolved.viaIp? with
  | some via => [via]
  | none => resolved.destinations

/-- The devices other than its own that a route forwards to. -/
def ResolvedRoute.hops (resolved : ResolvedRoute) : List Address :=
  resolved.forwardsTo.filter fun hop => hop != resolved.src

namespace NextHop

/-- The display predicate of next-hop relations. -/
def predicate : String := "options.routes selection.name 'map' == and"

/-- The line of one or two forwarding directions. -/
def relation (pair : PairedArc String ResolvedRoute) : Relation where
  kind := .nextHop
  left := pair.arc.left
  right := pair.arc.right
  predicate := pair.arc.tag
  style := if pair.back.isSome then .bidirectional else .directed
  middleLabels := [.small "next hop" 1]

end NextHop

namespace Network

variable (net : Network)

/-- All forwarding arcs of the network, each with the route that it comes from. -/
def hops : List (Arc String × ResolvedRoute) :=
  net.resolvedRoutes.flatMap fun resolved =>
    resolved.hops.map fun hop => (⟨resolved.src, hop, NextHop.predicate⟩, resolved)

def nextHopRelations : RelationSet :=
  .ofList <| (pairUp (lastWrites net.hops)).map NextHop.relation

end Network

end NetTopology
