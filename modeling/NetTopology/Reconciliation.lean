/-
# Reconciliation

All relations of a network: the links declared in the catalog, the next hops
and the selected paths of the routing tables, the adjacencies, the multicast
trees and the memberships. Each part is a set of its own, and the whole is
their union; a device cannot make one part overwrite another one, because the
parts differ in the kind of their relations.
-/

import NetTopology.NextHop
import NetTopology.Selection
import NetTopology.Adjacency
import NetTopology.Multicast

namespace NetTopology

namespace Catalog

/-- The display predicate of declared links. -/
def linkPredicate : String := "options.none"

/-- The line of a declared link. -/
def linkRelation (source target : Address) : Relation where
  kind := .declared
  left := source
  right := target
  predicate := linkPredicate
  style := .undirected

def declaredRelations (catalog : Catalog) : RelationSet :=
  .ofList <| catalog.declaredLinks.map fun (source, target) => linkRelation source target

/-- The links declared to unknown devices. -/
def linkDiagnostics (catalog : Catalog) : List Diagnostic :=
  catalog.danglingLinks.map fun (source, target) => .danglingLink source target

end Catalog

namespace Network

variable (net : Network)

inductive Part where
  /-- The links of the catalog. -/
  | declared
  /-- The next hops of the routing tables. -/
  | nextHop
  /-- The paths that the routing tables select. -/
  | selection
  /-- The adjacencies. -/
  | links
  /-- The multicast trees. -/
  | multicast
  /-- The group memberships. -/
  | igmp
  deriving DecidableEq

def relationsOf : Part → RelationSet
  | .declared => net.catalog.declaredRelations
  | .nextHop => net.nextHopRelations
  | .selection => net.selectionRelations
  | .links => net.linkRelations
  | .multicast => net.multicastRelations
  | .igmp => net.membershipRelations

/-- What is remarked while the relations of one part are found. Next hops and
selected paths are found together. -/
def diagnosticsOf : Part → List Diagnostic
  | .declared => net.catalog.linkDiagnostics
  | .nextHop | .selection => net.routeDiagnostics ++ net.selectionDiagnostics
  | .links => net.linkDiagnostics
  | .multicast | .igmp => []

def relations : RelationSet :=
  ((((net.relationsOf .declared).extend (net.relationsOf .nextHop)).extend
    (net.relationsOf .selection)).extend (net.relationsOf .links)).extend
      (net.relationsOf .multicast) |>.extend (net.relationsOf .igmp)

/-- What is remarked while all relations are found. -/
def relationDiagnostics : List Diagnostic :=
  net.diagnosticsOf .declared ++ net.diagnosticsOf .selection ++ net.diagnosticsOf .links

/-- What is remarked when the network is put together. -/
def networkDiagnostics : List Diagnostic :=
  net.strangers.map .unknownDevice

end Network

end NetTopology
