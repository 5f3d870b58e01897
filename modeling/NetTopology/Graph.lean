/-
# The graph of a snapshot

A snapshot as a directed graph: a node for each entity, and for each relation
an edge from left to right. A line that leads in both directions has a second
edge from right to left. Relations between addresses that are no entities have
no edges.
-/

import NetTopology.Snapshot

namespace NetTopology

/-- A directed edge. -/
structure Edge where
  /-- Where the edge starts. -/
  source : Address
  /-- Where it ends. -/
  target : Address
  kind : Relation.Kind
  deriving DecidableEq

/-- A directed graph whose nodes are addresses. -/
structure Graph where
  nodes : List Address
  edges : List Edge
  deriving DecidableEq

/-- The edges of a relation, one for each direction it leads in. -/
def Relation.edges (relation : Relation) : List Edge :=
  ⟨relation.left, relation.right, relation.kind⟩ ::
    if relation.style.isSymmetric then [⟨relation.right, relation.left, relation.kind⟩] else []

namespace Snapshot

variable (snapshot : Snapshot)

def hasEntity (ip : Address) : Bool :=
  snapshot.entities.any fun entity => entity.id == ip

/-- The graph of a snapshot, its nodes in the order of entities and its edges
in the order of relations. -/
def graph : Graph where
  nodes := snapshot.entities.map Entity.id
  edges :=
    (snapshot.relations.toList.filter fun relation =>
      snapshot.hasEntity relation.left && snapshot.hasEntity relation.right).flatMap
        Relation.edges

end Snapshot

end NetTopology
