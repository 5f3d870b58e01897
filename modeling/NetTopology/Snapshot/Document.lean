/-
# Snapshot documents

The form in which snapshots are shown to others. Empty lists of labels are left
out of relations, the rest is written in full.
-/

import NetTopology.Snapshot
import NetTopology.Json

namespace NetTopology

open Json

def Address.toJson (address : Address) : Json :=
  .str address.toText

def Relation.Label.toJson (label : Relation.Label) : Json :=
  .obj [("label", .str label.text), ("level", .int label.level), ("style", .str label.style)]

/-- A list of labels as a member of a relation; an empty one is left out. -/
def Relation.Label.member (name : String) (labels : List Relation.Label) :
    List (String × Json) :=
  if labels.isEmpty then [] else [(name, .arr (labels.map Relation.Label.toJson))]

def Relation.Key.members (key : Relation.Key) : List (String × Json) :=
  [("kind", .str key.kind.toText), ("left", key.left.toJson), ("right", key.right.toJson),
    ("dst", Json.ofText? (key.dst.map Address.toText)), ("predicate", .str key.predicate)]

def Relation.toJson (relation : Relation) : Json :=
  .obj <|
    relation.key.members ++ [("style", .str relation.style.toText)] ++
    Relation.Label.member "left-labels" relation.leftLabels ++
    Relation.Label.member "middle-labels" relation.middleLabels ++
    Relation.Label.member "right-labels" relation.rightLabels

def RelationSet.toJson (set : RelationSet) : Json :=
  .arr (set.toList.map Relation.toJson)

def Entity.toJson (entity : Entity) : Json :=
  .obj [("id", entity.id.toJson), ("label", .str entity.label), ("style", .str entity.style)]

def EntityLabel.toJson (label : EntityLabel) : Json :=
  .obj
    [("target", label.target.toJson), ("label", .str label.text), ("level", .int label.level),
      ("sort-key", .str label.sortKey), ("style", .str label.style)]

def Alert.Kind.toText : Alert.Kind → String
  | error => "error"
  | warning => "warning"

def Alert.Action.members : Alert.Action → List (String × Json)
  | .close => [("action", .str "close")]
  | .open mesg resolution kind =>
    [("action", .str "open"), ("mesg", .str mesg), ("resolution", .str resolution),
      ("kind", .str kind.toText)]

def Alert.toJson (alert : Alert) : Json :=
  .obj ([("entity", alert.entity.toJson), ("key", .str alert.key)] ++ alert.action.members)

def InterfaceRow.toJson (row : InterfaceRow) : Json :=
  .obj
    [("name", .str row.name), ("address", .str row.address), ("mac-addr", .str row.macAddr),
      ("speed", .str row.speed), ("mtu", .str row.mtu)]

/-- A row of the routing table as a document. -/
def RouteRow.toJson (row : RouteRow) : Json :=
  .obj
    [("destination", .str row.destination), ("via", .str row.via), ("out", .str row.out),
      ("protocol", .str row.protocol), ("cost", .int row.cost.toInt)]

def DeviceDetails.toJson (details : DeviceDetails) : Json :=
  .obj
    [("target", details.target.toJson), ("system-info", Json.ofText? details.systemInfo),
      ("interfaces", .arr (details.interfaces.map InterfaceRow.toJson)),
      ("routes", .arr (details.routes.map RouteRow.toJson))]

def Snapshot.toJson (snapshot : Snapshot) : Json :=
  .obj
    [("entities", .arr (snapshot.entities.map Entity.toJson)),
      ("relations", snapshot.relations.toJson),
      ("labels", .arr (snapshot.labels.map EntityLabel.toJson)),
      ("alerts", .arr (snapshot.alerts.map Alert.toJson)),
      ("details", .arr (snapshot.details.map DeviceDetails.toJson))]

end NetTopology
