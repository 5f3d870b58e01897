/-
# Snapshots

The snapshot is what one cycle shows: an entity for each device of the catalog,
the relations between them, the labels of the entities, the alerts and the
tables of the devices that answered.
-/

import NetTopology.Reconciliation
import NetTopology.Details
import NetTopology.Alert

namespace NetTopology

/-- A node of the topology. -/
structure Entity where
  /-- The administrative address of the device. -/
  id : Address
  /-- The name of the device. -/
  label : String
  style : String
  deriving DecidableEq

/-- A text at a node. -/
structure EntityLabel where
  /-- The administrative address of the device. -/
  target : Address
  text : String
  /-- The zoom level from which on the text is shown. -/
  level : Nat
  /-- The place among the labels of the node. -/
  sortKey : String
  style : String
  deriving DecidableEq

/-- What one cycle shows. -/
structure Snapshot where
  entities : List Entity
  relations : RelationSet
  /-- The texts at the nodes. -/
  labels : List EntityLabel
  alerts : List Alert
  /-- The tables of the devices that answered. -/
  details : List DeviceDetails

namespace Device

/-- The node of a device. End hosts stand out by their background. -/
def entity (device : Device) : Entity where
  id := device.adminIp
  label := device.name
  style :=
    "font-weight:bolder" ++ if device.entry.isHost then " frame-back-color:lavender" else ""

/-- A label of a device; its place follows the level and then the given word. -/
def label (device : Device) (text place : String) (level : Nat) (style : String) :
    EntityLabel where
  target := device.adminIp
  text := text
  level := level
  sortKey := toString level ++ "-" ++ place
  style := style

/-- The role of a device among multicast routers, if one of its addresses is
reported as rendezvous point or as bootstrap router. -/
def pimRole? (device : Device) (rps bsrs : List Address) : Option String :=
  match rps.any device.ownsIp, bsrs.any device.ownsIp with
  | true, true => some "RP & BSR"
  | true, false => some "RP"
  | false, true => some "BSR"
  | false, false => none

/-- The labels of a device: its address, and if its uptime is known also its
role among multicast routers and the uptime. -/
def labels (device : Device) (rps bsrs : List Address) : List EntityLabel :=
  device.label device.adminIp.toText "a" 1 "font-size:x-small" ::
    match device.uptime? with
    | none => []
    | some uptime =>
      ((device.pimRole? rps bsrs).toList.map fun role =>
        device.label role "aaa" 1 "font-size:x-small font-weight:bolder") ++
      [device.label ("uptime: " ++ Quantity.duration uptime) "alpha" 2 "font-size:x-small"]

end Device

namespace Network

variable (net : Network)

def rendezvousPoints : List Address :=
  net.polledDevices.flatMap Device.pimRps

def bootstrapRouters : List Address :=
  net.polledDevices.flatMap Device.pimBsrs

def snapshot (thresholds : Thresholds) : Snapshot where
  entities := net.devices.map Device.entity
  relations := net.relations
  labels :=
    net.devices.flatMap fun device => device.labels net.rendezvousPoints net.bootstrapRouters
  alerts := net.alerts thresholds
  details := net.details

/-- What is remarked while a snapshot is made of a network. -/
def snapshotDiagnostics : List Diagnostic :=
  net.relationDiagnostics ++ net.routeDiagnostics ++
    net.missingDevices.map fun device => .noAnswer device.name

end Network

namespace Snapshot

variable (snapshot : Snapshot)

def alert? (entity : Address) (key : String) : Option Alert :=
  snapshot.alerts.find? fun alert => alert.entity == entity && alert.key == key

def openAlerts : List Alert :=
  snapshot.alerts.filter Alert.isOpen

def detailsOf? (entity : Address) : Option DeviceDetails :=
  snapshot.details.find? fun details => details.target == entity

/-- The labels of an entity in their order. -/
def labelsOf (entity : Address) : List EntityLabel :=
  (snapshot.labels.filter fun label => label.target == entity).mergeSort
    fun first second => (compare first.sortKey second.sortKey).isLE

end Snapshot

end NetTopology
