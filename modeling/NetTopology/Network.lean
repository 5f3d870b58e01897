/-
# The network of one cycle

A network joins the catalog with the observations of one poll cycle. It has one
device for each catalog entry, in the order of names. A device without an
observation is down and has no records; an observation under a name that the
catalog does not have is ignored.
-/

import NetTopology.Catalog
import NetTopology.Observation

namespace NetTopology

/-- A catalog entry with the observation of the cycle. -/
structure Device where
  /-- What the catalog declares. -/
  entry : CatalogEntry
  /-- What the device reported, if it answered. -/
  observation : Option Observation
  deriving Inhabited

namespace Device

def name (device : Device) : String :=
  device.entry.name

def adminIp (device : Device) : Address :=
  device.entry.ip

/-- Whether the device answered in this cycle. -/
def isPolled (device : Device) : Bool :=
  device.observation.isSome

/-- The records of one sort, none of them if the device is down. -/
def records {α : Type} (device : Device) (sort : Observation → List α) : List α :=
  match device.observation with
  | none => []
  | some observation => sort observation

/-- Seconds since the start of the device. -/
def uptime? (device : Device) : Option Float :=
  device.observation.bind Observation.uptime

/-- The free description of the device. -/
def systemInfo (device : Device) : String :=
  match device.observation with
  | none => ""
  | some observation => observation.systemInfo

def interfaces (device : Device) : List Interface :=
  device.records Observation.interfaces

/-- The observed routing table. -/
def routes (device : Device) : List Route :=
  device.records Observation.routes

/-- The observed adjacencies. -/
def links (device : Device) : List Link :=
  device.records Observation.links

/-- The observed multicast routing table. -/
def mroutes (device : Device) : List MulticastRoute :=
  device.records Observation.mroutes

/-- The observed group memberships. -/
def igmps (device : Device) : List Membership :=
  device.records Observation.igmps

/-- The reported rendezvous points. -/
def pimRps (device : Device) : List Address :=
  device.records Observation.pimRps

/-- The reported bootstrap routers. -/
def pimBsrs (device : Device) : List Address :=
  device.records Observation.pimBsrs

/-- The first interface with the given index. -/
def interfaceByIndex? (device : Device) (index : String) : Option Interface :=
  device.interfaces.find? fun interface => interface.index == index

/-- The first interface with the given address. -/
def interfaceByIp? (device : Device) (ip : Address) : Option Interface :=
  device.interfaces.find? fun interface => interface.ip == some ip

/-- Whether the address belongs to one of the interfaces. -/
def ownsIp (device : Device) (ip : Address) : Bool :=
  (device.interfaceByIp? ip).isSome

end Device

/-- The catalog with the observations of one cycle. -/
structure Network where
  /-- The declared devices. -/
  catalog : Catalog
  /-- The observations by device name. -/
  observations : ObservationSet
  deriving Inhabited

namespace Network

/-- All devices of the catalog in the order of names. -/
def devices (net : Network) : List Device :=
  net.catalog.entries.map fun entry => ⟨entry, net.observations[entry.name]?⟩

/-- The devices that answered, in the order of names. -/
def polledDevices (net : Network) : List Device :=
  net.devices.filter Device.isPolled

def device? (net : Network) (name : String) : Option Device :=
  net.devices.find? fun device => device.name == name

def deviceByAdminIp? (net : Network) (ip : Address) : Option Device :=
  net.devices.find? fun device => device.adminIp == ip

/-- Whether the device with the given name answered. -/
def isPolled (net : Network) (name : String) : Bool :=
  (net.device? name).any Device.isPolled

/-- The names of observations that no catalog entry has. -/
def strangers (net : Network) : List String :=
  net.observations.keys.filter fun name => !net.catalog.declarations.contains name

end Network

end NetTopology
