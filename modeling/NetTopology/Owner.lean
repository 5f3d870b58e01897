/-
# Owners of addresses

A record of one device names others by raw addresses. The owner of an address,
seen from the device that observed it, is found in two passes and the first
match wins: devices that did not answer are known by their administrative
address alone, and the others by the addresses of their interfaces. The
observer itself is no candidate of the second pass, because what a device
reports is about its neighbours.
-/

import NetTopology.Address.Subnet
import NetTopology.Network

namespace NetTopology

/-- The device that an observed address belongs to. -/
inductive Owner where
  /-- A device that did not answer and is only known from the catalog. -/
  | declared (entry : CatalogEntry)
  /-- A device that answered, with the interface that has the address. -/
  | polled (device : Device) (interface : Interface)
  deriving Inhabited

namespace Owner

def adminIp : Owner → Address
  | declared entry => entry.ip
  | polled device _ => device.adminIp

/-- The interface that has the address, if the owner answered. -/
def interface? : Owner → Option Interface
  | declared _ => none
  | polled _ interface => some interface

end Owner

/-- Whether the address of an interface lies in the subnet of `ip`. -/
def Interface.liesIn (interface : Interface) (ip mask : Address) : Bool :=
  interface.ip.any fun own => own.sameSubnet ip mask

namespace Network

variable (net : Network)

/-- The first device without an answer whose administrative address lies in the subnet. -/
def declaredOwner? (ip mask : Address) : Option Owner :=
  (net.devices.find? fun device => !device.isPolled && device.adminIp.sameSubnet ip mask).map
    fun device => .declared device.entry

/-- The first interface in the subnet, among the devices other than the observer that answered. -/
def polledOwner? (observer ip mask : Address) : Option Owner :=
  (net.polledDevices.filter fun device => device.adminIp != observer).findSome? fun device =>
    (device.interfaces.find? fun interface => interface.liesIn ip mask).map (Owner.polled device)

/-- The owner of `ip` as seen by the device `observer`. The mask `0.0.0.0`
would match every device and finds none. -/
def owner? (observer ip mask : Address) : Option Owner :=
  if mask = .unspecified then none
  else
    match net.declaredOwner? ip mask with
    | some owner => some owner
    | none => net.polledOwner? observer ip mask

/-- The administrative address of the owner of `ip`. -/
def ownerIp? (observer ip mask : Address) : Option Address :=
  (net.owner? observer ip mask).map Owner.adminIp

/-- Whether a device has an address in the subnet: one of its interfaces if it
answered, else its administrative address. -/
def hasAddressIn (device : Device) (subnet mask : Address) : Bool :=
  if device.isPolled then
    device.interfaces.any fun interface => interface.liesIn subnet mask
  else device.adminIp.sameSubnet subnet mask

/-- The devices that may be meant by a subnet, before they are put in order. A
host mask selects at most one owner, the mask `0.0.0.0` every other device, and
any other mask the other devices with an address in the subnet. -/
def candidates (observer subnet mask : Address) : List Address :=
  if mask = .hostMask then (net.ownerIp? observer subnet mask).toList
  else if mask = .unspecified then
    (net.devices.map Device.adminIp).filter fun ip => ip != observer
  else
    ((net.devices.filter fun device => device.adminIp != observer).filter
      fun device => hasAddressIn device subnet mask).map Device.adminIp

/-- The administrative addresses of the devices in a subnet as seen by
`observer`, in order and without repetition. -/
def devicesIn (observer subnet mask : Address) : List Address :=
  (Std.ExtTreeSet.ofList (net.candidates observer subnet mask)).toList

/-- The name of the device that has exactly this address, be it the
administrative one or that of an interface. -/
def nameOf? (ip : Address) : Option String :=
  match net.catalog.byAdminIp? ip with
  | some entry => some entry.name
  | none => (net.polledDevices.find? fun device => device.ownsIp ip).map Device.name

/-- A name for `ip` to show: that of the device with this address, else the
administrative address of its owner, else the address itself. -/
def displayName (observer ip : Address) : String :=
  match net.nameOf? ip with
  | some name => name
  | none =>
    match net.ownerIp? observer ip .hostMask with
    | some owner => owner.toText
    | none => ip.toText

end Network

end NetTopology
