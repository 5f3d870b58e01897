/-
# Alerts

Each cycle says anew which alerts of a device are open and which are closed. An
alert is known by the device and a key; a later event for the same key replaces
an earlier one. A device that should answer and does not is down. A device that
answers with its uptime may have rebooted lately, and so may have changed the
status of its interfaces. Without an uptime nothing is said about either.
-/

import NetTopology.Network

namespace NetTopology

namespace Alert

/-- How serious an open alert is. -/
inductive Kind where
  /-- Something is broken. -/
  | error
  /-- Something looks suspicious. -/
  | warning
  deriving DecidableEq

/-- Whether an alert is active. -/
inductive Action where
  /-- The alert is active. -/
  | open (mesg resolution : String) (kind : Kind)
  /-- The alert is not active. -/
  | close
  deriving DecidableEq

end Alert

/-- What a cycle says about one alert. -/
structure Alert where
  /-- The administrative address of the device. -/
  entity : Address
  key : String
  /-- Whether the alert is active. -/
  action : Alert.Action
  deriving DecidableEq

def Alert.isOpen (alert : Alert) : Bool :=
  alert.action != .close

/-- From which values on a device is conspicuous. -/
structure Thresholds where
  /-- The uptime in seconds below which a device has rebooted lately. -/
  reboot : Float := 60.0
  /-- The seconds after a status change during which it is reported. -/
  interfaceChange : Float := 60.0
  deriving Inhabited

namespace Alert

def downKey : String := "device down"

/-- The key of the alert that a device has rebooted. -/
def uptimeKey : String := "uptime"

/-- The key of the alert that an interface has changed its status. -/
def changeKey (interface : Interface) : String :=
  interface.name ++ "-last-change"

def down (device : Device) : Alert where
  entity := device.adminIp
  key := downKey
  action :=
    if device.isPolled then .close
    else
      .open "Device is down."
        "Check the power cable, power it on if it is off, check the IP address, verify routing."
        .error

/-- The alert of a device that has rebooted. -/
def reboot (thresholds : Thresholds) (device : Device) (uptime : Float) : Alert where
  entity := device.adminIp
  key := uptimeKey
  action := if uptime < thresholds.reboot then .open "Device rebooted." "" .error else .close

/-- Whether a status change at `changed`, in seconds after the start of the
device, is recent when the device has been up for `uptime` seconds. -/
def isRecent (thresholds : Thresholds) (uptime changed : Float) : Bool :=
  decide (0.0 ≤ uptime - changed) && decide (uptime - changed < thresholds.interfaceChange)

/-- The alert of an interface whose last status change is known. -/
def change (thresholds : Thresholds) (device : Device) (uptime : Float)
    (interface : Interface) (changed : Float) : Alert where
  entity := device.adminIp
  key := changeKey interface
  action :=
    if isRecent thresholds uptime changed then
      .open (interface.name ++ " status recently changed to " ++ interface.status ++ ".") ""
        .warning
    else .close

/-- What an uptime says: whether the device has rebooted, and which interfaces
have changed their status since. -/
def sinceStart (thresholds : Thresholds) (device : Device) (uptime : Float) : List Alert :=
  reboot thresholds device uptime ::
    device.interfaces.filterMap fun interface =>
      interface.lastChanged.map (change thresholds device uptime interface)

def ofDevice (thresholds : Thresholds) (device : Device) : List Alert :=
  (if device.entry.isPollable then [down device] else []) ++
    match device.uptime? with
    | none => []
    | some uptime => sinceStart thresholds device uptime

end Alert

namespace Network

variable (net : Network)

/-- The alerts of all devices, in the order of names. -/
def alerts (thresholds : Thresholds) : List Alert :=
  net.devices.flatMap (Alert.ofDevice thresholds)

/-- The devices that should have answered and did not. -/
def missingDevices : List Device :=
  net.devices.filter fun device => device.entry.isPollable && !device.isPolled

end Network

end NetTopology
