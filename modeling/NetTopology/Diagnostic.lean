/-
# Diagnostics

Reconciliation never fails. What it has to skip or finds missing is reported as
a list of diagnostics beside its result.
-/

import NetTopology.Address

namespace NetTopology

/-- How serious a diagnostic is. -/
inductive Severity where
  /-- A declaration or a route that cannot be followed. -/
  | error
  /-- A record that is skipped. -/
  | warning
  deriving DecidableEq

/-- A remark on the input of a reconciliation. -/
inductive Diagnostic where
  /-- An observation of a device that the catalog does not have. -/
  | unknownDevice (name : String)
  /-- A declared link to a device that the catalog does not have. -/
  | danglingLink (source target : String)
  /-- An adjacency to an address that no device owns. -/
  | unknownPeer (peerIp : Address) (device : String)
  /-- A route whose interface is not reported. -/
  | missingInterface (subnet mask : Address) (device : String)
  /-- A route to a next hop that no device owns, and that no declared link explains. -/
  | unreachable (subnet via : Address) (device : String)
  /-- A device that should have been observed and was not. -/
  | noAnswer (name : String)
  deriving DecidableEq

namespace Diagnostic

def severity : Diagnostic → Severity
  | danglingLink .. | unreachable .. => .error
  | unknownDevice .. | unknownPeer .. | missingInterface .. | noAnswer .. => .warning

def message : Diagnostic → String
  | unknownDevice name =>
    "Ignoring observation of " ++ name ++ ", which is not in the catalog"
  | danglingLink source target => "Couldn't find link to " ++ target ++ " from " ++ source
  | unknownPeer peerIp device =>
    "Couldn't find link to " ++ peerIp.toText ++ " on " ++ device
  | missingInterface subnet mask device =>
    "Couldn't find an interface for route to " ++ subnet.toText ++ "/" ++ mask.toText ++
      " on " ++ device
  | unreachable subnet via device =>
    "Couldn't find dst " ++ subnet.toText ++ " via " ++ via.toText ++ " from " ++ device
  | noAnswer name => name ++ " did not answer this cycle"

end Diagnostic

end NetTopology
