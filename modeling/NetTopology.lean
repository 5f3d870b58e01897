import NetTopology.Graph
import NetTopology.Main
import NetTopology.Polling.Script
import NetTopology.Proofs.NextHop
import NetTopology.Proofs.Owner
import NetTopology.Proofs.Reconciliation
import NetTopology.Proofs.Relation.Pairing
import NetTopology.Proofs.Adjacency
import NetTopology.Proofs.Polling.InFlight
import NetTopology.Proofs.Polling.Answers
import NetTopology.Proofs.Polling.Workers
import NetTopology.Proofs.Polling.Cycle
import NetTopology.Proofs.Alert
import NetTopology.Proofs.Polling.Observed
import NetTopology.Proofs.Address.Text
import NetTopology.Proofs.Multicast
import NetTopology.Proofs.Gateway
import NetTopology.Proofs.Selection
import NetTopology.Proofs.SameRecords.Network
import NetTopology.Proofs.SameRecords.Relations
import NetTopology.Proofs.Alert.Standing
import NetTopology.Proofs.Ends
import NetTopology.Proofs.Reconciliation.Merge
import NetTopology.Proofs.Correspondence
import NetTopology.Proofs.SameApartFromRoutes.Network
import NetTopology.Proofs.SameApartFromRoutes.Snapshot
import NetTopology.Proofs.Selection.Selecting
import NetTopology.Proofs.Alert.Repetition
import NetTopology.Proofs.Catalog.Changes
import NetTopology.Proofs.Catalog.Document
import NetTopology.Proofs.Owner.Subnet
import NetTopology.Proofs.Selection.Source
import NetTopology.Proofs.Selection.Reported
import NetTopology.Proofs.Selection.HopText
import NetTopology.Proofs.Membership
import NetTopology.Proofs.PimRole
import NetTopology.Proofs.Catalog.Building
import NetTopology.Proofs.Catalog.Neighbours
import NetTopology.Proofs.Details
import NetTopology.Proofs.Owner.DisplayName
import NetTopology.Proofs.Relation.History
import NetTopology.Proofs.Polling.Loop
import NetTopology.Proofs.Polling.Timeout
import NetTopology.Proofs.Predicate
import NetTopology.Proofs.Address.Cidr
