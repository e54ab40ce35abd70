import PolicyReach.Main
import PolicyReach.Proofs.Checks
import PolicyReach.Proofs.Topology
import PolicyReach.Proofs.Compilation
import PolicyReach.Proofs.Resolution
import PolicyReach.Proofs.Admission
import PolicyReach.Proofs.OrderIndependence
import PolicyReach.Proofs.Matching
import PolicyReach.Proofs.Semantics
import PolicyReach.Proofs.LiveRun
import PolicyReach.Proofs.Verification
import PolicyReach.Proofs.RuleInsertion
import PolicyReach.Proofs.Schedules
import PolicyReach.Proofs.Cancellation
import PolicyReach.Proofs.Validation
import PolicyReach.Proofs.PolicyItems
import PolicyReach.Proofs.Locality
import PolicyReach.Proofs.Layout
import PolicyReach.Proofs.TableShape
import PolicyReach.Proofs.Comparison
import PolicyReach.Proofs.Unions
import PolicyReach.Proofs.Indexing
import PolicyReach.Proofs.JsonText
import PolicyReach.Proofs.PolicyJson
import PolicyReach.Proofs.RoundTrip
import PolicyReach.Proofs.Replies
import PolicyReach.Proofs.ClockRuns
import PolicyReach.Proofs.TickBound
import PolicyReach.Proofs.CommandLine
import PolicyReach.Proofs.ProbeCommand
import PolicyReach.Proofs.Prediction
import PolicyReach.Proofs.CompiledPolicies
import PolicyReach.Proofs.SoundSelectors
import PolicyReach.Proofs.EmptySelectors
import PolicyReach.Proofs.RuleRewriting
import PolicyReach.Proofs.MalformedSelectors
import PolicyReach.Proofs.TopologyErrors
import PolicyReach.Proofs.AddressBlocks
import PolicyReach.Proofs.Digits
import PolicyReach.Proofs.AddressText
import PolicyReach.Proofs.NetworkText
import PolicyReach.Proofs.JobTargets
import PolicyReach.Proofs.OutputMarkers
import PolicyReach.Proofs.RetryLimits
import PolicyReach.Proofs.CommaLists
import PolicyReach.Proofs.ServiceNames
import PolicyReach.Proofs.Columns
import PolicyReach.Proofs.Rendering
import PolicyReach.Proofs.Explanation
import PolicyReach.Proofs.ByteOrder
import PolicyReach.Proofs.Lookup
import PolicyReach.Proofs.SelectorText
