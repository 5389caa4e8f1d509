import Tollgate.Accounting.Ledger
import Tollgate.Connections.Limiter
import Tollgate.Control.RosterDiff
import Tollgate.Control.Wire
import Tollgate.Json.Reader
import Tollgate.Json.Writer
import Tollgate.Rules
import Tollgate.Schedule.Worker
import Tollgate.Simulation.Run
import Tollgate.Speed.Escalation
import Tollgate.Proofs.Operation
import Tollgate.Proofs.Node
import Tollgate.Proofs.Leases
import Tollgate.Proofs.RosterAgreement
import Tollgate.Proofs.Reports
import Tollgate.Proofs.TrafficConservation
import Tollgate.Proofs.CapEnforcement
import Tollgate.Proofs.Throttle
import Tollgate.Proofs.BucketCaps
import Tollgate.Proofs.CapExpiry
import Tollgate.Proofs.OnlineBuckets
import Tollgate.Proofs.Reactivation
import Tollgate.Proofs.EscalationCounts
import Tollgate.Proofs.Teardown
import Tollgate.Proofs.PullTransactions
import Tollgate.Proofs.Isolation
import Tollgate.Proofs.UserAlike
import Tollgate.Proofs.SpeedCap
import Tollgate.Proofs.LevelBucket
import Tollgate.Proofs.Waiting
import Tollgate.Proofs.Bookkeeping
import Tollgate.Proofs.SingleFlight
import Tollgate.Proofs.RunRequests
import Tollgate.Proofs.WorkerPace
import Tollgate.Proofs.FixedDelay
import Tollgate.Proofs.ArmedInterval
import Tollgate.Proofs.StartOutcome
import Tollgate.Proofs.Stopping
import Tollgate.Proofs.Stations
import Tollgate.Proofs.RosterEffect
import Tollgate.Proofs.ListedUsers
import Tollgate.Proofs.Charges
import Tollgate.Proofs.Admission
import Tollgate.Proofs.WindowEnd
import Tollgate.Proofs.ReportedAddresses
import Tollgate.Proofs.ExpiredCaps
import Tollgate.Proofs.OnlineListing
import Tollgate.Proofs.RosterComparison
import Tollgate.Proofs.RuleMatching
import Tollgate.Proofs.WireRoundTrips
import Tollgate.Proofs.ReportCalls
