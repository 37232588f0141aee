import QuipNet.Relay
import QuipNet.Membership
import QuipNet.JsonText
import QuipNet.SignedArtifacts
import QuipNet.RelayAccounting
import QuipNet.RelayAdmission
import QuipNet.RelayTable
import QuipNet.Control
import QuipNet.DaemonState
import QuipNet.Paths
import QuipNet.AuthorityFacts
import QuipNet.NetworkIsolation
import QuipNet.RevocationLaws
import QuipNet.RelayClasses
import QuipNet.Calendar
import QuipNet.Adapter
import QuipNet.Quic
import QuipNet.SessionEffects
import QuipNet.SessionOutcomes
import QuipNet.AdapterHistory
import QuipNet.AdapterOutcomes
import QuipNet.Reevaluation
import QuipNet.Library.Loop
import QuipNet.ReevaluationTurns
import QuipNet.ControlPlane
import QuipNet.ReevaluationPass
import QuipNet.AuthorityEnforcement
import QuipNet.PolicyGates
import QuipNet.ValidityWindows
import QuipNet.Library.SharedCell
import QuipNet.StateFileRuns
import QuipNet.IdentityBinding
import QuipNet.Daemon
import QuipNet.Seeding
import QuipNet.Library.Handles
import QuipNet.RelaySessions
import QuipNet.RelaySessionRuns
import QuipNet.RelayFailures
import QuipNet.Library.Cursor
import QuipNet.Authority
import QuipNet.AuthorityStore
import QuipNet.EnrollmentTokens
import QuipNet.IssueRaces
import QuipNet.RevocationSync
import QuipNet.Library.Upsert
import QuipNet.Library.Recent
import QuipNet.Library.File
import QuipNet.Keystore
import QuipNet.Cycle
import QuipNet.TargetSession
import QuipNet.Reconnects
import QuipNet.Watcher
import QuipNet.Coherence
import QuipNet.Library.Interaction
import QuipNet.TransportCalls
import QuipNet.ReconciliationTurns
import QuipNet.MigrationCalls
import QuipNet.FinalStates
import QuipNet.DegradedSessions
import QuipNet.FailedUpgrades
import QuipNet.CycleAgreement
import QuipNet.ReconciliationReports
import QuipNet.ReconciliationFixedPoint
import QuipNet.ReevaluationCounts
import QuipNet.PolicyCauses
import QuipNet.ListenerView
import QuipNet.Library.Cover
import QuipNet.RuntimePaths
import QuipNet.RuntimeHealth
import QuipNet.SessionLedger
import QuipNet.SyncTriggers
import QuipNet.Library.FirstLeast
import QuipNet.Library.Raises
import QuipNet.RouteSearch
import QuipNet.PathScores
import QuipNet.Library.LastWrite
import QuipNet.PeerEntries
import QuipNet.RouteKinds
import QuipNet.RouteTriggers
import QuipNet.SelectionCosts
import QuipNet.Library.Replacement
import QuipNet.SnapshotMerges
import QuipNet.RelayMapUpdates
import QuipNet.ProtocolNegotiation
import QuipNet.Library.Text
import QuipNet.SubjectSelection
import QuipNet.SessionIdText
import QuipNet.DurableState
import QuipNet.StateMigration
import QuipNet.Backups
import QuipNet.BackupRestores
import QuipNet.BackoffSchedule
import QuipNet.SessionIdBytes
import QuipNet.BootstrapHints
import QuipNet.EventTimestamps
import QuipNet.ControlApi
import QuipNet.ControlServer
import QuipNet.Http
import QuipNet.ControlRequests
import QuipNet.NodeRuns
import QuipNet.NodeInvariants
import QuipNet.NodeInterleavings
import QuipNet.ControlAnswers
import QuipNet.Diagnosis
import QuipNet.RelayServer
import QuipNet.HttpRelayControl
import QuipNet.RelayFleet
import QuipNet.RelayServerRuns
import QuipNet.RelayConnects
import QuipNet.AuthorityNode
import QuipNet.SyncedNodes
