import ZcashVoting.Lib.Transaction
import ZcashVoting.Lib.Table
import ZcashVoting.Lib.Interaction
import ZcashVoting.Types
import ZcashVoting.ChainSubmission.Identity
import ZcashVoting.ChainSubmission.Result
import ZcashVoting.ChainSubmission.State
import ZcashVoting.Vote.Recovery
import ZcashVoting.Storage.Db
import ZcashVoting.Primitives
import ZcashVoting.ChainSubmission.Generation
import ZcashVoting.ChainSubmission.Store
import ZcashVoting.Vote.Retirement
import ZcashVoting.Confirmation
import ZcashVoting.ChainSubmission.Confirmation
import ZcashVoting.ChainSubmission.Store.Sqlite
import ZcashVoting.ChainSubmission.Store.Steps
import ZcashVoting.ChainSubmission.Store.Operations
import ZcashVoting.ChainSubmission.Store.Runs
import ZcashVoting.ChainSubmission.Store.Causality
import ZcashVoting.ChainSubmission.Store.Bookkeeping
import ZcashVoting.ChainSubmission.Store.HashOwnership
import ZcashVoting.ChainSubmission.Protocol
import ZcashVoting.ChainSubmission.Coordinator
import ZcashVoting.Vote.Preparation
import ZcashVoting.Vote.BallotIntent
import ZcashVoting.ChainSubmission.Store.Schema
import ZcashVoting.Lib.Framing
import ZcashVoting.ChainSubmission.Store.Columns
import ZcashVoting.ChainSubmission.Store.RoundTrip
import ZcashVoting.ChainSubmission.Transcript
import ZcashVoting.Vote.Batch
import ZcashVoting.Confirmation.Growth
import ZcashVoting.Confirmation.Replay
import ZcashVoting.ChainSubmission.Store.Replay
import ZcashVoting.Lib.Locks
import ZcashVoting.ChainSubmission.Coordination
import ZcashVoting.Share
import ZcashVoting.RoundPlanning.Lifecycle
import ZcashVoting.RoundPlanning.Snapshot
import ZcashVoting.RoundPlanning.VoteUnits
import ZcashVoting.RoundPlanning.Classify
import ZcashVoting.RoundPlanning.LiveVotes
import ZcashVoting.Delegation.Setup
import ZcashVoting.Delegation.BroadcastSetup
import ZcashVoting.Lib.Errors
import ZcashVoting.RoundPlanning.UnitPartition
import ZcashVoting.RoundPlanning.PassLedger
import ZcashVoting.RoundPlanning.Coverage
import ZcashVoting.RoundPlanning.Projection
import ZcashVoting.RoundPlanning.NoPanic
import ZcashVoting.SharePolicy
import ZcashVoting.Storage.Triggers
import ZcashVoting.Phases
import ZcashVoting.ShareTracking.ImmediateShare
import ZcashVoting.ShareTracking.PlannedCast
import ZcashVoting.Lib.LeastLoaded
import ZcashVoting.Helper.Url
import ZcashVoting.SharePolicy.ServerOrder
import ZcashVoting.SharePolicy.InitialPlacement
import ZcashVoting.SharePolicy.BatchBalance
import ZcashVoting.ShareTracking.DeliveryPlan
import ZcashVoting.ShareTracking.Placement
import ZcashVoting.Lib.SortedSet
import ZcashVoting.Lib.Reader
import ZcashVoting.Lib.Simulation
import ZcashVoting.Lib.Keyspace
import ZcashVoting.VoteCommitmentTree.Serde
import ZcashVoting.VoteCommitmentTree.ShardStore
import ZcashVoting.VoteCommitmentTree.KvShardStore
import ZcashVoting.VoteCommitmentTree.Refinement
import ZcashVoting.VoteCommitmentTree.KvFailures
import ZcashVoting.Lib.Merkle
import ZcashVoting.Lib.Stateful
import ZcashVoting.VoteCommitmentTree.ShardTree
import ZcashVoting.VoteCommitmentTree.Client
import ZcashVoting.VoteCommitmentTree.Client.Tip
import ZcashVoting.VoteCommitmentTree.Client.Applied
import ZcashVoting.VoteCommitmentTree.Client.Hostile
import ZcashVoting.TreeSync
import ZcashVoting.TreeSync.Verified
import ZcashVoting.Lib.Canonical
import ZcashVoting.NoteBundling
import ZcashVoting.NoteBundling.Packing
import ZcashVoting.Delegation.Discard
import ZcashVoting.RoundPlanning.LifecycleHashes
import ZcashVoting.Vote.Assembly
import ZcashVoting.Vote.AtomicRetirement
import ZcashVoting.ChainSubmission.Coordinator.PostEvidence
import ZcashVoting.ChainSubmission.Episode
import ZcashVoting.Texts
import ZcashVoting.Lib.JsonFormat
import ZcashVoting.ChainSubmission.IdentityKeys
import ZcashVoting.Lib.Shedding
import ZcashVoting.NoteBundling.PrivacyTrim
import ZcashVoting.VoteCommitmentTree.Path
import ZcashVoting.VoteCommitmentTree.Server
import ZcashVoting.VoteCommitmentTree.Convergence
import ZcashVoting.RoundDrive.Selection
import ZcashVoting.RoundDrive.Steps
import ZcashVoting.RoundDrive.Signing
import ZcashVoting.RoundPlanning.PassRules
import ZcashVoting.RoundDrive.Tally
import ZcashVoting.Lib.Trace
import ZcashVoting.VoteCommitment.Sighash
import ZcashVoting.Config.Mirrors
import ZcashVoting.ProvingRuntime.Admission
import ZcashVoting.DelegationProof.SingleFlight
import ZcashVoting.ShareDelivery.Capacity
import ZcashVoting.HttpTransport
import ZcashVoting.Lib.WeakRegistry
import ZcashVoting.ShareDelivery.ImmediateGate
import ZcashVoting.Helper.UrlIdentity
import ZcashVoting.ShareTracking.Admission
import ZcashVoting.VoteCommitmentTree.HttpSync
import ZcashVoting.Helper.Health
import ZcashVoting.ShareTracking.StatusPolls
