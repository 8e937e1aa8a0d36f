import ZcashVoting.Lib.Table
import ZcashVoting.ChainSubmission.Result
import ZcashVoting.Vote.Recovery
import ZcashVoting.SharePolicy

/-!
# ZcashVoting.Storage.Db

The tables of the sidecar database that the modelled code reads and writes, as
`migrations/001_init.sql` declares them.  Each table is keyed by its primary
key, so two rows under one key do not exist.  Integer columns hold the
non-negative values the code writes.
-/

namespace ZcashVoting

/-- Primary key of `rounds`. -/
structure RoundKey where
  roundId : VoteRoundId
  walletId : String
  deriving DecidableEq

/-- Key of `votes`. -/
structure VoteKey where
  bundle : BundleKey
  proposalId : Nat
  deriving DecidableEq

/-- Primary key of `share_delegations`. -/
structure ShareKey where
  vote : VoteKey
  shareIndex : Nat
  deriving DecidableEq

def BundleKey.round (key : BundleKey) : RoundKey := ⟨key.roundId, key.walletId⟩

/-- `RoundPhase`: how far a round has come, as a high-water mark. -/
inductive RoundPhase where
  | initialized
  | hotkeyGenerated
  | delegationConstructed
  | delegationProved
  | voteReady
  deriving DecidableEq

structure RoundRow where
  network : Network
  eaPk : Bytes
  phase : RoundPhase
  bundlePolicyJson : Option String := none
  deriving DecidableEq

/-- `bundles`: the delegation setup of one bundle and what the chain has said
about it. -/
structure BundleRow where
  notePositionsBlob : Option Bytes := none
  noteIdentityHashesBlob : Option Bytes := none
  vanCommRand : Option Bytes := none
  dummyNullifiers : Option Bytes := none
  rhoSigned : Option Bytes := none
  paddedNoteData : Option Bytes := none
  nfSigned : Option Bytes := none
  cmxNew : Option Bytes := none
  alpha : Option Bytes := none
  rseedSigned : Option Bytes := none
  rseedOutput : Option Bytes := none
  govComm : Option Bytes := none
  totalNoteValue : Option Nat := none
  addressIndex : Option Nat := none
  vanLeafPosition : Option Nat := none
  rk : Option Bytes := none
  govNullifiersBlob : Option Bytes := none
  paddedNoteSecrets : Option Bytes := none
  pcztSighash : Option Bytes := none
  tx1Effects : Option Bytes := none
  delegationTxHash : Option CandidateTransactionHash := none
  delegationPczt : Option Bytes := none
  deriving DecidableEq

structure ProofRow where
  proof : Option Bytes
  success : Bool
  deriving DecidableEq

structure VoteRow where
  choice : Nat
  commitment : Option StoredVoteCommitment
  txHash : Option CandidateTransactionHash
  vcTreePosition : Option Nat
  /-- `commitment_bundle_json`. -/
  recovery : Option VoteRecoveryBundle
  deriving DecidableEq

/-- `ballot_intent`: skipped without a choice, or a choice. -/
inductive BallotIntent where
  | skipped
  | choice (choice : Nat)
  deriving DecidableEq

/-- `chain_submissions`: the mutable columns of one submission.  The immutable
identity columns are the table's key. -/
structure ChainSubmissionRow where
  generationDigest : ChainSubmissionGenerationDigest
  state : ChainSubmissionState
  candidateTransactionHash : Option CandidateTransactionHash
  committedPostReservations : Nat
  trackingStartedAt : Option Nat
  diagnosticKind : Option ChainSubmissionDiagnosticKind
  diagnostic : Option String
  confirmationSource : Option ChainSubmissionConfirmationSource
  confirmedTransactionHash : Option CandidateTransactionHash
  finalVanPosition : Option Nat
  voteCommitmentPositions : Option (List Nat)
  createdAt : Nat
  updatedAt : Nat
  deriving DecidableEq

/-- `delegate_cast_recovery`: the public delegation authorization of a combined
batch. -/
structure DelegateCastRecoveryRow where
  delegationGenerationDigest : Bytes32
  spendAuthSignature : Bytes64
  deriving DecidableEq

/-- `combined_cast_rejections`: the rejection streak of a bundle's combined
batches. -/
structure CombinedCastRejectionRow where
  delegationGenerationDigest : Bytes32
  consecutiveRejections : Nat
  lastBatchDigest : Bytes32
  lastDiagnosticKind : ChainSubmissionDiagnosticKind
  lastDiagnostic : String
  firstRejectedAt : Nat
  lastRejectedAt : Nat
  deriving DecidableEq

/-- `witnesses`: the tree witness of one note of a bundle. -/
structure WitnessRow where
  noteCommitment : Bytes
  root : Bytes
  authPath : Bytes
  deriving DecidableEq

/-- `keystone_signatures`: the signature an external device made over a bundle. -/
structure KeystoneSignatureRow where
  sig : Bytes
  sighash : Bytes
  rk : Bytes
  deriving DecidableEq

/-- `share_delegations`: where one committed share was delivered. -/
structure ShareDelegationRow where
  sentToUrls : List String
  ambiguousUrls : List String
  attemptingUrls : List String
  targetCount : Nat
  nullifier : Bytes
  confirmed : Bool
  submitAt : Nat
  createdAt : Nat
  deriving DecidableEq

/-- `helper_share_plans`: the delivery plan of one committed vote. -/
structure HelperSharePlanRow where
  /-- `commitment_bundle_json`: the recovery the plan is bound to. -/
  recovery : VoteRecoveryBundle
  configuredServerUrls : List String
  sharePlans : List ShareSubmissionPlan
  formatVersion : Nat
  placementGuarantee : SharePlacementGuarantee
  deriving DecidableEq

/-- The database. -/
structure Db where
  rounds : Table RoundKey RoundRow := ∅
  bundles : Table BundleKey BundleRow := ∅
  proofs : Table BundleKey ProofRow := ∅
  votes : Table VoteKey VoteRow := ∅
  ballotIntent : Table (RoundKey × Nat) BallotIntent := ∅
  chainSubmissions : Table ChainSubmissionIdentity ChainSubmissionRow := ∅
  delegateCastRecovery : Table (BundleKey × Bytes32) DelegateCastRecoveryRow := ∅
  combinedCastRejections : Table BundleKey CombinedCastRejectionRow := ∅
  witnesses : Table (BundleKey × Nat) WitnessRow := ∅
  keystoneSignatures : Table BundleKey KeystoneSignatureRow := ∅
  shareDelegations : Table ShareKey ShareDelegationRow := ∅
  helperSharePlans : Table VoteKey HelperSharePlanRow := ∅
  roundImmediateShare : Table RoundKey ImmediateShareKey := ∅

namespace Db

/-- The recoveries stored on one bundle, in table order. -/
def bundleRecoveries (db : Db) (bundle : BundleKey) : List VoteRecoveryBundle :=
  db.votes.rows.filterMap fun (key, row) => if key.bundle = bundle then row.recovery else none

/-- The foreign key from `votes` to `bundles`. -/
def VotesReferenceBundles (db : Db) : Prop :=
  ∀ key row, db.votes.lookup key = some row → (db.bundles.lookup key.bundle).isSome

instance (db : Db) : Decidable db.VotesReferenceBundles :=
  decidable_of_iff (∀ row ∈ db.votes.rows, (db.bundles.lookup row.1.bundle).isSome = true)
    ⟨fun h key row hrow => h (key, row) (Table.mem_rows.mpr hrow),
      fun h row hrow => h row.1 row.2 (Table.mem_rows.mp hrow)⟩

/-- `queries::load_round_network`. -/
def loadRoundNetwork (db : Db) (key : RoundKey) : Except VotingError Network :=
  match db.rounds.lookup key with
  | some round => .ok round.network
  | none =>
    let round := hex key.roundId.val.val
    .error (.invalidInput s!"round not found: {round}")

end Db

end ZcashVoting
