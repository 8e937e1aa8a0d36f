import ZcashVoting.Confirmation
import ZcashVoting.ChainSubmission.Store

/-!
# ZcashVoting.ChainSubmission.Confirmation

What a lifecycle transition does to the rows its generation was derived from:
a confirmed generation is projected onto the delegation and vote rows, and a
terminally rejected combined generation is retired.
-/

namespace ZcashVoting

open Transaction

/-- `validate_hash_confirmation` and, for an imported delegation,
`validate_imported_delegation_confirmation`: the positions that the committed
events report, as a confirmation by the candidate's hash. -/
def validateHashConfirmation (P : Primitives) (derived : DerivedChainSubmission)
    (transactionHash : CandidateTransactionHash) (events : List TxEvent) :
    Except VotingError ValidatedChainSubmissionConfirmation := do
  let (finalVan, positions) ← P.committedPositions derived.generation derived.expectedLayout
    derived.orderedProposalIds events
  match ValidatedChainSubmissionConfirmation.fromHash transactionHash finalVan positions with
  | .ok confirmation => return confirmation
  | .error message => throw (.invalidInput message)

/-- The ledger row after one more rejection: the streak restarts with every new
delegation generation, and within one the times never move backwards. -/
def rejectionLedgerRow (previous : Option CombinedCastRejectionRow)
    (delegationGenerationDigest batchDigest : Bytes32) (diagnostic : ChainSubmissionDiagnostic)
    (now : Nat) : CombinedCastRejectionRow :=
  let restarted : CombinedCastRejectionRow :=
    { delegationGenerationDigest, consecutiveRejections := 1, lastBatchDigest := batchDigest
      lastDiagnosticKind := diagnostic.kind, lastDiagnostic := diagnostic.message
      firstRejectedAt := now, lastRejectedAt := now }
  match previous with
  | some row =>
    if row.delegationGenerationDigest = delegationGenerationDigest then
      { restarted with
        consecutiveRejections := row.consecutiveRejections + 1
        firstRejectedAt := row.firstRejectedAt
        lastRejectedAt := max row.lastRejectedAt now }
    else restarted
  | none => restarted

/-- `record_combined_rejection`.  A time past `i64::MAX` wraps to a negative one,
which the table's `CHECK` refuses before the conflict clause runs. -/
def recordCombinedRejection (bundle : BundleKey)
    (delegationGenerationDigest batchDigest : Bytes32) (diagnostic : ChainSubmissionDiagnostic)
    (now : Nat) : Txn Db VotingError Unit :=
  write fun db =>
    if i64Max < now then
      .error (.storage "record combined cast rejection: CHECK constraint failed: first_rejected_at >= 0")
    else .ok { db with
      combinedCastRejections := db.combinedCastRejections.insert bundle
        (rejectionLedgerRow (db.combinedCastRejections.lookup bundle) delegationGenerationDigest
          batchDigest diagnostic now) }

/-- `retire_rejected_combined_generation`. -/
def retireRejectedCombinedGeneration (P : Primitives) (identity : ChainSubmissionIdentity)
    (diagnostic : ChainSubmissionDiagnostic) (now : Nat) : Txn Db VotingError Unit :=
  match identity.target with
  | .delegateAndVoteBatch digest => do
    let authorization ← read fun db =>
      match db.delegateCastRecovery.lookup (identity.bundleKey, digest) with
      | some row => .ok row
      | none => .error (.internal "rejected combined generation has no persisted authorization")
    let cleared ← clearVoteBatchRecovery P identity.bundleKey digest
    require (cleared ≠ [])
      (.internal "rejected combined generation has no persisted members")
    recordCombinedRejection identity.bundleKey authorization.delegationGenerationDigest digest
      diagnostic now
  | _ => abort (.internal "only a combined generation retires on rejection")

/-- `clear_combined_rejection_ledger`. -/
def clearCombinedRejectionLedger (bundle : BundleKey) : Txn Db VotingError Unit :=
  write fun db =>
    .ok { db with combinedCastRejections := db.combinedCastRejections.erase bundle }

/-- What a combined batch adds to the projection of its votes. -/
def applyCombinedConfirmation (bundle : BundleKey) (txHash : Option CandidateTransactionHash) :
    Txn Db VotingError Unit := do
  recordDelegationHash bundle txHash
  clearCombinedRejectionLedger bundle

/-- `apply_confirmed_generation`. -/
def applyConfirmedGeneration (P : Primitives) (bound : BoundGeneration)
    (confirmation : ValidatedChainSubmissionConfirmation) : Txn Db VotingError Unit :=
  let identity := bound.generation.identity
  let bundle := identity.bundleKey
  let value := confirmation.confirmation
  let positions := value.voteCommitmentPositions
  let mismatch : Txn Db VotingError Unit := abort (.invalidInput
    "confirmed positions do not match the semantic generation layout")
  let batch (digest : Bytes32) (commitments : List Bytes32) : Txn Db VotingError Unit :=
    if positions.length = commitments.length ∧
        bound.orderedProposalIds.length = positions.length then do
      applyVoteBatchConfirmation P bundle digest value.transactionHash value.finalVanPosition
        positions bound.orderedProposalIds
      if identity.target.isCombined then
        applyCombinedConfirmation bundle value.transactionHash
    else mismatch
  match identity.target, bound.expectedLayout with
  | .delegation, .delegation _ =>
    if positions = [] then
      applyDelegationConfirmation bundle value.transactionHash value.finalVanPosition
    else mismatch
  | .vote proposalId, .vote _ _ =>
    match positions with
    | [position] => applyVoteConfirmation ⟨bundle, proposalId⟩ value.transactionHash
        value.finalVanPosition position
    | _ => mismatch
  | .voteBatch digest, .voteBatch _ commitments => batch digest commitments
  | .delegateAndVoteBatch digest, .voteBatch _ commitments => batch digest commitments
  | _, _ => mismatch

end ZcashVoting
