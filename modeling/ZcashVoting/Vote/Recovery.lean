import Mathlib.Data.List.Sort
import ZcashVoting.ChainSubmission.Identity

/-!
# ZcashVoting.Vote.Recovery

The recovery bundle of a signed vote: everything needed to submit it again.  A
bundle is a singleton, or one ordered member of an atomic batch that is
submitted as a whole.  The column `commitment_bundle_json` holds the bundle in
the crate's own JSON format; the model keeps the bundle itself.
-/

namespace ZcashVoting

structure EncryptedShare where
  c1 : Bytes
  c2 : Bytes
  shareIndex : Nat
  plaintextValue : Nat
  randomness : Bytes
  deriving DecidableEq

/-- Recovery metadata shared by the actions of one atomic vote batch. -/
structure VoteBatchRecovery where
  /-- Initial VAN of a combined batch; absent for ordinary batches. -/
  delegationVan : Option Bytes32
  digest : Bytes32
  index : Nat
  size : Nat
  deriving DecidableEq

structure VoteRecoveryBundle where
  voteRoundId : VoteRoundId
  bundleIndex : Nat
  proposalId : Nat
  voteDecision : Nat
  anchorHeight : Nat
  vcTreePosition : Nat
  singleShare : Bool
  numOptions : Nat
  vanNullifier : Bytes32
  voteAuthorityNoteNew : Bytes32
  voteCommitment : Bytes32
  proof : Bytes
  sharesHash : Bytes32
  rVpk : Bytes32
  alphaV : Bytes32
  voteAuthSig : Bytes64
  encryptedShares : List EncryptedShare
  shareBlinds : List Bytes32
  shareComms : List Bytes32
  batch : Option VoteBatchRecovery
  deriving DecidableEq

/-- Chain-ready cast-vote fields. -/
structure VoteSubmission where
  voteRoundId : VoteRoundId
  proposalId : Nat
  vanNullifier : Bytes32
  voteAuthorityNoteNew : Bytes32
  voteCommitment : Bytes32
  proof : Bytes
  rVpk : Bytes32
  voteAuthSig : Bytes64
  anchorHeight : Nat
  deriving DecidableEq

/-- The JSON object of the `commitment` column
(`stored_vote_commitment_bytes`). -/
structure StoredVoteCommitment where
  vanNullifier : Bytes32
  voteAuthorityNoteNew : Bytes32
  voteCommitment : Bytes32
  proof : Bytes
  deriving DecidableEq

/-- One action of a batch as its sighash reads it. -/
structure CastVoteBatchSighashAction where
  rVpk : Bytes32
  vanNullifier : Bytes32
  voteAuthorityNoteNew : Bytes32
  voteCommitment : Bytes32
  proposalId : Nat
  deriving DecidableEq

namespace VoteRecoveryBundle

/-- `stored_vote_commitment_bytes`: confirmation-only fields are excluded. -/
def storedVoteCommitment (bundle : VoteRecoveryBundle) : StoredVoteCommitment :=
  ⟨bundle.vanNullifier, bundle.voteAuthorityNoteNew, bundle.voteCommitment, bundle.proof⟩

/-- `submission_from_recovery`. -/
def submission (bundle : VoteRecoveryBundle) : VoteSubmission :=
  ⟨bundle.voteRoundId, bundle.proposalId, bundle.vanNullifier, bundle.voteAuthorityNoteNew,
    bundle.voteCommitment, bundle.proof, bundle.rVpk, bundle.voteAuthSig, bundle.anchorHeight⟩

def sighashAction (bundle : VoteRecoveryBundle) : CastVoteBatchSighashAction :=
  ⟨bundle.rVpk, bundle.vanNullifier, bundle.voteAuthorityNoteNew, bundle.voteCommitment,
    bundle.proposalId⟩

/-- The digest of the batch a bundle belongs to. -/
def batchDigest? (bundle : VoteRecoveryBundle) : Option Bytes32 := bundle.batch.map (·.digest)

/-- The initial VAN of the combined batch a bundle belongs to. -/
def delegationVan? (bundle : VoteRecoveryBundle) : Option Bytes32 :=
  bundle.batch.bind (·.delegationVan)

/-- The bundle's place in its batch. -/
def batchIndex (bundle : VoteRecoveryBundle) : Nat := (bundle.batch.map (·.index)).getD 0

end VoteRecoveryBundle

/-- `ensure_singleton_vote_recovery`. -/
def ensureSingletonVoteRecovery (recovery : VoteRecoveryBundle) : Except VotingError Unit :=
  if recovery.batch.isSome then
    .error (.invalidInput
      "vote belongs to an atomic batch; use the complete batch lifecycle instead of a per-vote API")
  else .ok ()

/-- `vote_recovery_identity_mismatch_error`. -/
def voteRecoveryIdentityMismatchError (roundId : VoteRoundId) (bundleIndex proposalId : Nat)
    (field : String) : VotingError :=
  let round := hex roundId.val.val
  .invalidInput
    s!"vote recovery bundle {field} mismatch for round={round}, bundle={bundleIndex}, proposal={proposalId}"

/-- `validate_recovery_matches_stored_vote`. -/
def validateRecoveryMatchesStoredVote (recovery : VoteRecoveryBundle) (roundId : VoteRoundId)
    (bundleIndex proposalId storedChoice : Nat) (storedCommitment : Option StoredVoteCommitment) :
    Except VotingError Unit :=
  let mismatch := voteRecoveryIdentityMismatchError roundId bundleIndex proposalId
  if recovery.voteRoundId ≠ roundId then .error (mismatch "round_id")
  else if recovery.bundleIndex ≠ bundleIndex then .error (mismatch "bundle_index")
  else if recovery.proposalId ≠ proposalId then .error (mismatch "proposal_id")
  else if recovery.voteDecision ≠ storedChoice then .error (mismatch "vote_decision")
  else match storedCommitment with
    | some commitment =>
      if commitment ≠ recovery.storedVoteCommitment then .error (mismatch "commitment") else .ok ()
    | none => .ok ()

/-! ## Batches -/

section Batches

variable (castVoteBatchSighash :
    VoteRoundId → Nat → List CastVoteBatchSighashAction → Except VotingError Bytes32)
  (delegateAndVoteBatchSighash :
    VoteRoundId → Bytes32 → List CastVoteBatchSighashAction → Except VotingError Bytes32)

/-- `assemble_vote_batch_recoveries`: select, order and validate the members of
one batch among the recoveries persisted on its bundle. -/
def assembleVoteBatchRecoveries (roundId : VoteRoundId) (bundleIndex : Nat) (batchDigest : Bytes32)
    (candidates : List VoteRecoveryBundle) : Except VotingError (List VoteRecoveryBundle) :=
  let recoveries :=
    (candidates.filter fun recovery => recovery.batchDigest? = some batchDigest).insertionSort
      fun a b => a.batchIndex ≤ b.batchIndex
  match recoveries with
  | [] =>
    let round := hex roundId.val.val
    let digest := hex batchDigest.val
    .error (.invalidInput
      s!"vote batch recovery not found for round={round}, bundle={bundleIndex}, digest={digest}")
  | first :: rest => do
    let expectedSize := (first.batch.map (·.size)).getD 0
    if recoveries.length ≠ expectedSize ∨
        recoveries.map (fun r => r.batch.map fun b => (b.digest, b.index, b.size)) ≠
          (List.range recoveries.length).map fun i => some (batchDigest, i, expectedSize) then
      throw (.invalidInput "persisted atomic vote batch is incomplete or out of order")
    let initialVan := first.delegationVan?
    if (first :: rest).any fun r => r.delegationVan? ≠ initialVan ||
        (initialVan.isSome && r.anchorHeight != 0) then
      throw (.invalidInput "inconsistent combined batch authorization")
    let actions := recoveries.map VoteRecoveryBundle.sighashAction
    let recomputed ← match initialVan with
      | some van => delegateAndVoteBatchSighash roundId van actions
      | none => castVoteBatchSighash roundId first.anchorHeight actions
    if recomputed ≠ batchDigest then
      throw (.invalidInput "persisted atomic vote batch digest does not match its actions")
    return recoveries

end Batches

end ZcashVoting
