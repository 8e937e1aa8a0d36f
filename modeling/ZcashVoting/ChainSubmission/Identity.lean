import ZcashVoting.Lib.Framing
import ZcashVoting.Types

/-!
# ZcashVoting.ChainSubmission.Identity

What a submission is about: its wallet, network, round, bundle and target.  A
`ChainSubmissionIdentity` carries the checks of its constructor as fields, so an
identity with an empty wallet, a non-canonical round or an unsupported proposal
does not exist.
-/

namespace ZcashVoting

open Framing

/-- What one chain submission casts. -/
inductive ChainSubmissionTarget where
  | delegation
  | vote (proposalId : Nat)
  | voteBatch (orderedBatchDigest : Bytes32)
  | delegateAndVoteBatch (orderedBatchDigest : Bytes32)
  deriving DecidableEq

namespace ChainSubmissionTarget

/-- The digest that names a batch, for the two batch targets. -/
def batchDigest : ChainSubmissionTarget → Option Bytes32
  | .voteBatch digest | .delegateAndVoteBatch digest => some digest
  | _ => none

/-- Combined delegate-and-vote batches. -/
def isCombined : ChainSubmissionTarget → Bool
  | .delegateAndVoteBatch _ => true
  | _ => false

/-- The targets that carry a bundle's delegation
(`kind IN ('delegation','delegate_and_cast_vote_batch')`). -/
def ownsDelegation : ChainSubmissionTarget → Bool
  | .delegation | .delegateAndVoteBatch _ => true
  | _ => false

/-- The vote targets: everything that consumes a bundle's delegation output
(`kind IN ('vote','vote_batch','delegate_and_cast_vote_batch')`). -/
def castsVotes : ChainSubmissionTarget → Bool
  | .delegation => false
  | _ => true

/-- Only a single vote names its proposal, and it must be on the ballot. -/
def Valid : ChainSubmissionTarget → Prop
  | .vote proposalId => minProposalId ≤ proposalId ∧ proposalId ≤ maxProposalId
  | _ => True

instance (target : ChainSubmissionTarget) : Decidable target.Valid := by
  cases target <;> unfold Valid <;> infer_instance

end ChainSubmissionTarget

theorem leValue_zero_lt : leValue (Bytes32.fill 0).val < pallasModulus := by decide

/-- A round identifier is a canonical little-endian Pallas field element
(`validate_vote_round_id_bytes`). -/
abbrev VoteRoundId := { round : Bytes32 // leValue round.val < pallasModulus }

/-- Identity of one submission. -/
structure ChainSubmissionIdentity where
  walletId : String
  network : Network
  voteRoundId : VoteRoundId
  bundleIndex : Nat
  target : ChainSubmissionTarget
  walletId_ne : walletId ≠ ""
  bundleIndex_le : bundleIndex ≤ u32Max
  target_valid : target.Valid
  deriving DecidableEq

/-- The bundle a submission belongs to, as the tables key it. -/
structure BundleKey where
  roundId : VoteRoundId
  walletId : String
  bundleIndex : Nat
  deriving DecidableEq

namespace ChainSubmissionIdentity

/-- The `round_id`, `wallet_id` and `bundle_index` columns of the identity. -/
def bundleKey (identity : ChainSubmissionIdentity) : BundleKey :=
  ⟨identity.voteRoundId, identity.walletId, identity.bundleIndex⟩

/-- Same wallet, network, round and bundle. -/
def SameBundle (a b : ChainSubmissionIdentity) : Prop :=
  a.network = b.network ∧ a.bundleKey = b.bundleKey

instance (a b : ChainSubmissionIdentity) : Decidable (a.SameBundle b) :=
  inferInstanceAs (Decidable (_ ∧ _))

theorem SameBundle.symm {a b : ChainSubmissionIdentity} (h : a.SameBundle b) : b.SameBundle a :=
  ⟨h.1.symm, h.2.symm⟩

end ChainSubmissionIdentity

/-- `submission_identity_key`: the primary key of an identity, every component of
variable length behind its length. -/
def submissionIdentityKey (identity : ChainSubmissionIdentity) : Bytes :=
  utf8 "zcash_voting.chain_submission.identity.v1\x00" ++
  [utf8 identity.walletId, utf8 (networkName identity.network), identity.voteRoundId.val.val].flatMap
    (framed 8) ++
  beBytes 4 identity.bundleIndex ++
  match identity.target with
  | .delegation => [0]
  | .vote proposalId => 1 :: beBytes 4 proposalId
  | .voteBatch digest => 2 :: digest.val
  | .delegateAndVoteBatch digest => 3 :: digest.val

/-- A SHA-256 digest of everything one submission is derived from. -/
abbrev ChainSubmissionGenerationDigest := Bytes32

/-- One semantic version of a submission: its identity and the digest of the
data it was derived from. -/
structure ChainSubmissionGeneration where
  identity : ChainSubmissionIdentity
  digest : ChainSubmissionGenerationDigest
  deriving DecidableEq

/-- Hash of a vote-chain transaction. -/
abbrev CandidateTransactionHash := Bytes32

end ZcashVoting
