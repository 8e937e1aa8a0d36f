import ZcashVoting.Storage.Db

/-!
# ZcashVoting.Primitives

Functions the model leaves open.  `sha256` and the sighashes are cryptography;
the wire bodies, the effects check and the reading of committed events are the
crate's own code, and no result here depends on what they compute.  Everything
is stated and proved for an arbitrary `Primitives`; what a result does need of
them is a named hypothesis of that result.
-/

namespace ZcashVoting

/-- The exact leaves a generation appends to the commitment tree
(`ExpectedTreeLayout`). -/
inductive ExpectedTreeLayout where
  | delegation (delegationVan : Bytes32)
  | vote (successorVan voteCommitment : Bytes32)
  | voteBatch (finalSuccessorVan : Bytes32) (voteCommitments : List Bytes32)
  deriving DecidableEq

/-- An event of a committed transaction. -/
structure TxEvent where
  eventType : String
  attributes : List (String × String)
  deriving DecidableEq

/-- Chain-ready delegation fields. -/
structure DelegationSubmission where
  proof : Bytes
  rk : Bytes32
  nfSigned : Bytes32
  cmxNew : Bytes32
  govComm : Bytes32
  govNullifiers : List Bytes32
  alpha : Bytes32
  voteRoundId : VoteRoundId
  spendAuthSig : Bytes64
  sighash : Bytes32
  tx1Effects : Bytes
  deriving DecidableEq

structure Primitives where
  /-- SHA-256. -/
  sha256 : Bytes → Bytes32
  /-- `cast_vote_batch_sighash`. -/
  castVoteBatchSighash :
    VoteRoundId → Nat → List CastVoteBatchSighashAction → Except VotingError Bytes32
  /-- `delegate_and_vote_batch_sighash`. -/
  delegateAndVoteBatchSighash :
    VoteRoundId → Bytes32 → List CastVoteBatchSighashAction → Except VotingError Bytes32
  /-- `tx1::validate_tx1_effects`. -/
  validateTx1Effects : Bytes → Except VotingError Unit
  /-- `verify_delegation_spend_auth_signature`: the signature over a sighash under a
  randomized key. -/
  verifyDelegationSpendAuthSignature : Bytes → Bytes → Bytes64 → Except VotingError Unit
  /-- The wire form of a delegation. -/
  delegationWire : DelegationSubmission → Except VotingError Bytes
  /-- The wire form of a vote (`VoteCommitmentWire::try_from`). -/
  voteWire : VoteSubmission → Except VotingError Bytes
  /-- `DelegateAndVoteBatchWire::authorization_digest`. -/
  authorizationDigest : Bytes → List Bytes → Except VotingError Bytes32
  /-- The final VAN position and the vote-commitment positions that the events of
  a committed transaction report for a generation. -/
  committedPositions : ChainSubmissionGeneration → ExpectedTreeLayout → List Nat →
    List TxEvent → Except VotingError (Nat × List Nat)

end ZcashVoting
