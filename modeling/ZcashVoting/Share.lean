import ZcashVoting.Vote.Preparation

/-!
# ZcashVoting.Share

Helper shares: the payload a helper server is sent for one encrypted share of a
vote, rebuilt from the vote's recovery bundle, and the durable record of where the
share was delivered.
-/

namespace ZcashVoting

open Transaction

/-- `WireEncryptedShare`: the public part of an encrypted share. -/
structure WireEncryptedShare where
  c1 : Bytes
  c2 : Bytes
  shareIndex : Nat
  deriving DecidableEq

def EncryptedShare.wire (share : EncryptedShare) : WireEncryptedShare :=
  ⟨share.c1, share.c2, share.shareIndex⟩

/-- `SharePayload`: what one helper receives. -/
structure SharePayload where
  voteRoundId : VoteRoundId
  sharesHash : Bytes32
  proposalId : Nat
  voteDecision : Nat
  encShare : WireEncryptedShare
  treePosition : Nat
  allEncShares : List WireEncryptedShare
  shareComms : List Bytes32
  primaryBlind : Bytes32
  deriving DecidableEq

/-- `validate_recovery_bundle_vote_fields`; the round id is canonical by its type. -/
def validateRecoveryBundleVoteFields (bundle : VoteRecoveryBundle) : Except VotingError Unit := do
  validateProposalId bundle.proposalId
  validateVoteDecision bundle.voteDecision bundle.numOptions

/-- `recover_payloads`: the payloads of a recovery bundle, only the first when the vote
was committed as a single share. -/
def recoverPayloads (bundle : VoteRecoveryBundle) : Except VotingError (List SharePayload) := do
  validateRecoveryBundleVoteFields bundle
  let allEncShares := bundle.encryptedShares.map EncryptedShare.wire
  let iterShares := if bundle.singleShare then allEncShares.take 1 else allEncShares
  iterShares.zipIdx.mapM fun (share, idx) =>
    match bundle.shareBlinds[idx]? with
    | none => .error (.invalidInput s!"missing primary blind for encrypted share index {idx}")
    | some primaryBlind => .ok
        { voteRoundId := bundle.voteRoundId
          sharesHash := bundle.sharesHash
          proposalId := bundle.proposalId
          voteDecision := bundle.voteDecision
          encShare := share
          treePosition := bundle.vcTreePosition
          allEncShares
          shareComms := bundle.shareComms
          primaryBlind }

/-- `ShareDelegationRecord`: delivery and confirmation state of one committed share. -/
structure ShareDelegationRecord where
  roundId : VoteRoundId
  bundleIndex : Nat
  proposalId : Nat
  shareIndex : Nat
  /-- Helpers that definitely acknowledged the share. -/
  sentToUrls : List String
  /-- Helpers whose acceptance outcome is unknown. -/
  ambiguousUrls : List String
  /-- Helpers whose POST was recorded before dispatch and has no outcome yet. -/
  attemptingUrls : List String
  /-- Desired number of definite placements; zero in records older than targets. -/
  targetCount : Nat
  nullifier : Bytes
  confirmed : Bool
  /-- Unix seconds, zero for an immediate share. -/
  submitAt : Nat
  createdAt : Nat
  deriving DecidableEq

end ZcashVoting
