import ZcashVoting.Vote.Preparation
import ZcashVoting.Confirmation
import ZcashVoting.ChainSubmission.Confirmation
import ZcashVoting.Phases

/-!
# ZcashVoting.Vote.BallotIntent

Ballot edits and roster retirement.  A decision that disagrees with a signed vote
retires the vote's recovery, the whole batch if it is a member of one, unless the
chain-submission lifecycle owns it.
-/

namespace ZcashVoting

open Transaction

section

variable (P : Primitives)

/-! ## Lifecycle ownership -/

/-- `vote_recovery_is_lifecycle_owned`: an unresolved submission, or a rejected batch,
still needs the recovery (a singleton by its proposal, a batch by its digest). -/
def voteRecoveryIsLifecycleOwned (bundle : BundleKey) (proposalId : Nat)
    (batchDigest : Option Bytes32) (db : Db) : Bool :=
  db.chainSubmissions.any fun key row =>
    key.bundleKey = bundle &&
    (row.state.isUnresolved || (row.state == .rejected && key.target.batchDigest.isSome)) &&
    (key.target = .vote proposalId ||
      (batchDigest.isSome && key.target.batchDigest = batchDigest))

end

end ZcashVoting
