import ZcashVoting.Lib.Transaction
import ZcashVoting.ChainSubmission.Generation
import ZcashVoting.Storage.Triggers

/-!
# ZcashVoting.Vote.Retirement

Writes to signed votes inside a caller's transaction: retiring a recovery that
never reached the chain, and recording where a confirmed one landed.
-/

namespace ZcashVoting

open Transaction

/-- `round={…}, bundle={…}, proposal={…}`, as the vote errors name a vote. -/
def VoteKey.display (key : VoteKey) : String :=
  let round := hex key.bundle.roundId.val.val
  let bundle := key.bundle.bundleIndex
  let proposal := key.proposalId
  s!"round={round}, bundle={bundle}, proposal={proposal}"

/-- `vote_not_found_error`. -/
def voteNotFoundError (key : VoteKey) : VotingError :=
  .invalidInput ("vote not found for " ++ key.display)

/-- `clear_unsubmitted_vote_recovery_with_conn`: forget the recovery of a vote
that never reached the chain, and its helper shares. -/
def clearUnsubmittedVoteRecovery (key : VoteKey) : Txn Db VotingError Unit :=
  write fun db =>
    match db.votes.lookup key with
    | some row =>
      if row.txHash.isNone && row.vcTreePosition.isNone then
        .ok ((db.setVote key { row with recovery := none }).deleteShares key)
      else changed
    | none => changed
where
  changed : Except VotingError Db :=
    .error (.invalidInput
      ("vote recovery changed before it could be retired for " ++ key.display))

/-- `retire_combined_authorization_with_conn`: drop a bundle's combined
authorizations once no signed combined member of it remains. -/
def retireCombinedAuthorization (bundle : BundleKey) : Txn Db VotingError Unit :=
  write fun db =>
    if (db.bundleRecoveries bundle).any (·.delegationVan?.isSome) then .ok db
    else .ok { db with
      delegateCastRecovery :=
        ((db.delegateCastRecovery.rows.filter fun entry => entry.1.1 = bundle).foldl
          (fun table entry => table.erase entry.1) db.delegateCastRecovery) }

/-- `clear_vote_batch_recovery_with_conn`: retire every member of one batch,
answering their proposals in roster order. -/
def clearVoteBatchRecovery (P : Primitives) (bundle : BundleKey) (batchDigest : Bytes32) :
    Txn Db VotingError (List Nat) := do
  let members ← read fun db => loadVoteBatchRecoveries P db bundle batchDigest
  let cleared := members.map (·.proposalId)
  ForM.forM cleared fun proposalId => clearUnsubmittedVoteRecovery ⟨bundle, proposalId⟩
  if cleared ≠ [] then retireCombinedAuthorization bundle
  return cleared

/-- `record_vc_position_with_conn`.  The row is read and written in one
transaction, so the guards the code repeats in its `UPDATE` cannot fail. -/
def recordVcPosition (key : VoteKey) (vcTreePosition : Nat) : Txn Db VotingError Unit :=
  write fun db =>
    if i64Max < vcTreePosition then
      .error (.invalidInput s!"vc_tree_position {vcTreePosition} does not fit in SQLite i64")
    else match db.votes.lookup key with
    | none => .error (voteNotFoundError key)
    | some row =>
      if row.vcTreePosition.any (· ≠ vcTreePosition) then
        .error (.invalidInput
          ("vote commitment tree position already recorded for " ++ key.display))
      else match row.recovery with
      | none => .ok (db.setVote key { row with vcTreePosition := some vcTreePosition })
      | some recovery => do
        validateRecoveryMatchesStoredVote recovery key.bundle.roundId key.bundle.bundleIndex
          key.proposalId row.choice row.commitment
        return db.setVote key { row with
          vcTreePosition := some vcTreePosition
          recovery := some { recovery with vcTreePosition } }

end ZcashVoting
