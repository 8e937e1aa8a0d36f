import ZcashVoting.Vote.Retirement

/-!
# ZcashVoting.Confirmation

Durable domain projection applied when a chain submission confirms: the
delegation and vote rows written inside the caller's transaction.
-/

namespace ZcashVoting

open Transaction

/-- `require_tree_position`. -/
def requireTreePosition (position : Nat) (field : String) : Except VotingError Unit :=
  if treeCapacity ≤ position then
    .error (.invalidInput s!"{field} {position} exceeds the commitment-tree capacity")
  else .ok ()

/-- `load_bundle_confirmation_fields`. -/
def loadBundleConfirmationFields (key : BundleKey) (db : Db) : Except VotingError BundleRow :=
  match db.bundles.lookup key with
  | some row => .ok row
  | none =>
    let round := hex key.roundId.val.val
    let bundle := key.bundleIndex
    .error (.invalidInput s!"bundle not found for round={round}, bundle={bundle}")

/-- `check_text_conflict` on a stored transaction hash. -/
def checkTextConflict (existing : Option CandidateTransactionHash)
    (requested : CandidateTransactionHash) (field : String) : Except VotingError Unit :=
  match existing with
  | some stored =>
    if stored ≠ requested then
      let old := hex stored.val
      let new := hex requested.val
      .error (.invalidInput s!"{field} conflict: stored {old}, requested {new}")
    else .ok ()
  | none => .ok ()

/-- `delegation_van_position_should_update`. -/
def delegationVanPositionShouldUpdate (stored : Option Nat) (requested : Nat) :
    Except VotingError Bool :=
  if i64Max < requested then
    .error (.invalidInput s!"VAN leaf position {requested} does not fit in SQLite i64")
  else match stored with
  | none => .ok true
  | some existing =>
    if existing < requested then
      .error (.invalidInput
        s!"delegation van_leaf_position conflict: stored {existing}, requested {requested}")
    else .ok false

/-- Replace one bundle row. -/
def Db.setBundle (db : Db) (key : BundleKey) (row : BundleRow) : Db :=
  { db with bundles := db.bundles.insert key row }

/-- `store_delegation_tx_hash`: a hash is recorded once. -/
def storeDelegationTxHash (key : BundleKey) (txHash : CandidateTransactionHash) :
    Txn Db VotingError Unit :=
  write fun db =>
    let round := hex key.roundId.val.val
    let wallet := key.walletId
    let bundle := key.bundleIndex
    match db.bundles.lookup key with
    | none => .error (.invalidInput
        s!"no bundle found for round={round}, wallet={wallet}, bundle={bundle}")
    | some row =>
      if row.delegationTxHash.any (· ≠ txHash) then
        .error (.invalidInput
          s!"delegation tx hash already recorded for round={round}, wallet={wallet}, bundle={bundle}")
      else .ok (db.setBundle key { row with delegationTxHash := some txHash })

/-- Record the hash, if there is one, of a delegation that confirmed. -/
def recordDelegationHash (key : BundleKey) :
    Option CandidateTransactionHash → Txn Db VotingError Unit
  | some hash => storeDelegationTxHash key hash
  | none => pure ()

/-- `store_van_position_u64`. -/
def storeVanPosition (key : BundleKey) (position : Nat) : Txn Db VotingError Unit :=
  write fun db =>
    if i64Max < position then
      .error (.invalidInput s!"VAN leaf position {position} does not fit in SQLite i64")
    else match db.bundles.lookup key with
    | none =>
      let round := hex key.roundId.val.val
      let bundle := key.bundleIndex
      .error (.invalidInput s!"bundle not found: round={round}, bundle={bundle}")
    | some row => .ok (db.setBundle key { row with vanLeafPosition := some position })

/-- `advance_van_position_in_tx`: the position never moves backwards. -/
def advanceVanPosition (key : BundleKey) (position : Nat) : Txn Db VotingError Unit := do
  let row ← read (loadBundleConfirmationFields key)
  match row.vanLeafPosition with
  | some stored =>
    if i64Max < position then
      abort (.invalidInput s!"VAN leaf position {position} does not fit in SQLite i64")
    else if position < stored then return ()
    else storeVanPosition key position
  | none => storeVanPosition key position

/-- `apply_delegation_confirmation_with_conn`. -/
def applyDelegationConfirmation (key : BundleKey) (txHash : Option CandidateTransactionHash)
    (vanLeafPosition : Nat) : Txn Db VotingError Unit := do
  read fun _ => requireTreePosition vanLeafPosition "VAN leaf position"
  let row ← read (loadBundleConfirmationFields key)
  read fun _ => match txHash with
    | some hash => checkTextConflict row.delegationTxHash hash "delegation tx_hash"
    | none => .ok ()
  let shouldStoreVanPosition ←
    read fun _ => delegationVanPositionShouldUpdate row.vanLeafPosition vanLeafPosition
  recordDelegationHash key txHash
  if shouldStoreVanPosition then storeVanPosition key vanLeafPosition

/-- `vote submission` errors name the wallet too. -/
def VoteKey.displayWithWallet (key : VoteKey) : String :=
  let round := hex key.bundle.roundId.val.val
  let wallet := key.bundle.walletId
  let bundle := key.bundle.bundleIndex
  let proposal := key.proposalId
  s!"round={round}, wallet={wallet}, bundle={bundle}, proposal={proposal}"

/-- `ensure_vote_submission_matches_ballot_intent`. -/
def ensureVoteSubmissionMatchesBallotIntent (key : VoteKey) (db : Db) : Except VotingError Unit :=
  match db.ballotIntent.lookup (key.bundle.round, key.proposalId), db.votes.lookup key with
  | some .skipped, some _ => .error (.invalidInput
      ("cannot record vote submission for skipped proposal " ++ key.displayWithWallet))
  | some (.choice choice), some row =>
    if row.choice = choice then .ok ()
    else .error (.invalidInput
      ("vote submission conflicts with ballot intent for " ++ key.displayWithWallet))
  | _, _ => .ok ()

/-- `record_vote_submission`: a hash is recorded once, for the intended choice. -/
def recordVoteSubmission (key : VoteKey) (txHash : CandidateTransactionHash) :
    Txn Db VotingError Unit := do
  read (ensureVoteSubmissionMatchesBallotIntent key)
  write fun db => match db.votes.lookup key with
    | none => .error (.invalidInput ("no vote found for " ++ key.displayWithWallet))
    | some row =>
      if row.txHash.any (· ≠ txHash) then
        .error (.invalidInput ("vote tx hash already recorded for " ++ key.displayWithWallet))
      else .ok (db.setVote key { row with txHash := some txHash })

/-- `require_vote_recovery_json`. -/
def requireVoteRecoveryJson (key : VoteKey) (db : Db) : Except VotingError Unit :=
  match db.votes.lookup key with
  | none => .error (voteNotFoundError key)
  | some row =>
    if row.recovery.isSome then .ok ()
    else .error (.invalidInput ("vote recovery bundle not found for " ++ key.display))

/-- `ensure_singleton_vote_update_with_conn`. -/
def ensureSingletonVoteUpdate (key : VoteKey) (db : Db) : Except VotingError Unit :=
  match (db.votes.lookup key).bind (·.recovery) with
  | some recovery => ensureSingletonVoteRecovery recovery
  | none => .ok ()

/-- Record the hash, if there is one, of a vote that confirmed. -/
def recordVoteHash (key : VoteKey) : Option CandidateTransactionHash → Txn Db VotingError Unit
  | some hash => recordVoteSubmission key hash
  | none => pure ()

/-- `apply_vote_confirmation_with_conn`. -/
def applyVoteConfirmation (key : VoteKey) (txHash : Option CandidateTransactionHash)
    (vanLeafPosition vcTreePosition : Nat) : Txn Db VotingError Unit := do
  read fun _ => requireTreePosition vanLeafPosition "VAN leaf position"
  read fun _ => requireTreePosition vcTreePosition "vote commitment tree position"
  read (ensureSingletonVoteUpdate key)
  recordVoteHash key txHash
  read (requireVoteRecoveryJson key)
  advanceVanPosition key.bundle vanLeafPosition
  recordVcPosition key vcTreePosition

/-- What a batch confirmation writes for one member. -/
def applyBatchMember (bundle : BundleKey) (txHash : Option CandidateTransactionHash)
    (member : Nat × Nat) : Txn Db VotingError Unit := do
  let key : VoteKey := ⟨bundle, member.1⟩
  recordVoteHash key txHash
  read (requireVoteRecoveryJson key)
  recordVcPosition key member.2

/-- `apply_vote_batch_confirmation_with_conn`.  The lifecycle passes the observed
proposals and never the observed nullifiers. -/
def applyVoteBatchConfirmation (P : Primitives) (bundle : BundleKey) (batchDigest : Bytes32)
    (txHash : Option CandidateTransactionHash) (vanLeafPosition : Nat)
    (vcTreePositions observedProposalIds : List Nat) : Txn Db VotingError Unit := do
  read fun _ => requireTreePosition vanLeafPosition "VAN leaf position"
  ForM.forM vcTreePositions fun position =>
    read fun _ => requireTreePosition position "vote commitment tree position"
  let recoveries ← read fun db => loadVoteBatchRecoveries P db bundle batchDigest
  let expectedProposals := recoveries.map (·.proposalId)
  require (observedProposalIds = expectedProposals) (.invalidInput
    "cast_vote_batch event actions do not match persisted recovery data")
  require (vcTreePositions.length = recoveries.length) (.invalidInput
    "cast_vote_batch event has the wrong number of VC positions")
  ForM.forM (expectedProposals.zip vcTreePositions) (applyBatchMember bundle txHash)
  advanceVanPosition bundle vanLeafPosition

end ZcashVoting
