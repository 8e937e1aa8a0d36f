import ZcashVoting.Phases
import ZcashVoting.Share

/-!
# ZcashVoting.RoundPlanning.Snapshot

The durable state of one round, read once, as the planner sees it.
-/

namespace ZcashVoting

open Transaction

/-- `BundleSnapshot`. -/
structure BundleSnapshot where
  /-- The bundle came from a delegation capability import. -/
  capabilityImported : Bool
  delegationTxHash : Option String
  deriving DecidableEq

/-- `VoteSnapshot`: one vote row as planning sees it. -/
structure VoteSnapshot where
  choice : Nat
  phase : VotePhase
  txHash : Option String
  vcTreePosition : Option Int
  recovery : Option VoteRecoveryBundle
  deriving DecidableEq

/-- `PlanningTarget`. -/
inductive PlanningTarget where
  | delegation
  | vote (proposalId : Nat)
  | voteBatch (orderedBatchDigest : Bytes32)
  deriving DecidableEq

/-- `LifecycleHashKey`: a target on one bundle. -/
structure LifecycleHashKey where
  bundleIndex : Nat
  target : PlanningTarget
  deriving DecidableEq

/-- `LifecycleTransactionHashes`: the distinct hashes the lifecycle knows per target. -/
structure LifecycleTransactionHashes where
  hashes : Table LifecycleHashKey { distinct : List Bytes // distinct.Nodup } := ∅

/-- `LifecycleTransactionHashes::hash`: the one distinct hash, or none. -/
def LifecycleTransactionHashes.hash (lifecycle : LifecycleTransactionHashes) (bundleIndex : Nat)
    (target : PlanningTarget) : Option String :=
  match lifecycle.hashes.lookup ⟨bundleIndex, target⟩ with
  | some ⟨[hash], _⟩ => some (hex hash)
  | _ => none

/-- `RoundSnapshot`.  Votes are keyed by bundle and proposal. -/
structure RoundSnapshot where
  roundId : VoteRoundId
  delegations : List DelegationSubmissionStatus
  bundles : Table Nat BundleSnapshot
  votes : Table (Nat × Nat) VoteSnapshot
  shares : List ShareDelegationRecord
  sharePhases : List (Nat × Nat × Nat × SharePhase)
  intents : Table Nat BallotIntent
  lifecycleHashes : LifecycleTransactionHashes
  /-- The round's durable immediate-share designation, if made. -/
  persistedImmediateShare : Option ImmediateShareKey := none
  rejectionBlockedBundles : Table Nat ChainSubmissionDiagnostic

namespace RoundSnapshot

variable (snapshot : RoundSnapshot)

/-- The votes as the ordered map iterates them. -/
def votesInOrder : List ((Nat × Nat) × VoteSnapshot) := snapshot.votes.ascending votePrecedes

/-- `delegation_tx_hash`. -/
def delegationTxHash (bundleIndex : Nat) : Option String :=
  (snapshot.lifecycleHashes.hash bundleIndex .delegation).or
    ((snapshot.bundles.lookup bundleIndex).bind (·.delegationTxHash))

/-- `vote_tx_hash`: the vote's own lifecycle row, else its projection column. -/
def voteTxHash (bundleIndex proposalId : Nat) : Option String :=
  (snapshot.lifecycleHashes.hash bundleIndex (.vote proposalId)).or
    ((snapshot.votes.lookup (bundleIndex, proposalId)).bind (·.txHash))

/-- `vote_batch_tx_hash`: the batch row, else the anchor member's hash. -/
def voteBatchTxHash (bundleIndex : Nat) (orderedBatchDigest : Bytes32) (anchorProposalId : Nat) :
    Option String :=
  (snapshot.lifecycleHashes.hash bundleIndex (.voteBatch orderedBatchDigest)).or
    (snapshot.voteTxHash bundleIndex anchorProposalId)

/-- `confirmed_tree_position`: a recovery stored without a position is an error, because
position zero names a real leaf. -/
def confirmedTreePosition (bundleIndex proposalId : Nat) : Except VotingError (Option Nat) :=
  match snapshot.votes.lookup (bundleIndex, proposalId) with
  | none =>
    let round := hex snapshot.roundId.val.val
    .error (.internal
      s!"failed to get commitment bundle: vote not found for round={round}, bundle={bundleIndex}, proposal={proposalId}")
  | some vote =>
    match vote.recovery, vote.vcTreePosition with
    | some _, some position =>
      if 0 ≤ position then .ok (some position.toNat)
      else .error (.internal s!"stored vc_tree_position must be non-negative, got {position}")
    | some _, none => .error (.internal
        "commitment bundle is stored without vc_tree_position; refusing to assume position 0")
    | none, _ => .ok none

/-- `bundle_recoveries`: the recoveries on one bundle in proposal order. -/
def bundleRecoveries (bundleIndex : Nat) : List VoteRecoveryBundle :=
  snapshot.votesInOrder.filterMap fun (key, vote) =>
    if key.1 = bundleIndex then vote.recovery else none

end RoundSnapshot

/-! ## Loading -/

/-- `load_ballot_intents`, as the map its readers collect. -/
def loadBallotIntents (round : RoundKey) (db : Db) : Table Nat BallotIntent :=
  .collect ((db.ballotIntent.rows.filter fun (key, _) => key.1 = round).map
    fun (key, decision) => (key.2, decision))

/-- `round_immediate_share`. -/
def roundImmediateShare (round : RoundKey) (db : Db) : Option ImmediateShareKey :=
  db.roundImmediateShare.lookup round

/-- `MAX_CONSECUTIVE_COMBINED_REJECTIONS`. -/
def maxConsecutiveCombinedRejections : Nat := 2

/-- `combined_rejections_block_bundle`. -/
def combinedRejectionsBlockBundle (streak : Nat) : Bool := maxConsecutiveCombinedRejections ≤ streak

/-- The identity of a bundle's delegation, where one can be formed. -/
def delegationIdentity (bundle : BundleKey) (network : Network) :
    Except VotingError ChainSubmissionIdentity :=
  if h : bundle.walletId ≠ "" ∧ bundle.bundleIndex ≤ u32Max then .ok {
    walletId := bundle.walletId
    network
    voteRoundId := bundle.roundId
    bundleIndex := bundle.bundleIndex
    target := .delegation
    walletId_ne := h.1
    bundleIndex_le := h.2
    target_valid := trivial }
  else .error (.internal
    "combined rejection ledger names an unusable identity: chain submission wallet_id must not be empty")

section

variable (P : Primitives)

/-- The block of one ledger row at the cap: the streak still describes the delegation the
bundle now has. -/
def rejectionBlock (db : Db) (network : Network) (bundle : BundleKey)
    (row : CombinedCastRejectionRow) :
    Except VotingError (Option (Nat × ChainSubmissionDiagnostic)) := do
  let identity ← delegationIdentity bundle network
  let current ← completeGenerationForDelegation P db identity
  let stillTheSame := current.any fun bound =>
    bound.generation.digest = row.delegationGenerationDigest
  return if stillTheSame then
    some (bundle.bundleIndex, .fromRedactedMessage row.lastDiagnosticKind row.lastDiagnostic)
  else none

/-- `rejection_blocked_bundles`. -/
def rejectionBlockedBundles (round : RoundKey) (db : Db) :
    Except VotingError (Table Nat ChainSubmissionDiagnostic) :=
  let capped := (db.combinedCastRejections.rows.filter fun (bundle, row) =>
    bundle.round = round ∧ combinedRejectionsBlockBundle row.consecutiveRejections).insertionSort
      fun a b => a.1.bundleIndex ≤ b.1.bundleIndex
  match capped with
  | [] => .ok ∅
  | capped => do
    let network ← db.loadRoundNetwork round
    let blocked ← capped.mapM fun (bundle, row) => rejectionBlock P db network bundle row
    return .collect (blocked.filterMap id)

/-- `bundle_planning_rows`, as the map of snapshots. -/
def bundleSnapshots (round : RoundKey) (db : Db) : Table Nat BundleSnapshot :=
  .collect ((db.roundBundles round).map fun (key, row) =>
    (key.bundleIndex, ⟨row.notePositionsBlob.isNone, row.delegationTxHash.map (hex ·.val)⟩))

/-- One row of the vote loop: every vote has a canonical phase. -/
def voteSnapshot (phases : Table (Nat × Nat) VotePhase) (key : VoteKey) (row : VoteRow) :
    Except VotingError ((Nat × Nat) × VoteSnapshot) :=
  match phases.lookup (key.bundle.bundleIndex, key.proposalId) with
  | some phase => .ok ((key.bundle.bundleIndex, key.proposalId), {
      choice := row.choice
      phase
      txHash := row.txHash.map (hex ·.val)
      vcTreePosition := row.vcTreePosition.map Int.ofNat
      recovery := row.recovery })
  | none =>
    let vote := key.display
    .error (.internal s!"vote row without a canonical phase for {vote}")

/-- The votes of the snapshot, with the phases of their statuses. -/
def voteSnapshots (round : RoundKey) (db : Db) (statuses : List VoteSubmissionStatus) :
    Except VotingError (Table (Nat × Nat) VoteSnapshot) := do
  let phases := Table.collect
    (statuses.map fun status => ((status.bundleIndex, status.proposalId), status.phase))
  let votes ← (db.votesWhere round none none).mapM fun (key, row) => voteSnapshot phases key row
  return .collect votes

/-- `get_share_delegations`: by proposal and share index. -/
def getShareDelegations (round : RoundKey) (db : Db) : List ShareDelegationRecord :=
  ((db.shareDelegations.rows.filter fun (key, _) => key.vote.bundle.round = round).map
    fun (key, row) => {
      roundId := round.roundId
      bundleIndex := key.vote.bundle.bundleIndex
      proposalId := key.vote.proposalId
      shareIndex := key.shareIndex
      sentToUrls := row.sentToUrls
      ambiguousUrls := row.ambiguousUrls
      attemptingUrls := row.attemptingUrls
      targetCount := row.targetCount
      nullifier := row.nullifier
      confirmed := row.confirmed
      submitAt := row.submitAt
      createdAt := row.createdAt : ShareDelegationRecord }).insertionSort fun a b =>
    votePrecedes (a.proposalId, a.shareIndex) (b.proposalId, b.shareIndex)

/-- The planning target of a submission. -/
def ChainSubmissionTarget.planning : ChainSubmissionTarget → PlanningTarget
  | .delegation => .delegation
  | .vote proposalId => .vote proposalId
  | .voteBatch digest | .delegateAndVoteBatch digest => .voteBatch digest

/-- Enter a hash among the distinct hashes of its target. -/
def LifecycleTransactionHashes.record (lifecycle : LifecycleTransactionHashes)
    (key : LifecycleHashKey) (hash : Bytes) : LifecycleTransactionHashes :=
  let known := (lifecycle.hashes.lookup key).getD ⟨[], List.nodup_nil⟩
  ⟨lifecycle.hashes.insert key ⟨known.val.insert hash, known.property.insert⟩⟩

/-- `lifecycle_transaction_hashes`.  A combined row owns the batch and its delegation. -/
def lifecycleTransactionHashes (round : RoundKey) (db : Db) : LifecycleTransactionHashes :=
  (db.chainSubmissions.rows.filter fun (identity, _) => identity.bundleKey.round = round).foldl
    (fun lifecycle (identity, row) =>
      match row.confirmedTransactionHash.or row.candidateTransactionHash with
      | none => lifecycle
      | some hash =>
        let lifecycle :=
          if identity.target.isCombined then
            lifecycle.record ⟨identity.bundleIndex, .delegation⟩ hash.val
          else lifecycle
        lifecycle.record ⟨identity.bundleIndex, identity.target.planning⟩ hash.val)
    {}

/-- `load_round_snapshot`. -/
def loadRoundSnapshot (round : RoundKey) (db : Db) : Except VotingError RoundSnapshot := do
  let delegations ← delegationSubmissionStatuses round db
  let rejectionBlockedBundles ← rejectionBlockedBundles P round db
  let statuses ← voteSubmissionStatuses P round db
  let votes ← voteSnapshots round db statuses
  return {
    roundId := round.roundId
    delegations
    bundles := bundleSnapshots round db
    votes
    shares := getShareDelegations round db
    sharePhases := sharePhases round db
    intents := loadBallotIntents round db
    lifecycleHashes := lifecycleTransactionHashes round db
    persistedImmediateShare := roundImmediateShare round db
    rejectionBlockedBundles }

end

/-! ### What the snapshot shows -/

/-- The loaded ballot shows the durable intents of the round. -/
@[simp] theorem lookup_loadBallotIntents (round : RoundKey) (db : Db) (proposalId : Nat) :
    (loadBallotIntents round db).lookup proposalId = db.ballotIntent.lookup (round, proposalId) := by
  have hentry : ∀ decision, (proposalId, decision) ∈ ((db.ballotIntent.rows.filter fun (key, _) =>
      key.1 = round).map fun (key, decision) => (key.2, decision)) ↔
        db.ballotIntent.lookup (round, proposalId) = some decision := by
    intro decision
    simp [Table.mem_rows]
  ext decision
  constructor
  · intro h
    exact (hentry decision).mp (Table.mem_of_lookup_collect h)
  · intro h
    obtain ⟨decision', h'⟩ := Table.exists_lookup_collect ((hentry decision).mpr h)
    rwa [← Option.some.inj (((hentry decision').mp (Table.mem_of_lookup_collect h')).symm.trans h)]

section

variable {P : Primitives} {round : RoundKey} {db : Db} {snapshot : RoundSnapshot}

theorem voteSnapshot_eq_ok {phases : Table (Nat × Nat) VotePhase} {key : VoteKey} {row : VoteRow}
    {shown : Nat × Nat} {vote : VoteSnapshot}
    (h : voteSnapshot phases key row = .ok (shown, vote)) :
    shown = (key.bundle.bundleIndex, key.proposalId) ∧ phases.lookup shown = some vote.phase ∧
      vote.choice = row.choice ∧ vote.txHash = row.txHash.map (hex ·.val) ∧
      vote.vcTreePosition = row.vcTreePosition.map Int.ofNat ∧ vote.recovery = row.recovery := by
  unfold voteSnapshot at h
  cases hphase : phases.lookup (key.bundle.bundleIndex, key.proposalId) with
  | none => simp [hphase] at h
  | some phase =>
    simp only [hphase, Except.ok.injEq, Prod.mk.injEq] at h
    obtain ⟨rfl, rfl⟩ := h
    exact ⟨rfl, hphase, rfl, rfl, rfl, rfl⟩

/-- A vote of the snapshot is a stored vote in the phase of one of its statuses. -/
theorem voteSnapshots_lookup {statuses : List VoteSubmissionStatus}
    {votes : Table (Nat × Nat) VoteSnapshot} (h : voteSnapshots round db statuses = .ok votes)
    {bundleIndex proposalId : Nat} {vote : VoteSnapshot}
    (hvote : votes.lookup (bundleIndex, proposalId) = some vote) :
    ∃ row, db.votes.lookup ⟨⟨round.roundId, round.walletId, bundleIndex⟩, proposalId⟩ = some row ∧
      vote.choice = row.choice ∧ vote.txHash = row.txHash.map (hex ·.val) ∧
      vote.vcTreePosition = row.vcTreePosition.map Int.ofNat ∧ vote.recovery = row.recovery ∧
        ∃ status ∈ statuses, status.bundleIndex = bundleIndex ∧ status.proposalId = proposalId ∧
          status.phase = vote.phase := by
  obtain ⟨entries, hentries, h⟩ := except_bind_eq_ok.mp h
  rw [except_pure_eq_ok] at h
  subst h
  obtain ⟨⟨⟨⟨roundId, walletId, bundle⟩, proposal⟩, row⟩, hmem, hof⟩ :=
    except_mapM_mem hentries (Table.mem_of_lookup_collect hvote)
  obtain ⟨hrow, rfl, -⟩ := Db.mem_votesWhere.mp hmem
  obtain ⟨hshown, hphase, hchoice, htx, hposition, hrecovery⟩ := voteSnapshot_eq_ok hof
  obtain ⟨rfl, rfl⟩ := Prod.mk.inj hshown
  obtain ⟨status, hstatus, heq⟩ := List.mem_map.mp (Table.mem_of_lookup_collect hphase)
  simp only [Prod.mk.injEq] at heq
  exact ⟨row, hrow, hchoice, htx, hposition, hrecovery, status, hstatus, heq.1.1, heq.1.2, heq.2⟩

/-- The parts of a loaded snapshot. -/
theorem loadRoundSnapshot_eq_ok (h : loadRoundSnapshot P round db = .ok snapshot) :
    delegationSubmissionStatuses round db = .ok snapshot.delegations ∧
      snapshot.intents = loadBallotIntents round db ∧ ∃ statuses,
        voteSubmissionStatuses P round db = .ok statuses ∧
          voteSnapshots round db statuses = .ok snapshot.votes := by
  simp only [loadRoundSnapshot, except_bind_eq_ok, except_pure_eq_ok] at h
  obtain ⟨delegations, hdelegations, _, -, statuses, hstatuses, votes, hvotes, rfl⟩ := h
  exact ⟨hdelegations, rfl, statuses, hstatuses, hvotes⟩

/-- A loaded vote is on a bundle with a delegation status: the foreign key gives its bundle
a row, and every bundle row of the round has a status. -/
theorem exists_delegation_of_vote (hkeys : db.VotesReferenceBundles)
    (h : loadRoundSnapshot P round db = .ok snapshot) {key : Nat × Nat} {vote : VoteSnapshot}
    (hvote : snapshot.votes.lookup key = some vote) :
    ∃ status ∈ snapshot.delegations, status.bundleIndex = key.1 := by
  obtain ⟨hdelegations, -, statuses, -, hvotes⟩ := loadRoundSnapshot_eq_ok h
  obtain ⟨row, hrow, -⟩ := voteSnapshots_lookup hvotes hvote
  obtain ⟨bundle, hbundle⟩ := Option.isSome_iff_exists.mp (hkeys _ row hrow)
  have hlisted : (⟨round.roundId, round.walletId, key.1⟩, bundle) ∈ db.roundBundles round := by
    simp [Db.roundBundles, Table.mem_rows, hbundle, BundleKey.round]
  obtain ⟨owner, howner⟩ := Table.exists_mem_leftJoin
    (db.delegationOwners ⟨round.roundId, round.walletId, key.1⟩)
  obtain ⟨status, hmem, hstatus⟩ := except_mapM_of_mem hdelegations
    (List.mem_flatMap.mpr ⟨_, hlisted, List.mem_map.mpr ⟨owner, howner, rfl⟩⟩)
  obtain ⟨diagnostic, -, hstatus⟩ := except_bind_eq_ok.mp hstatus
  rw [except_pure_eq_ok] at hstatus
  exact ⟨status, hmem, by simp [← hstatus]⟩

end

end ZcashVoting
