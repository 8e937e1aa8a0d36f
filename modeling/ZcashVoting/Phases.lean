import ZcashVoting.RoundPlanning.Lifecycle
import ZcashVoting.Vote.Retirement

/-!
# ZcashVoting.Phases

Canonical phases of delegations, votes and helper shares.  An authoritative submission
row decides the phase of what it owns; a vote of a batch takes the phase of the batch's
row once the batch is derived again from its signed members; the domain columns decide
only where no row does.
-/

namespace ZcashVoting

open Transaction

/-- `stored_submission_diagnostic`: both columns are stored, or neither. -/
def storedSubmissionDiagnostic (kind : Option ChainSubmissionDiagnosticKind)
    (message : Option String) : Except VotingError (Option ChainSubmissionDiagnostic) :=
  match kind, message with
  | none, none => .ok none
  | some kind, some message => .ok (some (.fromRedactedMessage kind message))
  | _, _ => .error (.internal
      "chain submission row stores a diagnostic kind without a message or a message without a kind")

/-! ## Delegations -/

namespace DelegationPhase

/-- The phase an authoritative row stands for. -/
def ofSubmission : ChainSubmissionState → DelegationPhase
  | .submitting | .tracking | .recovering => .submissionManaged
  | .submittedWithoutHash => .submittedWithoutHash
  | .rejected => .submissionRejected
  | .confirmed => .confirmed

/-- `phase_from_columns`. -/
def fromColumns (hasPczt hasProof hasTxHash hasVanPosition : Bool)
    (authoritativeState : Option ChainSubmissionState) : DelegationPhase :=
  match authoritativeState with
  | some state => ofSubmission state
  | none =>
    if hasVanPosition then .confirmed
    else if hasTxHash then .submitted
    else if hasProof then .proved
    else if hasPczt then .pcztBuilt
    else .prepared

end DelegationPhase

/-- The submissions that own the bundle's delegation. -/
def Db.delegationOwners (db : Db) (bundle : BundleKey) : List ChainSubmissionRow :=
  (db.chainSubmissions.rows.filter fun (identity, _) =>
    identity.bundleKey = bundle ∧ identity.target.ownsDelegation).map (·.2)

/-- The phase of a bundle row joined with the state of an owner. -/
def Db.delegationPhaseOf (db : Db) (bundle : BundleKey) (row : BundleRow)
    (owner : Option ChainSubmissionRow) : DelegationPhase :=
  .fromColumns (row.pcztSighash.isSome || row.rk.isSome)
    ((db.proofs.lookup bundle).any (·.success)) row.delegationTxHash.isSome
    row.vanLeafPosition.isSome (owner.map (·.state))

/-- The bundles of a round in index order. -/
def Db.roundBundles (db : Db) (round : RoundKey) : List (BundleKey × BundleRow) :=
  (db.bundles.rows.filter fun (key, _) => key.round = round).insertionSort
    fun a b => a.1.bundleIndex ≤ b.1.bundleIndex

/-- One row of the join of bundles with the owners of their delegations. -/
def delegationSubmissionStatus (db : Db) (bundle : BundleKey) (row : BundleRow)
    (owner : Option ChainSubmissionRow) : Except VotingError DelegationSubmissionStatus := do
  let diagnostic ← storedSubmissionDiagnostic (owner.bind (·.diagnosticKind))
    (owner.bind (·.diagnostic))
  return ⟨bundle.bundleIndex, db.delegationPhaseOf bundle row owner, diagnostic⟩

/-- `delegation_submission_statuses_on`. -/
def delegationSubmissionStatuses (round : RoundKey) (db : Db) :
    Except VotingError (List DelegationSubmissionStatus) :=
  let joined := (db.roundBundles round).flatMap fun (key, row) =>
    (Table.leftJoin (db.delegationOwners key)).map fun owner => (key, row, owner)
  joined.mapM fun (key, row, owner) => delegationSubmissionStatus db key row owner

/-! ## Votes -/

/-- Votes are ordered by bundle, then by proposal. -/
def votePrecedes (a b : Nat × Nat) : Prop := a.1 < b.1 ∨ (a.1 = b.1 ∧ a.2 ≤ b.2)

instance : DecidableRel votePrecedes := fun a b =>
  inferInstanceAs (Decidable (a.1 < b.1 ∨ (a.1 = b.1 ∧ a.2 ≤ b.2)))

namespace VotePhase

/-- `authoritative_submission_phase`. -/
def ofSubmission : ChainSubmissionState → VotePhase
  | .submitting | .tracking | .recovering => .submissionManaged
  | .submittedWithoutHash => .submittedWithoutHash
  | .rejected => .submissionRejected
  | .confirmed => .confirmed

/-- `vote_phase_from_columns`. -/
def fromColumns (row : VoteRow) : VotePhase :=
  if row.txHash.isSome && row.vcTreePosition.isSome && row.recovery.isSome then .confirmed
  else if row.txHash.isSome then .submitted
  else if row.recovery.isSome then .committed
  else .prepared

end VotePhase

/-- `AuthoritativeBatchMember`: what a batch row projects onto one of its votes. -/
structure AuthoritativeBatchMember where
  phase : VotePhase
  diagnostic : Option ChainSubmissionDiagnostic
  orderedBatchDigest : Bytes32
  deriving DecidableEq

/-- `VoteSubmissionStatus`. -/
structure VoteSubmissionStatus where
  bundleIndex : Nat
  proposalId : Nat
  phase : VotePhase
  diagnostic : Option ChainSubmissionDiagnostic
  /-- The batch that owns the vote, when the phase comes from a batch row. -/
  orderedBatchDigest : Option Bytes32
  deriving DecidableEq

section

variable (P : Primitives)

/-- The loop of `load_authoritative_batch_phases`: every member of a batch that has a
submission, once its generation is derived again. -/
def authoritativeBatchPhases (network : Network) (db : Db)
    (phases : List (VoteKey × AuthoritativeBatchMember)) :
    List (ChainSubmissionIdentity × Bytes32 × ChainSubmissionRow) →
      Except VotingError (List (VoteKey × AuthoritativeBatchMember))
  | [] => .ok phases
  | (identity, orderedBatchDigest, row) :: rows => do
    let round := hex identity.voteRoundId.val.val
    let bundle := identity.bundleIndex
    let diagnostic ← storedSubmissionDiagnostic row.diagnosticKind row.diagnostic
    let (bound, _) ← validatedVoteBatch P db { identity with network }
    check (row.generationDigest = bound.generation.digest) (.internal
      s!"authoritative vote batch generation digest does not match persisted members for round={round}, bundle={bundle}")
    let members : List (VoteKey × AuthoritativeBatchMember) :=
      bound.orderedProposalIds.map fun proposal => (⟨identity.bundleKey, proposal⟩,
        ⟨.ofSubmission row.state, diagnostic, orderedBatchDigest⟩)
    match members.find? fun member => phases.any (·.1 = member.1) with
    | some (member, _) =>
      let proposal := member.proposalId
      throw (.internal
        s!"vote belongs to multiple authoritative batches for round={round}, bundle={bundle}, proposal={proposal}")
    | none => authoritativeBatchPhases network db (phases ++ members) rows

/-- `load_authoritative_batch_phases`. -/
def loadAuthoritativeBatchPhases (round : RoundKey) (bundleIndex : Option Nat) (db : Db) :
    Except VotingError (List (VoteKey × AuthoritativeBatchMember)) :=
  let batches := db.chainSubmissions.rows.filterMap fun (identity, row) =>
    if identity.bundleKey.round = round ∧ bundleIndex.all (· = identity.bundleIndex) then
      identity.target.batchDigest.map fun digest => (identity, digest, row)
    else none
  match batches with
  | [] => .ok []
  | batches => do
    let network ← db.loadRoundNetwork round
    authoritativeBatchPhases P network db [] batches

/-- The votes of a round that pass the filters, by bundle and proposal. -/
def Db.votesWhere (db : Db) (round : RoundKey) (bundleIndex proposalId : Option Nat) :
    List (VoteKey × VoteRow) :=
  (db.votes.rows.filter fun (key, _) =>
    key.bundle.round = round ∧ bundleIndex.all (· = key.bundle.bundleIndex) ∧
      proposalId.all (· = key.proposalId)).insertionSort fun a b =>
    votePrecedes (a.1.bundle.bundleIndex, a.1.proposalId) (b.1.bundle.bundleIndex, b.1.proposalId)

/-- The submissions of one vote, one a network. -/
def Db.singletonSubmissions (db : Db) (vote : VoteKey) : List ChainSubmissionRow :=
  (db.chainSubmissions.rows.filter fun (identity, _) =>
    identity.bundleKey = vote.bundle ∧ identity.target = .vote vote.proposalId).map (·.2)

/-- The status of one vote row from its own submission, its batch's, or its columns. -/
def voteSubmissionStatus (batchMembers : List (VoteKey × AuthoritativeBatchMember))
    (key : VoteKey) (row : VoteRow) (singleton : Option ChainSubmissionRow) :
    Except VotingError VoteSubmissionStatus :=
  match singleton, batchMembers.find? (·.1 = key) with
  | some _, some _ =>
    let vote := key.display
    .error (.internal
      s!"vote has overlapping authoritative singleton and batch submissions for {vote}")
  | some submission, none => do
    let diagnostic ← storedSubmissionDiagnostic submission.diagnosticKind submission.diagnostic
    return ⟨key.bundle.bundleIndex, key.proposalId, .ofSubmission submission.state, diagnostic, none⟩
  | none, some (_, member) => .ok
      ⟨key.bundle.bundleIndex, key.proposalId, member.phase, member.diagnostic,
        some member.orderedBatchDigest⟩
  | none, none => .ok
      ⟨key.bundle.bundleIndex, key.proposalId, .fromColumns row, none, none⟩

/-- The `VotePhaseEvidence` rows: votes joined with their own submissions. -/
def Db.votePhaseEvidence (db : Db) (round : RoundKey) (bundleIndex proposalId : Option Nat) :
    List (VoteKey × VoteRow × Option ChainSubmissionRow) :=
  (db.votesWhere round bundleIndex proposalId).flatMap fun (key, row) =>
    (Table.leftJoin (db.singletonSubmissions key)).map fun singleton => (key, row, singleton)

/-- `load_vote_submission_statuses`. -/
def loadVoteSubmissionStatuses (round : RoundKey) (bundleIndex proposalId : Option Nat) (db : Db) :
    Except VotingError (List VoteSubmissionStatus) := do
  let batchMembers ← loadAuthoritativeBatchPhases P round bundleIndex db
  (db.votePhaseEvidence round bundleIndex proposalId).mapM fun (key, row, singleton) =>
    voteSubmissionStatus batchMembers key row singleton

/-- `vote_submission_statuses_on`. -/
def voteSubmissionStatuses (round : RoundKey) (db : Db) :
    Except VotingError (List VoteSubmissionStatus) :=
  loadVoteSubmissionStatuses P round none none db

/-- `vote_phases_for_proposal`. -/
def votePhasesForProposal (round : RoundKey) (proposalId : Nat) (db : Db) :
    Except VotingError (List (Nat × VotePhase)) := do
  let statuses ← loadVoteSubmissionStatuses P round none (some proposalId) db
  return statuses.map fun status => (status.bundleIndex, status.phase)

/-- `intent_is_lifecycle_owned`. -/
def intentIsLifecycleOwned (round : RoundKey) (proposalId : Nat) (db : Db) :
    Except VotingError Bool := do
  let phases ← votePhasesForProposal P round proposalId db
  return phases.any (·.2.isLifecycleOwned)

end

/-! ### What the statuses list -/

theorem Db.mem_votesWhere {db : Db} {round : RoundKey} {bundleIndex proposalId : Option Nat}
    {key : VoteKey} {row : VoteRow} :
    (key, row) ∈ db.votesWhere round bundleIndex proposalId ↔
      db.votes.lookup key = some row ∧ key.bundle.round = round ∧
        bundleIndex.all (· = key.bundle.bundleIndex) = true ∧
          proposalId.all (· = key.proposalId) = true := by
  simp [votesWhere, List.mem_insertionSort, Table.mem_rows]

theorem Db.mem_votePhaseEvidence {db : Db} {round : RoundKey} {bundleIndex proposalId : Option Nat}
    {key : VoteKey} {row : VoteRow} {singleton : Option ChainSubmissionRow} :
    (key, row, singleton) ∈ db.votePhaseEvidence round bundleIndex proposalId ↔
      (key, row) ∈ db.votesWhere round bundleIndex proposalId ∧
        singleton ∈ Table.leftJoin (db.singletonSubmissions key) := by
  simp only [votePhaseEvidence, List.mem_flatMap, List.mem_map, Prod.exists, Prod.mk.injEq]
  constructor
  · rintro ⟨_, _, hvote, _, hjoin, rfl, rfl, rfl⟩
    exact ⟨hvote, hjoin⟩
  · rintro ⟨hvote, hjoin⟩
    exact ⟨_, _, hvote, _, hjoin, rfl, rfl, rfl⟩

/-- A status names the vote it is of. -/
theorem voteSubmissionStatus_key {batchMembers : List (VoteKey × AuthoritativeBatchMember)}
    {key : VoteKey} {row : VoteRow} {singleton : Option ChainSubmissionRow}
    {status : VoteSubmissionStatus}
    (h : voteSubmissionStatus batchMembers key row singleton = .ok status) :
    status.bundleIndex = key.bundle.bundleIndex ∧ status.proposalId = key.proposalId := by
  unfold voteSubmissionStatus at h
  split at h
  · simp at h
  · obtain ⟨_, -, h⟩ := except_bind_eq_ok.mp h
    cases h
    exact ⟨rfl, rfl⟩
  all_goals
    cases h
    exact ⟨rfl, rfl⟩

section

variable {P : Primitives} {round : RoundKey} {db : Db} {statuses : List VoteSubmissionStatus}

/-- The statuses of one proposal are those the whole round lists for it. -/
theorem statuses_of_proposal (h : voteSubmissionStatuses P round db = .ok statuses)
    (proposalId : Nat) : ∃ filtered,
      loadVoteSubmissionStatuses P round none (some proposalId) db = .ok filtered ∧
        ∀ status, status ∈ filtered ↔ status ∈ statuses ∧ status.proposalId = proposalId := by
  obtain ⟨members, hmembers, h⟩ := except_bind_eq_ok.mp h
  have hsub : ∀ key row singleton,
      (key, row, singleton) ∈ db.votePhaseEvidence round none (some proposalId) ↔
        (key, row, singleton) ∈ db.votePhaseEvidence round none none ∧
          key.proposalId = proposalId := by
    intro key row singleton
    simp only [Db.mem_votePhaseEvidence, Db.mem_votesWhere, Option.all_none, Option.all_some,
      decide_eq_true_eq, and_true, eq_comm (a := proposalId)]
    tauto
  have hanswers : ∀ evidence ∈ db.votePhaseEvidence round none (some proposalId), ∃ status,
      voteSubmissionStatus members evidence.1 evidence.2.1 evidence.2.2 = .ok status := by
    intro evidence hevidence
    obtain ⟨status, -, hstatus⟩ := except_mapM_of_mem h ((hsub _ _ _).mp hevidence).1
    exact ⟨status, hstatus⟩
  obtain ⟨filtered, hfiltered⟩ := except_mapM_exists hanswers
  refine ⟨filtered, except_bind_eq_ok.mpr ⟨members, hmembers, hfiltered⟩, fun status => ?_⟩
  constructor
  · intro hstatus
    obtain ⟨⟨key, row, singleton⟩, hevidence, hof⟩ := except_mapM_mem hfiltered hstatus
    obtain ⟨hevidence, hproposal⟩ := (hsub _ _ _).mp hevidence
    obtain ⟨status', hstatus', hof'⟩ := except_mapM_of_mem h hevidence
    obtain rfl : status = status' := Except.ok.inj (hof.symm.trans hof')
    exact ⟨hstatus', (voteSubmissionStatus_key hof).2.trans hproposal⟩
  · rintro ⟨hstatus, hproposal⟩
    obtain ⟨⟨key, row, singleton⟩, hevidence, hof⟩ := except_mapM_mem h hstatus
    have hkey := (voteSubmissionStatus_key hof).2.symm.trans hproposal
    obtain ⟨status', hstatus', hof'⟩ :=
      except_mapM_of_mem hfiltered ((hsub _ _ _).mpr ⟨hevidence, hkey⟩)
    obtain rfl : status = status' := Except.ok.inj (hof.symm.trans hof')
    exact hstatus'

/-- Ownership of an intent is read off the statuses of the round. -/
theorem intentIsLifecycleOwned_of_statuses (h : voteSubmissionStatuses P round db = .ok statuses)
    (proposalId : Nat) : ∃ owned,
      intentIsLifecycleOwned P round proposalId db = .ok owned ∧
        (owned = true ↔ ∃ status ∈ statuses, status.proposalId = proposalId ∧
          status.phase.isLifecycleOwned = true) := by
  obtain ⟨filtered, hfiltered, hmem⟩ := statuses_of_proposal h proposalId
  refine ⟨(filtered.map fun status => (status.bundleIndex, status.phase)).any
    (·.2.isLifecycleOwned), ?_, ?_⟩
  · simp only [intentIsLifecycleOwned, votePhasesForProposal, except_bind_eq_ok, except_pure_eq_ok]
    exact ⟨_, ⟨filtered, hfiltered, rfl⟩, rfl⟩
  · simp only [List.any_map, List.any_eq_true, Function.comp_apply, hmem, and_assoc]

end

/-! ## Helper shares -/

/-- `share_phases_on`: by bundle, proposal and share index. -/
def sharePhases (round : RoundKey) (db : Db) : List (Nat × Nat × Nat × SharePhase) :=
  ((db.shareDelegations.rows.filter fun (key, _) => key.vote.bundle.round = round).map
    fun (key, row) => (key.vote.bundle.bundleIndex, key.vote.proposalId, key.shareIndex,
      if row.confirmed then SharePhase.confirmed else .submitted)).insertionSort fun a b =>
    a.1 < b.1 ∨ (a.1 = b.1 ∧ votePrecedes (a.2.1, a.2.2.1) (b.2.1, b.2.2.1))

end ZcashVoting
