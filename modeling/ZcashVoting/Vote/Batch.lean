import ZcashVoting.ChainSubmission.Generation

/-!
# ZcashVoting.Vote.Batch

The members of an atomic batch, whatever their positions.

A recovery is signed before the chain places its vote; recording the place later
changes nothing a batch is assembled from.  The main fact is
`loadVoteBatchRecoveries_kept`: two tables of votes whose members of a batch agree
up to their positions load the same batch, up to positions, in whichever order the
tables hold them.
-/

namespace ZcashVoting

open Transaction

/-! ## Recoveries without their position -/

namespace VoteRecoveryBundle

/-- A recovery without the position it is confirmed at. -/
def unconfirmed (recovery : VoteRecoveryBundle) : VoteRecoveryBundle :=
  { recovery with vcTreePosition := 0 }

@[simp] theorem batchDigest?_unconfirmed (recovery : VoteRecoveryBundle) :
    recovery.unconfirmed.batchDigest? = recovery.batchDigest? := rfl

@[simp] theorem batchIndex_unconfirmed (recovery : VoteRecoveryBundle) :
    recovery.unconfirmed.batchIndex = recovery.batchIndex := rfl

@[simp] theorem delegationVan?_unconfirmed (recovery : VoteRecoveryBundle) :
    recovery.unconfirmed.delegationVan? = recovery.delegationVan? := rfl

@[simp] theorem sighashAction_unconfirmed (recovery : VoteRecoveryBundle) :
    recovery.unconfirmed.sighashAction = recovery.sighashAction := rfl

@[simp] theorem batch_unconfirmed (recovery : VoteRecoveryBundle) :
    recovery.unconfirmed.batch = recovery.batch := rfl

@[simp] theorem anchorHeight_unconfirmed (recovery : VoteRecoveryBundle) :
    recovery.unconfirmed.anchorHeight = recovery.anchorHeight := rfl

/-- Recoveries that agree without their positions agree on whatever does not read
them. -/
theorem eq_of_unconfirmed {α : Type} {f : VoteRecoveryBundle → α}
    (hf : ∀ recovery, f recovery.unconfirmed = f recovery) {a b : VoteRecoveryBundle}
    (h : a.unconfirmed = b.unconfirmed) : f a = f b := by
  rw [← hf a, h, hf b]

theorem map_eq_of_unconfirmed {α : Type} {f : VoteRecoveryBundle → α}
    (hf : ∀ recovery, f recovery.unconfirmed = f recovery) {xs ys : List VoteRecoveryBundle}
    (h : xs.map unconfirmed = ys.map unconfirmed) : xs.map f = ys.map f := by
  have hcomp : f ∘ unconfirmed = f := funext hf
  rw [← hcomp, ← List.map_map, h, List.map_map]

end VoteRecoveryBundle

theorem validateRecovery_unconfirmed (recovery : VoteRecoveryBundle) (roundId : VoteRoundId)
    (bundleIndex proposalId choice : Nat) (commitment : Option StoredVoteCommitment) :
    validateRecoveryMatchesStoredVote recovery.unconfirmed roundId bundleIndex proposalId choice
        commitment =
      validateRecoveryMatchesStoredVote recovery roundId bundleIndex proposalId choice commitment :=
  rfl

/-! ## Batches -/

section Batches

variable (castVoteBatchSighash :
    VoteRoundId → Nat → List CastVoteBatchSighashAction → Except VotingError Bytes32)
  (delegateAndVoteBatchSighash :
    VoteRoundId → Bytes32 → List CastVoteBatchSighashAction → Except VotingError Bytes32)

/-- The candidates of one batch, in the order of their places. -/
def batchMembers (batchDigest : Bytes32) (candidates : List VoteRecoveryBundle) :
    List VoteRecoveryBundle :=
  (candidates.filter fun recovery => recovery.batchDigest? = some batchDigest).insertionSort
    fun a b => a.batchIndex ≤ b.batchIndex

/-- What is checked of the members. -/
def validateBatchMembers (roundId : VoteRoundId) (bundleIndex : Nat) (batchDigest : Bytes32)
    (members : List VoteRecoveryBundle) : Except VotingError Unit :=
  match members with
  | [] =>
    let round := hex roundId.val.val
    let digest := hex batchDigest.val
    .error (.invalidInput
      s!"vote batch recovery not found for round={round}, bundle={bundleIndex}, digest={digest}")
  | first :: _ => do
    let expectedSize := (first.batch.map (·.size)).getD 0
    if members.length ≠ expectedSize ∨
        members.map (fun r => r.batch.map fun b => (b.digest, b.index, b.size)) ≠
          (List.range members.length).map fun i => some (batchDigest, i, expectedSize) then
      throw (.invalidInput "persisted atomic vote batch is incomplete or out of order")
    let initialVan := first.delegationVan?
    if members.any fun r => r.delegationVan? ≠ initialVan ||
        (initialVan.isSome && r.anchorHeight != 0) then
      throw (.invalidInput "inconsistent combined batch authorization")
    let actions := members.map VoteRecoveryBundle.sighashAction
    let recomputed ← match initialVan with
      | some van => delegateAndVoteBatchSighash roundId van actions
      | none => castVoteBatchSighash roundId first.anchorHeight actions
    if recomputed ≠ batchDigest then
      throw (.invalidInput "persisted atomic vote batch digest does not match its actions")

theorem assembleVoteBatchRecoveries_eq (roundId : VoteRoundId) (bundleIndex : Nat)
    (batchDigest : Bytes32) (candidates : List VoteRecoveryBundle) :
    assembleVoteBatchRecoveries castVoteBatchSighash delegateAndVoteBatchSighash roundId bundleIndex
        batchDigest candidates =
      (validateBatchMembers castVoteBatchSighash delegateAndVoteBatchSighash roundId bundleIndex
        batchDigest (batchMembers batchDigest candidates)).map
          fun _ => batchMembers batchDigest candidates := by
  have hmembers : (candidates.filter fun recovery =>
      recovery.batchDigest? = some batchDigest).insertionSort
        (fun a b => a.batchIndex ≤ b.batchIndex) = batchMembers batchDigest candidates := rfl
  unfold assembleVoteBatchRecoveries
  rw [hmembers]
  cases batchMembers batchDigest candidates with
  | nil => rfl
  | cons first rest =>
    dsimp only [validateBatchMembers]
    split
    · rfl
    · split
      · rfl
      · cases first.delegationVan? with
        | some van =>
          dsimp only
          cases delegateAndVoteBatchSighash roundId van _ with
          | error e => rfl
          | ok recomputed =>
            simp only [bind, Except.bind]
            split <;> rfl
        | none =>
          dsimp only
          cases castVoteBatchSighash roundId _ _ with
          | error e => rfl
          | ok recomputed =>
            simp only [bind, Except.bind]
            split <;> rfl

theorem validateBatchMembers_unconfirmed (roundId : VoteRoundId) (bundleIndex : Nat)
    (batchDigest : Bytes32) (members : List VoteRecoveryBundle) :
    validateBatchMembers castVoteBatchSighash delegateAndVoteBatchSighash roundId bundleIndex
        batchDigest (members.map (·.unconfirmed)) =
      validateBatchMembers castVoteBatchSighash delegateAndVoteBatchSighash roundId bundleIndex
        batchDigest members := by
  cases members with
  | nil => rfl
  | cons first rest =>
    simp only [validateBatchMembers, List.map_cons, List.length_cons, List.length_map, List.map_map,
      Function.comp_def, List.any_cons, List.any_map, VoteRecoveryBundle.batch_unconfirmed,
      VoteRecoveryBundle.delegationVan?_unconfirmed, VoteRecoveryBundle.anchorHeight_unconfirmed,
      VoteRecoveryBundle.sighashAction_unconfirmed]
    rfl

variable {castVoteBatchSighash delegateAndVoteBatchSighash}
variable {roundId : VoteRoundId} {bundleIndex : Nat} {batchDigest : Bytes32}

theorem batchMembers_perm (candidates : List VoteRecoveryBundle) :
    (batchMembers batchDigest candidates).Perm
      (candidates.filter fun recovery => recovery.batchDigest? = some batchDigest) :=
  List.perm_insertionSort _ _

/-- A valid batch is complete: its members name its digest, the places `0, 1, …` and its
size. -/
theorem places_of_valid {members : List VoteRecoveryBundle} {u : Unit}
    (h : validateBatchMembers castVoteBatchSighash delegateAndVoteBatchSighash roundId bundleIndex
      batchDigest members = .ok u) :
    members.map (fun r => r.batch.map fun b => (b.digest, b.index, b.size)) =
      (List.range members.length).map fun i => some (batchDigest, i, members.length) := by
  cases members with
  | nil => cases h
  | cons first rest =>
    dsimp only [validateBatchMembers] at h
    split at h
    · simp at h
    · next hcomplete =>
      simp only [not_or, not_not] at hcomplete
      rw [hcomplete.2, ← hcomplete.1]

/-- The places of a complete batch are `0, 1, …`. -/
theorem map_batchIndex_of_valid {members : List VoteRecoveryBundle} {u : Unit}
    (h : validateBatchMembers castVoteBatchSighash delegateAndVoteBatchSighash roundId bundleIndex
      batchDigest members = .ok u) :
    members.map (·.batchIndex) = List.range members.length := by
  have hplaces := congrArg (List.map fun place : Option (Bytes32 × Nat × Nat) =>
    (place.map fun p => p.2.1).getD 0) (places_of_valid h)
  simpa [Function.comp_def, VoteRecoveryBundle.batchIndex] using hplaces

/-- Two sets of candidates that agree without positions assemble to batches that
do. -/
theorem assembleVoteBatchRecoveries_kept {candidates candidates' members : List VoteRecoveryBundle}
    (hcandidates : ((candidates.filter fun recovery =>
        recovery.batchDigest? = some batchDigest).map (·.unconfirmed)).Perm
      ((candidates'.filter fun recovery =>
        recovery.batchDigest? = some batchDigest).map (·.unconfirmed)))
    (h : assembleVoteBatchRecoveries castVoteBatchSighash delegateAndVoteBatchSighash roundId
      bundleIndex batchDigest candidates = .ok members) :
    ∃ members', assembleVoteBatchRecoveries castVoteBatchSighash delegateAndVoteBatchSighash roundId
        bundleIndex batchDigest candidates' = .ok members' ∧
      members.map (·.unconfirmed) = members'.map (·.unconfirmed) := by
  rw [assembleVoteBatchRecoveries_eq] at h ⊢
  obtain ⟨_, hvalid, rfl⟩ := except_map_eq_ok.mp h
  have hsorted : ∀ candidates : List VoteRecoveryBundle,
      ((batchMembers batchDigest candidates).map (·.unconfirmed)).Pairwise
        fun a b => a.batchIndex ≤ b.batchIndex := by
    intro candidates
    rw [List.pairwise_map]
    exact List.pairwise_insertionSort _ _
  have hperm := ((batchMembers_perm candidates).map (·.unconfirmed)).trans
    (hcandidates.trans ((batchMembers_perm candidates').map (·.unconfirmed)).symm)
  -- The places are distinct, so the order is determined.
  have hnodup : (((batchMembers batchDigest candidates).map (·.unconfirmed)).map
      (·.batchIndex)).Nodup := by
    rw [List.map_map]
    exact map_batchIndex_of_valid hvalid ▸ List.nodup_range
  have heq := hperm.eq_of_pairwise
    (fun a b ha hb hab hba => List.inj_on_of_nodup_map hnodup ha (hperm.mem_iff.mpr hb)
      (le_antisymm hab hba)) (hsorted candidates) (hsorted candidates')
  refine ⟨batchMembers batchDigest candidates', ?_, heq⟩
  rw [← validateBatchMembers_unconfirmed, ← heq, validateBatchMembers_unconfirmed, hvalid]
  rfl

end Batches

/-! ## Members in the table -/

/-- Two vote rows that differ at most in what the chain said. -/
structure VoteRow.SameVote (row row' : VoteRow) : Prop where
  choice_eq : row'.choice = row.choice
  commitment_eq : row'.commitment = row.commitment
  recovery_eq : row'.recovery.map (·.unconfirmed) = row.recovery.map (·.unconfirmed)

/-- The rows of a batch's members. -/
def InBatch (bundle : BundleKey) (digest : Bytes32) (key : VoteKey) (row : VoteRow) : Prop :=
  key.bundle = bundle ∧ row.recovery.bind (·.batchDigest?) = some digest

instance (bundle : BundleKey) (digest : Bytes32) (key : VoteKey) (row : VoteRow) :
    Decidable (InBatch bundle digest key row) :=
  inferInstanceAs (Decidable (_ ∧ _))

theorem VoteRow.SameVote.batchDigest?_eq {row row' : VoteRow} (h : row.SameVote row') :
    row'.recovery.bind (·.batchDigest?) = row.recovery.bind (·.batchDigest?) := by
  have hdigest : ∀ row : VoteRow, row.recovery.bind (·.batchDigest?) =
      (row.recovery.map (·.unconfirmed)).bind (·.batchDigest?) := by
    intro row
    cases row.recovery <;> rfl
  rw [hdigest row, hdigest row', h.recovery_eq]

/-- The members of a batch with their keys, without positions. -/
def memberRows (db : Db) (bundle : BundleKey) (digest : Bytes32) :
    List (VoteKey × Option VoteRecoveryBundle) :=
  (db.votes.rows.filter fun (key, row) => InBatch bundle digest key row).map fun (key, row) =>
    (key, row.recovery.map (·.unconfirmed))

theorem mem_memberRows {db : Db} {bundle : BundleKey} {digest : Bytes32} {key : VoteKey}
    {recovery : Option VoteRecoveryBundle} :
    (key, recovery) ∈ memberRows db bundle digest ↔ ∃ row, db.votes.lookup key = some row ∧
      InBatch bundle digest key row ∧ row.recovery.map (·.unconfirmed) = recovery := by
  simp only [memberRows, List.mem_map, List.mem_filter, Prod.exists, Table.mem_rows,
    decide_eq_true_eq, Prod.mk.injEq]
  constructor
  · rintro ⟨_, row, ⟨hrow, hmember⟩, rfl, rfl⟩
    exact ⟨row, hrow, hmember, rfl⟩
  · rintro ⟨row, hrow, hmember, rfl⟩
    exact ⟨key, row, ⟨hrow, hmember⟩, rfl, rfl⟩

theorem nodup_memberRows_keys (db : Db) (bundle : BundleKey) (digest : Bytes32) :
    ((memberRows db bundle digest).map (·.1)).Nodup := by
  rw [memberRows, List.map_map]
  exact db.votes.nodup_rows_keys.sublist (List.filter_sublist.map Prod.fst)

/-- The candidates of a batch are its members' recoveries. -/
theorem map_unconfirmed_candidates (db : Db) (bundle : BundleKey) (digest : Bytes32) :
    ((db.bundleRecoveries bundle).filter fun recovery =>
        recovery.batchDigest? = some digest).map (·.unconfirmed) =
      (memberRows db bundle digest).filterMap (·.2) := by
  unfold Db.bundleRecoveries memberRows
  induction db.votes.rows with
  | nil => rfl
  | cons entry rows ih =>
    obtain ⟨key, row⟩ := entry
    by_cases hbundle : key.bundle = bundle
    · cases hrecovery : row.recovery with
      | none => simpa [InBatch, hbundle, hrecovery] using ih
      | some recovery =>
        by_cases hdigest : recovery.batchDigest? = some digest
        · simpa [InBatch, hbundle, hrecovery, hdigest] using ih
        · simpa [InBatch, hbundle, hrecovery, hdigest] using ih
    · simpa [InBatch, hbundle] using ih

/-- Databases whose members of a batch agree up to positions load the same batch up
to positions. -/
theorem loadVoteBatchRecoveries_kept {P : Primitives} {db db' : Db} {bundle : BundleKey}
    {digest : Bytes32}
    (hvote : ∀ key row, db.votes.lookup key = some row → InBatch bundle digest key row →
      ∃ row', db'.votes.lookup key = some row' ∧ row.SameVote row')
    (hvote_of : ∀ key row', db'.votes.lookup key = some row' → InBatch bundle digest key row' →
      ∃ row, db.votes.lookup key = some row ∧ row.SameVote row')
    {recoveries : List VoteRecoveryBundle}
    (h : loadVoteBatchRecoveries P db bundle digest = .ok recoveries) :
    ∃ recoveries', loadVoteBatchRecoveries P db' bundle digest = .ok recoveries' ∧
      recoveries.map (·.unconfirmed) = recoveries'.map (·.unconfirmed) := by
  refine assembleVoteBatchRecoveries_kept ?_ h
  rw [map_unconfirmed_candidates, map_unconfirmed_candidates]
  refine List.Perm.filterMap _ ?_
  rw [List.perm_ext_iff_of_nodup (.of_map _ (nodup_memberRows_keys _ _ _))
    (.of_map _ (nodup_memberRows_keys _ _ _))]
  rintro ⟨key, recovery⟩
  rw [mem_memberRows, mem_memberRows]
  constructor
  · rintro ⟨row, hrow, hmember, rfl⟩
    obtain ⟨row', hrow', hsame⟩ := hvote key row hrow hmember
    exact ⟨row', hrow', ⟨hmember.1, hsame.batchDigest?_eq.trans hmember.2⟩, hsame.recovery_eq⟩
  · rintro ⟨row', hrow', hmember, rfl⟩
    obtain ⟨row, hrow, hsame⟩ := hvote_of key row' hrow' hmember
    exact ⟨row, hrow, ⟨hmember.1, hsame.batchDigest?_eq.symm.trans hmember.2⟩,
      hsame.recovery_eq.symm⟩

end ZcashVoting
