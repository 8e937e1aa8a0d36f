import ZcashVoting.ChainSubmission.Store.Runs

/-!
# ZcashVoting.Confirmation.Replay

Confirmations in any order, any number of times.

`Applied` is what a confirmation leaves in the database: its hash, its positions,
and a VAN position at least as far as its own.  Later confirmations do not take any
of it back (`Applied.grows`), and where it holds the confirmation goes through again
and writes every row as it stands (`Applied.replay`).
-/

namespace ZcashVoting

open Transaction

variable {db db' : Db} {key : VoteKey} {P : Primitives}

/-- The three confirmations of `confirmation.rs`. -/
inductive BundleConfirmation where
  | delegation (key : BundleKey) (txHash : Option CandidateTransactionHash) (vanLeafPosition : Nat)
  | vote (key : VoteKey) (txHash : Option CandidateTransactionHash)
      (vanLeafPosition vcTreePosition : Nat)
  | voteBatch (bundle : BundleKey) (batchDigest : Bytes32)
      (txHash : Option CandidateTransactionHash) (vanLeafPosition : Nat)
      (vcTreePositions observedProposalIds : List Nat)
  deriving DecidableEq

namespace BundleConfirmation

variable (P : Primitives)

def apply : BundleConfirmation → Txn Db VotingError Unit
  | .delegation key txHash van => applyDelegationConfirmation key txHash van
  | .vote key txHash van vc => applyVoteConfirmation key txHash van vc
  | .voteBatch bundle digest txHash van vcs proposals =>
    applyVoteBatchConfirmation P bundle digest txHash van vcs proposals

/-- A confirmation in its caller's transaction, which rolls back on an error. -/
def run (confirmation : BundleConfirmation) (db : Db) : Except VotingError Unit × Db :=
  transact (confirmation.apply P) db

/-- A sequence of confirmations, each of which may fail. -/
def runAll (confirmations : List BundleConfirmation) (db : Db) : Db :=
  confirmations.foldl (fun db confirmation => (confirmation.run P db).2) db

variable {P}

theorem within_apply (confirmation : BundleConfirmation) :
    Within Grows (confirmation.apply P) := by
  cases confirmation with
  | delegation key hash van => exact fun _ _ _ => Grows.applyDelegationConfirmation
  | vote key hash van vc => exact fun _ _ _ => Grows.applyVoteConfirmation
  | voteBatch bundle digest hash van vcs proposals =>
    exact Grows.applyVoteBatchConfirmation bundle digest hash van vcs proposals

theorem grows_run (confirmation : BundleConfirmation) (db : Db) :
    Grows db (confirmation.run P db).2 :=
  (within_apply confirmation).transact db

theorem runAll_append_cons (earlier later : List BundleConfirmation)
    (confirmation : BundleConfirmation) (db : Db) :
    runAll P (earlier ++ confirmation :: later) db =
      runAll P later (confirmation.run P (runAll P earlier db)).2 := by
  simp [runAll]

theorem grows_runAll (confirmations : List BundleConfirmation) (db : Db) :
    Grows db (runAll P confirmations db) := by
  induction confirmations generalizing db with
  | nil => exact .refl db
  | cons confirmation rest ih => exact (grows_run confirmation db).trans (ih _)

end BundleConfirmation

/-! ## Rows that stay as they are -/

/-- Two databases with the same rows in every table.  A row that is written again may stand
elsewhere in the list of its table. -/
structure SameRows (db db' : Db) : Prop where
  bundle_eq : ∀ key, db'.bundles.lookup key = db.bundles.lookup key
  vote_eq : ∀ key, db'.votes.lookup key = db.votes.lookup key
  /-- No other table has changed at all. -/
  rest_eq : { db' with bundles := db.bundles, votes := db.votes } = db

namespace SameRows

@[refl] theorem refl (db : Db) : SameRows db db := ⟨fun _ => rfl, fun _ => rfl, rfl⟩

theorem trans {a b c : Db} (hab : SameRows a b) (hbc : SameRows b c) : SameRows a c where
  bundle_eq key := (hbc.bundle_eq key).trans (hab.bundle_eq key)
  vote_eq key := (hbc.vote_eq key).trans (hab.vote_eq key)
  rest_eq := by
    calc { c with bundles := a.bundles, votes := a.votes }
      _ = { { c with bundles := b.bundles, votes := b.votes } with
          bundles := a.bundles, votes := a.votes } := rfl
      _ = { b with bundles := a.bundles, votes := a.votes } := by rw [hbc.rest_eq]
      _ = a := hab.rest_eq

instance : Std.Refl SameRows := ⟨SameRows.refl⟩

instance : IsTrans Db SameRows := ⟨fun _ _ _ => SameRows.trans⟩

theorem grows {db db' : Db} (h : SameRows db db') : Grows db db' where
  rounds_eq := congrArg (·.rounds) h.rest_eq
  proofs_eq := congrArg (·.proofs) h.rest_eq
  ballotIntent_eq := congrArg (·.ballotIntent) h.rest_eq
  submissions_eq := congrArg (·.chainSubmissions) h.rest_eq
  authorizations_eq := congrArg (·.delegateCastRecovery) h.rest_eq
  bundle key row hrow := ⟨row, (h.bundle_eq key).trans hrow, .refl row⟩
  vote key row hrow := ⟨row, (h.vote_eq key).trans hrow, .refl row⟩
  vote_of key row hrow := ⟨row, (h.vote_eq key).symm.trans hrow, .refl row⟩

variable {db : Db}

/-- Writing a row as it stands. -/
theorem setBundle {key : BundleKey} {row : BundleRow} (h : db.bundles.lookup key = some row) :
    SameRows db (db.setBundle key row) := by
  refine ⟨fun other => ?_, fun _ => rfl, rfl⟩
  rw [Db.setBundle, Table.lookup_insert_eq]
  split
  · next heq => rw [heq, h]
  · rfl

/-- Nor do the triggers write anything, as the recovery is the same. -/
theorem setVote {key : VoteKey} {row : VoteRow} (h : db.votes.lookup key = some row) :
    SameRows db (db.setVote key row) := by
  have hplans : db.plansAfterUpdate key row = db.helperSharePlans := by
    cases hplan : db.helperSharePlans.lookup key <;> simp [Db.plansAfterUpdate, h, hplan]
  have hdesignations : db.designationsAfterUpdate key row = db.roundImmediateShare := by
    simp [Db.designationsAfterUpdate, h]
  refine ⟨fun _ => rfl, fun other => ?_, ?_⟩
  · rw [Db.setVote, Table.lookup_insert_eq]
    split
    · next heq => rw [heq, h]
    · rfl
  · simp only [Db.setVote, hplans, hdesignations]

end SameRows

/-! ## What a confirmation leaves -/

/-- The bundle's VAN position has come at least this far. -/
def VanReached (db : Db) (key : BundleKey) (van : Nat) : Prop :=
  ∃ row stored, db.bundles.lookup key = some row ∧ row.vanLeafPosition = some stored ∧ van ≤ stored

/-- A vote with its hash, if one was observed, and its position. -/
structure VotePlaced (db : Db) (key : VoteKey) (hash : Option CandidateTransactionHash) (vc : Nat)
    (row : VoteRow) (recovery : VoteRecoveryBundle) : Prop where
  lookup : db.votes.lookup key = some row
  recovery_eq : row.recovery = some recovery
  hash_eq : ∀ value, hash = some value → row.txHash = some value
  intended : ∀ value, hash = some value → ensureVoteSubmissionMatchesBallotIntent key db = .ok ()
  position_eq : row.vcTreePosition = some vc
  placed : recovery.vcTreePosition = vc
  fits : vc ≤ i64Max
  valid : validateRecoveryMatchesStoredVote recovery key.bundle.roundId key.bundle.bundleIndex
    key.proposalId row.choice row.commitment = .ok ()

theorem VanReached.grows {key : BundleKey} {van : Nat} (h : VanReached db key van)
    (hgrows : Grows db db') : VanReached db' key van := by
  obtain ⟨row, stored, hrow, hstored, hle⟩ := h
  obtain ⟨row', hrow', hrows⟩ := hgrows.bundle key row hrow
  obtain ⟨later, hlater, hle'⟩ := hrows.van_le stored hstored
  exact ⟨row', later, hrow', hlater, hle.trans hle'⟩

theorem Grows.ensureVoteSubmission (h : Grows db db') :
    ensureVoteSubmissionMatchesBallotIntent key db' =
      ensureVoteSubmissionMatchesBallotIntent key db := by
  unfold ensureVoteSubmissionMatchesBallotIntent
  rw [h.ballotIntent_eq]
  cases hrow : db.votes.lookup key with
  | none =>
    cases hrow' : db'.votes.lookup key with
    | none => rfl
    | some row' =>
      obtain ⟨row, hlookup, -⟩ := h.vote_of key row' hrow'
      exact nomatch hrow.symm.trans hlookup
  | some row =>
    obtain ⟨row', hrow', hrows⟩ := h.vote key row hrow
    rw [hrow']
    cases db.ballotIntent.lookup (key.bundle.round, key.proposalId) with
    | none => rfl
    | some intent => cases intent <;> simp [hrows.choice_eq]

theorem VotePlaced.grows {hash : Option CandidateTransactionHash}
    {vc : Nat} {row : VoteRow} {recovery : VoteRecoveryBundle}
    (h : VotePlaced db key hash vc row recovery) (hgrows : Grows db db') :
    ∃ row' recovery', VotePlaced db' key hash vc row' recovery' := by
  obtain ⟨row', hrow', hrows⟩ := hgrows.vote key row h.lookup
  have hsame := hrows.recovery_eq
  rw [h.recovery_eq, Option.map_some, Option.map_eq_some_iff] at hsame
  obtain ⟨recovery', hrecovery', hunconfirmed⟩ := hsame
  have hposition := hrows.position_kept vc h.position_eq
  refine ⟨row', recovery', hrow', hrecovery', fun value hvalue => hrows.hash_kept _
    (h.hash_eq value hvalue), fun value hvalue => ?_, hposition, ?_, h.fits, ?_⟩
  · rw [hgrows.ensureVoteSubmission]
    exact h.intended value hvalue
  · rcases hrows.recovery_placed recovery' hrecovery' with hfirst | hplaced
    · cases h.recovery_eq.symm.trans hfirst
      exact h.placed
    · exact (Option.some.inj (hposition.symm.trans hplaced)).symm
  · rw [hrows.choice_eq, hrows.commitment_eq, ← validateRecovery_unconfirmed, hunconfirmed,
      validateRecovery_unconfirmed]
    exact h.valid

/-- What a confirmation that was applied leaves in the database. -/
def Applied (P : Primitives) (db : Db) : BundleConfirmation → Prop
  | .delegation key hash van => van < treeCapacity ∧ VanReached db key van ∧
    ∀ value, hash = some value →
      (db.bundles.lookup key).bind (·.delegationTxHash) = some value
  | .vote key hash van vc => van < treeCapacity ∧ vc < treeCapacity ∧
    VanReached db key.bundle van ∧ ensureSingletonVoteUpdate key db = .ok () ∧
    ∃ row recovery, VotePlaced db key hash vc row recovery
  | .voteBatch bundle digest hash van vcs proposals => van < treeCapacity ∧
    (∀ vc ∈ vcs, vc < treeCapacity) ∧ VanReached db bundle van ∧
    (∃ recoveries, loadVoteBatchRecoveries P db bundle digest = .ok recoveries ∧
      proposals = recoveries.map (·.proposalId) ∧ vcs.length = recoveries.length) ∧
    ∀ member ∈ proposals.zip vcs,
      ∃ row recovery, VotePlaced db ⟨bundle, member.1⟩ hash member.2 row recovery

theorem Grows.ensureSingletonVoteUpdate (h : Grows db db') :
    ZcashVoting.ensureSingletonVoteUpdate key db' = ZcashVoting.ensureSingletonVoteUpdate key db := by
  unfold ZcashVoting.ensureSingletonVoteUpdate
  cases hrow : db.votes.lookup key with
  | none =>
    cases hrow' : db'.votes.lookup key with
    | none => rfl
    | some row' =>
      obtain ⟨row, hlookup, -⟩ := h.vote_of key row' hrow'
      exact nomatch hrow.symm.trans hlookup
  | some row =>
    obtain ⟨row', hrow', hrows⟩ := h.vote key row hrow
    have hsame := hrows.recovery_eq
    rw [hrow']
    cases hrecovery : row.recovery with
    | none =>
      rw [hrecovery, Option.map_none, Option.map_eq_none_iff] at hsame
      simp [hsame, hrecovery]
    | some recovery =>
      rw [hrecovery, Option.map_some, Option.map_eq_some_iff] at hsame
      obtain ⟨recovery', hrecovery', hunconfirmed⟩ := hsame
      simp only [hrecovery', hrecovery, Option.bind_some]
      exact VoteRecoveryBundle.eq_of_unconfirmed (fun _ => rfl) hunconfirmed

theorem Grows.batchLoaded (hgrows : Grows db db') {bundle : BundleKey}
    {digest : Bytes32} {vcs proposals : List Nat}
    (h : ∃ recoveries, loadVoteBatchRecoveries P db bundle digest = .ok recoveries ∧
      proposals = recoveries.map (·.proposalId) ∧ vcs.length = recoveries.length) :
    ∃ recoveries, loadVoteBatchRecoveries P db' bundle digest = .ok recoveries ∧
      proposals = recoveries.map (·.proposalId) ∧ vcs.length = recoveries.length := by
  obtain ⟨recoveries, hload, rfl, hlength⟩ := h
  obtain ⟨recoveries', hload', hsame⟩ := loadVoteBatchRecoveries_kept
    (fun key row hrow _ => (hgrows.vote key row hrow).imp fun _ h => ⟨h.1, h.2.toSameVote⟩)
    (fun key row hrow _ => (hgrows.vote_of key row hrow).imp fun _ h => ⟨h.1, h.2.toSameVote⟩) hload
  have hlengths := congrArg List.length hsame
  simp only [List.length_map] at hlengths
  exact ⟨recoveries', hload', VoteRecoveryBundle.map_eq_of_unconfirmed (fun _ => rfl) hsame,
    hlength.trans hlengths⟩

/-- Confirmations do not take back what one of them left. -/
theorem Applied.grows {confirmation : BundleConfirmation}
    (h : Applied P db confirmation) (hgrows : Grows db db') : Applied P db' confirmation := by
  cases confirmation with
  | delegation key hash van =>
    obtain ⟨hvan, hreached, hhash⟩ := h
    refine ⟨hvan, hreached.grows hgrows, fun value hvalue => ?_⟩
    obtain ⟨row, hrow, hstored⟩ := Option.bind_eq_some_iff.mp (hhash value hvalue)
    obtain ⟨row', hrow', hrows⟩ := hgrows.bundle key row hrow
    exact Option.bind_eq_some_iff.mpr ⟨row', hrow', hrows.hash_kept value hstored⟩
  | vote key hash van vc =>
    obtain ⟨hvan, hvc, hreached, hsingleton, row, recovery, hplaced⟩ := h
    exact ⟨hvan, hvc, hreached.grows hgrows, hgrows.ensureSingletonVoteUpdate.trans hsingleton,
      hplaced.grows hgrows⟩
  | voteBatch bundle digest hash van vcs proposals =>
    obtain ⟨hvan, hvcs, hreached, hloaded, hmembers⟩ := h
    refine ⟨hvan, hvcs, hreached.grows hgrows, hgrows.batchLoaded hloaded, fun member hmember => ?_⟩
    obtain ⟨row, recovery, hplaced⟩ := hmembers member hmember
    exact hplaced.grows hgrows

/-! ## Applying leaves it -/

section Apply

variable {P : Primitives} {db db' : Db} {u : Unit}

theorem vanReached_of_advance {key : BundleKey} {van : Nat}
    (h : advanceVanPosition key van db = .ok (u, db')) : VanReached db' key van := by
  obtain ⟨-, row, hrow, ⟨stored, hstored, hlt, rfl⟩ | ⟨-, rfl⟩⟩ := advanceVanPosition_eq_ok.mp h
  · exact ⟨row, stored, hrow, hstored, hlt.le⟩
  · exact ⟨_, van, AList.lookup_insert _, rfl, le_rfl⟩

/-- Recording the hash and then the position of a vote places it, whatever other
confirmations write in between. -/
theorem votePlaced_of_record {key : VoteKey} {hash : Option CandidateTransactionHash} {vc : Nat}
    {hashed advanced : Db} (hhash : recordVoteHash key hash db = .ok ((), hashed))
    (hrecovery : requireVoteRecoveryJson key hashed = .ok ()) (hgrows : Grows hashed advanced)
    (hplace : recordVcPosition key vc advanced = .ok (u, db')) :
    ∃ row recovery, VotePlaced db' key hash vc row recovery := by
  obtain ⟨row, hrow, hsome⟩ := requireVoteRecoveryJson_eq_ok.mp hrecovery
  obtain ⟨hfits, row', hrow', hrecordable, hvalid, rfl⟩ := recordVcPosition_eq_ok.mp hplace
  obtain ⟨later, hlater, hrows⟩ := hgrows.vote key row hrow
  cases hlater.symm.trans hrow'
  have hstored : row'.recovery.isSome = true := by
    have := congrArg Option.isSome hrows.recovery_eq
    simpa [hsome] using this
  obtain ⟨recovery, hrecovery⟩ := Option.isSome_iff_exists.mp hstored
  have hwhole := hgrows.trans (Grows.recordVcPosition hplace)
  refine ⟨_, { recovery with vcTreePosition := vc }, AList.lookup_insert _, by simp [hrecovery],
    fun value hvalue => ?_, fun value hvalue => ?_, rfl, rfl, hfits, hvalid recovery hrecovery⟩
  · subst hvalue
    obtain ⟨-, first, hfirst, -, rfl⟩ := recordVoteSubmission_eq_ok.mp hhash
    cases hrow.symm.trans (AList.lookup_insert _)
    exact hrows.hash_kept value rfl
  · subst hvalue
    obtain ⟨hintended, -⟩ := recordVoteSubmission_eq_ok.mp hhash
    rw [hwhole.ensureVoteSubmission, (Grows.recordVoteHash hhash).ensureVoteSubmission]
    exact hintended

theorem applied_of_apply {confirmation : BundleConfirmation}
    (h : confirmation.apply P db = .ok (u, db')) : Applied P db' confirmation := by
  cases confirmation with
  | delegation key hash van =>
    obtain ⟨hvan, row, hrow, hrecordable, hlate, mid, hhash, hstore⟩ :=
      applyDelegationConfirmation_eq_ok.mp h
    have hmid := lookup_recordDelegationHash hrow hhash
    split at hstore
    · next hnone =>
      obtain ⟨-, stored, hstored, rfl⟩ := storeVanPosition_eq_ok.mp hstore
      cases hstored.symm.trans hmid
      exact ⟨hvan, ⟨_, van, AList.lookup_insert _, rfl, le_rfl⟩, fun value hvalue => by
        simp [Db.setBundle, hvalue]⟩
    · next hsome =>
      subst hstore
      obtain ⟨stored, hstored⟩ := Option.ne_none_iff_exists'.mp hsome
      exact ⟨hvan, ⟨_, stored, hmid, hstored, hlate stored hstored⟩, fun value hvalue => by
        simp [hmid, hvalue]⟩
  | vote key hash van vc =>
    obtain ⟨hvan, hvc, hsingleton, hashed, hhash, hrecovery, advanced, hadvance, hplace⟩ :=
      applyVoteConfirmation_eq_ok.mp h
    exact ⟨hvan, hvc, (vanReached_of_advance hadvance).grows (Grows.recordVcPosition hplace),
      (Grows.applyVoteConfirmation h).ensureSingletonVoteUpdate.trans hsingleton,
      votePlaced_of_record hhash hrecovery (Grows.advanceVanPosition hadvance) hplace⟩
  | voteBatch bundle digest hash van vcs proposals =>
    obtain ⟨hvan, hvcs, ⟨recoveries, hload, hproposals, hlength⟩, placed, hplaced, hadvance⟩ :=
      applyVoteBatchConfirmation_eq_ok.mp h
    have hmembers := Within.forM (Grows.applyBatchMember bundle hash) _ _ _ _ hplaced
    have hfinal := Grows.advanceVanPosition hadvance
    -- The members that follow one, and the position, do not undo it.
    have hplacedMembers : ∀ member ∈ proposals.zip vcs,
        ∃ row recovery, VotePlaced db' ⟨bundle, member.1⟩ hash member.2 row recovery := by
      intro member hmember
      obtain ⟨before, after, -, hmember, hrest⟩ :=
        Within.forM_step (Grows.applyBatchMember bundle hash) hplaced hmember
      obtain ⟨hashed, hhash, hrecovery, hplace⟩ := applyBatchMember_eq_ok.mp hmember
      obtain ⟨row, recovery, hvote⟩ := votePlaced_of_record hhash hrecovery (.refl _) hplace
      exact hvote.grows (hrest.trans hfinal)
    exact ⟨hvan, hvcs, vanReached_of_advance hadvance,
      (hmembers.trans hfinal).batchLoaded ⟨recoveries, hload, hproposals, hlength⟩, hplacedMembers⟩

end Apply

/-! ## Replays -/

section Replays

variable {P : Primitives} {db : Db} {key : VoteKey} {hash : Option CandidateTransactionHash}
  {vc : Nat} {row : VoteRow} {recovery : VoteRecoveryBundle}

theorem VanReached.advance {key : BundleKey} {van : Nat} (h : VanReached db key van)
    (hvan : van < treeCapacity) :
    ∃ db', advanceVanPosition key van db = .ok ((), db') ∧ SameRows db db' := by
  obtain ⟨row, stored, hrow, hstored, hle⟩ := h
  have hfits : van ≤ i64Max := hvan.le.trans (by decide)
  rcases Nat.lt_or_eq_of_le hle with hlt | rfl
  · exact ⟨db, advanceVanPosition_eq_ok.mpr ⟨hfits, row, hrow, .inl ⟨stored, hstored, hlt, rfl⟩⟩,
      .refl db⟩
  · refine ⟨_, advanceVanPosition_eq_ok.mpr ⟨hfits, row, hrow, .inr ⟨fun other hother => ?_, rfl⟩⟩, ?_⟩
    · exact (Option.some.inj (hother.symm.trans hstored)).le
    · rw [← hstored]
      exact .setBundle hrow

theorem VotePlaced.recordHash (h : VotePlaced db key hash vc row recovery) :
    ∃ db', recordVoteHash key hash db = .ok ((), db') ∧ SameRows db db' := by
  cases hash with
  | none => exact ⟨db, rfl, .refl db⟩
  | some value =>
    have hstored := h.hash_eq value rfl
    refine ⟨_, recordVoteSubmission_eq_ok.mpr ⟨h.intended value rfl, row, h.lookup, ?_, rfl⟩, ?_⟩
    · exact fun other hother => Option.some.inj (hother.symm.trans hstored)
    · rw [← hstored]
      exact .setVote h.lookup

theorem VotePlaced.recordPosition (h : VotePlaced db key hash vc row recovery) :
    ∃ db', recordVcPosition key vc db = .ok ((), db') ∧ SameRows db db' := by
  refine ⟨_, recordVcPosition_eq_ok.mpr ⟨h.fits, row, h.lookup,
    fun other hother => Option.some.inj (hother.symm.trans h.position_eq), fun stored hstored => ?_,
    rfl⟩, ?_⟩
  · cases h.recovery_eq.symm.trans hstored
    exact h.valid
  · have hrow : { row with
        vcTreePosition := some vc
        recovery := row.recovery.map fun recovery => { recovery with vcTreePosition := vc } } = row := by
      have hplaced := h.placed
      have hposition := h.position_eq
      have hrecovery := h.recovery_eq
      obtain ⟨choice, commitment, txHash, position, stored⟩ := row
      subst hplaced
      simp_all
    rw [hrow]
    exact .setVote h.lookup

theorem VotePlaced.requireRecovery (h : VotePlaced db key hash vc row recovery) :
    requireVoteRecoveryJson key db = .ok () :=
  requireVoteRecoveryJson_eq_ok.mpr ⟨row, h.lookup, by rw [h.recovery_eq]; rfl⟩

theorem VotePlaced.applyMember {bundle : BundleKey} {member : Nat × Nat}
    (h : VotePlaced db ⟨bundle, member.1⟩ hash member.2 row recovery) :
    ∃ db', applyBatchMember bundle hash member db = .ok ((), db') ∧ SameRows db db' := by
  obtain ⟨hashed, hhash, hsame⟩ := h.recordHash
  obtain ⟨_, _, hplaced⟩ := h.grows hsame.grows
  obtain ⟨db', hposition, hsame'⟩ := hplaced.recordPosition
  exact ⟨db', applyBatchMember_eq_ok.mpr ⟨hashed, hhash, hplaced.requireRecovery, hposition⟩,
    hsame.trans hsame'⟩

/-- The hash that a bundle has is recorded again. -/
theorem recordDelegationHash_again {key : BundleKey} (h : ∀ value, hash = some value →
      (db.bundles.lookup key).bind (·.delegationTxHash) = some value) :
    ∃ db', recordDelegationHash key hash db = .ok ((), db') ∧ SameRows db db' := by
  cases hash with
  | none => exact ⟨db, rfl, .refl db⟩
  | some value =>
    obtain ⟨row, hrow, hstored⟩ := Option.bind_eq_some_iff.mp (h value rfl)
    refine ⟨_, storeDelegationTxHash_eq_ok.mpr ⟨row, hrow, fun other hother => ?_, rfl⟩, ?_⟩
    · exact Option.some.inj (hother.symm.trans hstored)
    · rw [← hstored]
      exact .setBundle hrow

/-- A confirmation that was applied goes through again and leaves every row as it
is. -/
theorem Applied.replay {confirmation : BundleConfirmation} (h : Applied P db confirmation) :
    ∃ db', confirmation.apply P db = .ok ((), db') ∧ SameRows db db' := by
  cases confirmation with
  | delegation key hash van =>
    obtain ⟨hvan, ⟨row, stored, hrow, hstored, hle⟩, hhash⟩ := h
    have hsome : row.vanLeafPosition ≠ none := by simp [hstored]
    have hvalue : ∀ value, hash = some value → row.delegationTxHash = some value := by
      intro value hvalue
      simpa [hrow] using hhash value hvalue
    obtain ⟨db', hrecord, hsame⟩ := recordDelegationHash_again hhash
    refine ⟨db', applyDelegationConfirmation_eq_ok.mpr ⟨hvan, row, hrow, fun value h other hother =>
      Option.some.inj (hother.symm.trans (hvalue value h)), fun other hother => ?_, db', hrecord, ?_⟩,
      hsame⟩
    · cases hstored.symm.trans hother
      exact hle
    · rw [if_neg hsome]
  | vote key hash van vc =>
    obtain ⟨hvan, hvc, hreached, hsingleton, row, recovery, hplaced⟩ := h
    obtain ⟨hashed, hhash, hsame⟩ := hplaced.recordHash
    obtain ⟨_, _, hplaced⟩ := hplaced.grows hsame.grows
    obtain ⟨advanced, hadvance, hsame'⟩ := (hreached.grows hsame.grows).advance hvan
    obtain ⟨_, _, hplaced'⟩ := hplaced.grows hsame'.grows
    obtain ⟨db', hposition, hsame''⟩ := hplaced'.recordPosition
    exact ⟨db', applyVoteConfirmation_eq_ok.mpr ⟨hvan, hvc, hsingleton, hashed, hhash,
      hplaced.requireRecovery, advanced, hadvance, hposition⟩, hsame.trans (hsame'.trans hsame'')⟩
  | voteBatch bundle digest hash van vcs proposals =>
    obtain ⟨hvan, hvcs, hreached, hloaded, hmembers⟩ := h
    obtain ⟨placed, hplaced, hsame⟩ := Within.exists_forM (r := SameRows)
      (A := fun (member : Nat × Nat) db => ∃ row recovery,
        VotePlaced db ⟨bundle, member.1⟩ hash member.2 row recovery)
      (fun member s s' hs ⟨row, recovery, h⟩ => h.grows hs.grows)
      (fun member s ⟨row, recovery, h⟩ => h.applyMember) hmembers
    obtain ⟨db', hadvance, hsame'⟩ := (hreached.grows hsame.grows).advance hvan
    exact ⟨db', applyVoteBatchConfirmation_eq_ok.mpr ⟨hvan, hvcs, hloaded, placed, hplaced, hadvance⟩,
      hsame.trans hsame'⟩

end Replays

/-! ## Conflicts -/

/-- A stored value that is not the one observed. -/
def Differs {α : Type} (stored observed : Option α) : Prop :=
  ∃ old new, stored = some old ∧ observed = some new ∧ old ≠ new

/-- A hash or a position that differs from what is stored.  A delegation's position
may be behind the stored one, which later votes have moved on; it may not be past
it. -/
def Conflicts (db : Db) : BundleConfirmation → Prop
  | .delegation key hash van => ∃ row, db.bundles.lookup key = some row ∧
    (Differs row.delegationTxHash hash ∨ ∃ stored, row.vanLeafPosition = some stored ∧ stored < van)
  | .vote key hash _ vc => ∃ row, db.votes.lookup key = some row ∧
    (Differs row.txHash hash ∨ Differs row.vcTreePosition (some vc))
  | .voteBatch bundle _ hash _ vcs proposals => ∃ member ∈ proposals.zip vcs,
    ∃ row, db.votes.lookup ⟨bundle, member.1⟩ = some row ∧
      (Differs row.txHash hash ∨ Differs row.vcTreePosition (some member.2))

/-- A vote whose hash and position can be recorded does not conflict. -/
theorem not_differs_of_record {hashed advanced : Db}
    {hash : Option CandidateTransactionHash} {vc : Nat} {row : VoteRow} {u : Unit}
    (hrow : db.votes.lookup key = some row)
    (hhash : recordVoteHash key hash db = .ok ((), hashed)) (hgrows : Grows hashed advanced)
    (hplace : recordVcPosition key vc advanced = .ok (u, db')) :
    ¬ (Differs row.txHash hash ∨ Differs row.vcTreePosition (some vc)) := by
  rintro (⟨old, new, hold, rfl, hne⟩ | ⟨old, new, hold, hnew, hne⟩)
  · obtain ⟨-, stored, hstored, hrecordable, -⟩ := recordVoteSubmission_eq_ok.mp hhash
    cases hrow.symm.trans hstored
    exact hne (hrecordable old hold)
  · cases hnew
    obtain ⟨-, later, hlater, hrecordable, -⟩ := recordVcPosition_eq_ok.mp hplace
    obtain ⟨row', hrow', hrows⟩ := ((Grows.recordVoteHash hhash).trans hgrows).vote key row hrow
    cases hlater.symm.trans hrow'
    exact hne (hrecordable old (hrows.position_kept old hold))

/-- A confirmation that conflicts is refused. -/
theorem Conflicts.not_ok {confirmation : BundleConfirmation}
    (h : Conflicts db confirmation) {u : Unit} : confirmation.apply P db ≠ .ok (u, db') := by
  intro happly
  cases confirmation with
  | delegation key hash van =>
    obtain ⟨-, row, hrow, hrecordable, hlate, -⟩ := applyDelegationConfirmation_eq_ok.mp happly
    obtain ⟨stored, hstored, hconflict⟩ := h
    cases hrow.symm.trans hstored
    rcases hconflict with ⟨old, new, hold, hnew, hne⟩ | ⟨position, hposition, hlt⟩
    · exact hne (hrecordable new hnew old hold)
    · exact absurd (hlate position hposition) (Nat.not_le.mpr hlt)
  | vote key hash van vc =>
    obtain ⟨-, -, -, hashed, hhash, -, advanced, hadvance, hplace⟩ :=
      applyVoteConfirmation_eq_ok.mp happly
    obtain ⟨row, hrow, hconflict⟩ := h
    exact not_differs_of_record hrow hhash (Grows.advanceVanPosition hadvance) hplace hconflict
  | voteBatch bundle digest hash van vcs proposals =>
    obtain ⟨-, -, -, placed, hplaced, -⟩ := applyVoteBatchConfirmation_eq_ok.mp happly
    obtain ⟨member, hmember, row, hrow, hconflict⟩ := h
    obtain ⟨before, after, hbefore, hmember, -⟩ :=
      Within.forM_step (Grows.applyBatchMember bundle hash) hplaced hmember
    obtain ⟨hashed, hhash, -, hplace⟩ := applyBatchMember_eq_ok.mp hmember
    obtain ⟨row', hrow', hrows⟩ := hbefore.vote _ row hrow
    refine not_differs_of_record hrow' hhash (.refl _) hplace ?_
    rcases hconflict with ⟨old, new, hold, hnew, hne⟩ | ⟨old, new, hold, hnew, hne⟩
    · exact .inl ⟨old, new, hrows.hash_kept old hold, hnew, hne⟩
    · exact .inr ⟨old, new, hrows.position_kept old hold, hnew, hne⟩

/-! ## Sequences -/

open BundleConfirmation in
/-- Over every sequence of confirmations, of any bundles, in any order and with any
repetitions: a VAN position that is set never moves back; one that went through
anywhere in the sequence goes through again at its end and leaves every row as it is;
and one that conflicts with what is stored is refused and writes nothing. -/
theorem confirmations_monotone (P : Primitives) (db : Db)
    (confirmations : List BundleConfirmation) :
    (∀ key row position, db.bundles.lookup key = some row →
      row.vanLeafPosition = some position →
      ∃ row' later, (runAll P confirmations db).bundles.lookup key = some row' ∧
        row'.vanLeafPosition = some later ∧ position ≤ later) ∧
    (∀ earlier confirmation later, confirmations = earlier ++ confirmation :: later →
      (confirmation.run P (runAll P earlier db)).1 = .ok () →
      (confirmation.run P (runAll P confirmations db)).1 = .ok () ∧
        SameRows (runAll P confirmations db)
          (confirmation.run P (runAll P confirmations db)).2) ∧
    ∀ confirmation, Conflicts (runAll P confirmations db) confirmation →
      ∃ error, confirmation.run P (runAll P confirmations db) =
        (.error error, runAll P confirmations db) := by
  refine ⟨?_, ?_, ?_⟩
  · intro key row position hrow hposition
    obtain ⟨row', hrow', hrows⟩ :=
      (grows_runAll confirmations db).bundle key row hrow
    obtain ⟨later, hlater, hle⟩ := hrows.van_le position hposition
    exact ⟨row', later, hrow', hlater, hle⟩
  · rintro earlier confirmation later rfl hok
    have hfirst : Applied P (confirmation.run P (runAll P earlier db)).2 confirmation :=
      applied_of_apply (transact_eq_ok.mp (Prod.ext hok rfl))
    rw [runAll_append_cons]
    obtain ⟨db', happly, hsame⟩ := (hfirst.grows (grows_runAll later _)).replay
    rw [run, transact_eq_ok.mpr happly]
    exact ⟨rfl, hsame⟩
  · intro confirmation hconflict
    cases hrun : confirmation.run P (runAll P confirmations db) with
    | mk result db' =>
      cases result with
      | ok u => exact absurd (transact_eq_ok.mp hrun) hconflict.not_ok
      | error error => exact ⟨error, by rw [transact_error hrun]⟩

/-- The sample's first bundle is confirmed at a position. -/
def sampleDelegated (van : Nat) : BundleConfirmation :=
  .delegation (sampleIdentity 0).bundleKey (some sampleHash) van

/-- A delegation confirmed at position 3, and a late event for position 2.  The first
replays; one for position 4 conflicts. -/
theorem confirmations_monotone_delegation :
    ((sampleDelegated 3).run samplePrimitives sampleDb).1 = .ok () ∧
    (let db := BundleConfirmation.runAll samplePrimitives [sampleDelegated 3, sampleDelegated 2]
      sampleDb
    ((sampleDelegated 3).run samplePrimitives db).1 = .ok () ∧
      SameRows db ((sampleDelegated 3).run samplePrimitives db).2 ∧
      Conflicts db (sampleDelegated 4) ∧
      ∃ error, (sampleDelegated 4).run samplePrimitives db = (.error error, db)) := by
  have hfirst : ((sampleDelegated 3).run samplePrimitives sampleDb).1 = .ok () := by
    decide +kernel
  obtain ⟨-, hreplay, hconflict⟩ := confirmations_monotone samplePrimitives sampleDb
    [sampleDelegated 3, sampleDelegated 2]
  have hpast : Conflicts (BundleConfirmation.runAll samplePrimitives
      [sampleDelegated 3, sampleDelegated 2] sampleDb) (sampleDelegated 4) :=
    ⟨{ sampleBundle with vanLeafPosition := some 3 }, by decide +kernel, .inr ⟨3, rfl, by decide⟩⟩
  obtain ⟨hok, hsame⟩ := hreplay [] _ _ rfl hfirst
  exact ⟨hfirst, hok, hsame, hpast, hconflict _ hpast⟩

end ZcashVoting
