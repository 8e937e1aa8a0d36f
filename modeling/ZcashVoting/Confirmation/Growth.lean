import ZcashVoting.ChainSubmission.Confirmation
import ZcashVoting.Vote.Batch

/-!
# ZcashVoting.Confirmation.Growth

A confirmation only adds to the rows it projects onto.

`Grows` says what every confirmation does to the database: setups, votes and
ballot stay as they are, a recorded hash or position stays recorded, and a VAN
position only moves forward.  `Settles` allows in addition what the retirement of a
rejected combined generation does: a vote that is nowhere on the chain loses its
recovery, and a bundle without combined votes its combined authorizations.
-/

namespace ZcashVoting

open Transaction

/-! ## What the single writes do -/

section Writes

variable {db db' : Db} {u : Unit} {key : BundleKey} {hash : Option CandidateTransactionHash}
  {position van : Nat}

/-- A value is recorded once: nothing is stored yet, or that value. -/
def Recordable {α : Type} (stored : Option α) (value : α) : Prop :=
  ∀ x, stored = some x → x = value

instance {α : Type} [DecidableEq α] (stored : Option α) (value : α) :
    Decidable (Recordable stored value) :=
  decidable_of_iff (stored.any (· ≠ value) = false) (by cases stored <;> simp [Recordable])

theorem any_ne_eq {α : Type} [DecidableEq α] (stored : Option α) (value : α) :
    stored.any (· ≠ value) = !decide (Recordable stored value) := by
  cases stored <;> simp [Recordable]

theorem storeDelegationTxHash_eq_ok {hash : CandidateTransactionHash} :
    storeDelegationTxHash key hash db = .ok (u, db') ↔ ∃ row, db.bundles.lookup key = some row ∧
      Recordable row.delegationTxHash hash ∧
      db' = db.setBundle key { row with delegationTxHash := some hash } := by
  rw [storeDelegationTxHash, write_eq_ok]
  cases db.bundles.lookup key with
  | none => simp
  | some row =>
    simp only [Option.some.injEq, exists_eq_left', any_ne_eq]
    by_cases hrecordable : Recordable row.delegationTxHash hash <;>
      simp [hrecordable, eq_comm (a := db')]

/-- The row after its hash, if there is one, is recorded. -/
theorem lookup_recordDelegationHash {row : BundleRow} (hrow : db.bundles.lookup key = some row)
    (h : recordDelegationHash key hash db = .ok (u, db')) :
    db'.bundles.lookup key = some { row with delegationTxHash := hash.or row.delegationTxHash } := by
  cases hash with
  | none =>
    obtain ⟨-, rfl⟩ := pure_eq_ok.mp h
    simpa using hrow
  | some hash =>
    obtain ⟨stored, hstored, -, rfl⟩ := storeDelegationTxHash_eq_ok.mp h
    cases hrow.symm.trans hstored
    simp [Db.setBundle]

theorem storeVanPosition_eq_ok :
    storeVanPosition key position db = .ok (u, db') ↔ position ≤ i64Max ∧
      ∃ row, db.bundles.lookup key = some row ∧
        db' = db.setBundle key { row with vanLeafPosition := some position } := by
  rw [storeVanPosition, write_eq_ok]
  by_cases hfits : i64Max < position
  · simp [hfits, Nat.not_le.mpr hfits]
  · cases db.bundles.lookup key with
    | none => simp [hfits]
    | some row => simp [hfits, Nat.not_lt.mp hfits, eq_comm]

theorem loadBundleConfirmationFields_eq_ok {row : BundleRow} :
    loadBundleConfirmationFields key db = .ok row ↔ db.bundles.lookup key = some row := by
  unfold loadBundleConfirmationFields
  cases db.bundles.lookup key <;> simp

/-- The position moves to a later one and stays past an earlier one. -/
theorem advanceVanPosition_eq_ok :
    advanceVanPosition key position db = .ok (u, db') ↔ position ≤ i64Max ∧
      ∃ row, db.bundles.lookup key = some row ∧
        ((∃ stored, row.vanLeafPosition = some stored ∧ position < stored ∧ db' = db) ∨
          ((∀ stored, row.vanLeafPosition = some stored → stored ≤ position) ∧
            db' = db.setBundle key { row with vanLeafPosition := some position })) := by
  rw [advanceVanPosition, read_bind_eq_ok]
  simp only [loadBundleConfirmationFields_eq_ok]
  cases hrow : db.bundles.lookup key with
  | none => simp
  | some row =>
    simp only [Option.some.injEq, exists_eq_left']
    cases hstored : row.vanLeafPosition with
    | none => simp [storeVanPosition_eq_ok, hrow]
    | some stored =>
      by_cases hfits : i64Max < position
      · simp [hfits, Nat.not_le.mpr hfits]
      · by_cases hpast : position < stored
        · simp [hfits, Nat.not_lt.mp hfits, hpast, Nat.not_le.mpr hpast, eq_comm (a := db)]
        · simp [hfits, Nat.not_lt.mp hfits, hpast, Nat.not_lt.mp hpast, storeVanPosition_eq_ok, hrow]

theorem recordVoteSubmission_eq_ok {key : VoteKey} {hash : CandidateTransactionHash} :
    recordVoteSubmission key hash db = .ok (u, db') ↔
      ensureVoteSubmissionMatchesBallotIntent key db = .ok () ∧
      ∃ row, db.votes.lookup key = some row ∧
        Recordable row.txHash hash ∧
        db' = db.setVote key { row with txHash := some hash } := by
  rw [recordVoteSubmission, read_bind_eq_ok, Unique.exists_iff]
  simp only [write_eq_ok]
  cases db.votes.lookup key with
  | none => simp
  | some row =>
    simp only [Option.some.injEq, exists_eq_left', any_ne_eq]
    by_cases hrecordable : Recordable row.txHash hash <;> simp [hrecordable, eq_comm (a := db')]

theorem requireVoteRecoveryJson_eq_ok {key : VoteKey} :
    requireVoteRecoveryJson key db = .ok u ↔
      ∃ row, db.votes.lookup key = some row ∧ row.recovery.isSome = true := by
  unfold requireVoteRecoveryJson
  cases db.votes.lookup key with
  | none => simp
  | some row => simp [Option.isSome_iff_ne_none]

/-- The position a vote and its recovery are given. -/
theorem recordVcPosition_eq_ok {key : VoteKey} :
    recordVcPosition key position db = .ok (u, db') ↔ position ≤ i64Max ∧
      ∃ row, db.votes.lookup key = some row ∧
        Recordable row.vcTreePosition position ∧
        (∀ recovery, row.recovery = some recovery →
          validateRecoveryMatchesStoredVote recovery key.bundle.roundId key.bundle.bundleIndex
            key.proposalId row.choice row.commitment = .ok ()) ∧
        db' = db.setVote key { row with
          vcTreePosition := some position
          recovery := row.recovery.map fun recovery => { recovery with vcTreePosition := position } } := by
  rw [recordVcPosition, write_eq_ok]
  by_cases hfits : i64Max < position
  · simp [hfits, Nat.not_le.mpr hfits]
  · cases hrow : db.votes.lookup key with
    | none => simp [hfits]
    | some row =>
      simp only [hfits, if_false, Option.some.injEq, exists_eq_left', any_ne_eq,
        Nat.not_lt.mp hfits, true_and]
      by_cases hrecordable : Recordable row.vcTreePosition position
      · cases row.recovery with
        | none => simp [hrecordable, eq_comm (a := db')]
        | some recovery =>
          cases hvalid : validateRecoveryMatchesStoredVote recovery key.bundle.roundId
              key.bundle.bundleIndex key.proposalId row.choice row.commitment with
          | error e => simp [hrecordable, hvalid]
          | ok _ => simp [hrecordable, hvalid, eq_comm (a := db')]
      · simp [hrecordable]

/-! ## What the confirmations do -/

theorem requireTreePosition_eq_ok {field : String} :
    requireTreePosition position field = .ok u ↔ position < treeCapacity := by
  unfold requireTreePosition
  split <;> simp_all

theorem checkTextConflict_eq_ok {stored : Option CandidateTransactionHash}
    {hash : CandidateTransactionHash} {field : String} :
    checkTextConflict stored hash field = .ok u ↔ Recordable stored hash := by
  cases stored with
  | none => simp [checkTextConflict, Recordable]
  | some stored =>
    by_cases hsame : stored = hash
    · simp [checkTextConflict, hsame, Recordable]
    · simp only [checkTextConflict, ne_eq, hsame, not_false_eq_true, if_true, reduceCtorEq, false_iff]
      exact fun h => hsame (h stored rfl)

/-- A late delegation event is accepted, one past the stored position is not. -/
theorem delegationVanPositionShouldUpdate_eq_ok {stored : Option Nat} {b : Bool} :
    delegationVanPositionShouldUpdate stored position = .ok b ↔ position ≤ i64Max ∧
      (∀ existing, stored = some existing → position ≤ existing) ∧ b = stored.isNone := by
  unfold delegationVanPositionShouldUpdate
  by_cases hfits : i64Max < position
  · simp [hfits, Nat.not_le.mpr hfits]
  · cases stored with
    | none => simp [hfits, Nat.not_lt.mp hfits, eq_comm]
    | some existing =>
      by_cases hlate : existing < position
      · simp [hfits, hlate, Nat.not_le.mpr hlate]
      · simp [hfits, hlate, Nat.not_lt.mp hfits, Nat.not_lt.mp hlate, eq_comm]

theorem applyDelegationConfirmation_eq_ok :
    applyDelegationConfirmation key hash van db = .ok (u, db') ↔ van < treeCapacity ∧
      ∃ row, db.bundles.lookup key = some row ∧
        (∀ value, hash = some value → Recordable row.delegationTxHash value) ∧
        (∀ stored, row.vanLeafPosition = some stored → van ≤ stored) ∧
        ∃ mid, recordDelegationHash key hash db = .ok ((), mid) ∧
          (if row.vanLeafPosition = none then storeVanPosition key van mid = .ok (u, db')
            else db' = mid) := by
  simp only [applyDelegationConfirmation, bind_eq_ok, read_eq_ok, requireTreePosition_eq_ok,
    Unique.exists_iff, and_assoc, exists_eq_left', exists_and_left,
    loadBundleConfirmationFields_eq_ok, delegationVanPositionShouldUpdate_eq_ok, exists_eq_left]
  refine and_congr_right fun hvan => exists_congr fun row => and_congr_right fun _ =>
    and_congr ?_ ?_
  · cases hash with
    | none => simp
    | some value => simp [checkTextConflict_eq_ok]
  have hfits : van ≤ i64Max := hvan.le.trans (by decide)
  simp only [hfits, true_and]
  refine and_congr_right fun _ => exists_congr fun mid => and_congr_right fun _ => ?_
  cases row.vanLeafPosition <;> simp [eq_comm (a := db')]

theorem applyVoteConfirmation_eq_ok {key : VoteKey} {vc : Nat} :
    applyVoteConfirmation key hash van vc db = .ok (u, db') ↔ van < treeCapacity ∧
      vc < treeCapacity ∧ ensureSingletonVoteUpdate key db = .ok () ∧
      ∃ hashed, recordVoteHash key hash db = .ok ((), hashed) ∧
        requireVoteRecoveryJson key hashed = .ok () ∧
        ∃ advanced, advanceVanPosition key.bundle van hashed = .ok ((), advanced) ∧
          recordVcPosition key vc advanced = .ok (u, db') := by
  simp only [applyVoteConfirmation, bind_eq_ok, read_eq_ok, requireTreePosition_eq_ok,
    Unique.exists_iff, and_assoc, exists_eq_left', exists_and_left]

theorem applyVoteBatchConfirmation_eq_ok {P : Primitives} {bundle : BundleKey} {digest : Bytes32}
    {vcs proposals : List Nat} :
    applyVoteBatchConfirmation P bundle digest hash van vcs proposals db = .ok (u, db') ↔
      van < treeCapacity ∧ (∀ vc ∈ vcs, vc < treeCapacity) ∧
      (∃ recoveries, loadVoteBatchRecoveries P db bundle digest = .ok recoveries ∧
        proposals = recoveries.map (·.proposalId) ∧ vcs.length = recoveries.length) ∧
      ∃ placed, ForM.forM (proposals.zip vcs) (applyBatchMember bundle hash) db = .ok ((), placed) ∧
        advanceVanPosition bundle van placed = .ok (u, db') := by
  simp only [applyVoteBatchConfirmation, bind_eq_ok, read_eq_ok, requireTreePosition_eq_ok,
    forM_read_eq_ok, require_eq_ok, decide_eq_true_eq, Unique.exists_iff, and_assoc, exists_eq_left',
    exists_and_left]
  constructor
  · rintro ⟨hvan, hvcs, recoveries, hload, rfl, hlength, placed, hplaced, hadvance⟩
    exact ⟨hvan, hvcs, ⟨recoveries, hload, rfl, hlength⟩, placed, hplaced, hadvance⟩
  · rintro ⟨hvan, hvcs, ⟨recoveries, hload, rfl, hlength⟩, placed, hplaced, hadvance⟩
    exact ⟨hvan, hvcs, recoveries, hload, rfl, hlength, placed, hplaced, hadvance⟩

theorem applyBatchMember_eq_ok {bundle : BundleKey} {member : Nat × Nat} :
    applyBatchMember bundle hash member db = .ok (u, db') ↔
      ∃ hashed, recordVoteHash ⟨bundle, member.1⟩ hash db = .ok ((), hashed) ∧
        requireVoteRecoveryJson ⟨bundle, member.1⟩ hashed = .ok () ∧
        recordVcPosition ⟨bundle, member.1⟩ member.2 hashed = .ok (u, db') := by
  simp only [applyBatchMember, bind_eq_ok, read_eq_ok, Unique.exists_iff, and_assoc,
    exists_and_left, exists_eq_left']

end Writes

/-! ## Growth -/

/-- A bundle row that kept its setup and its hash and whose position did not move
back. -/
structure BundleRow.Grows (row row' : BundleRow) : Prop where
  setup_eq : row' = { row with
    vanLeafPosition := row'.vanLeafPosition, delegationTxHash := row'.delegationTxHash }
  hash_kept : ∀ hash, row.delegationTxHash = some hash → row'.delegationTxHash = some hash
  van_le : ∀ position, row.vanLeafPosition = some position →
    ∃ later, row'.vanLeafPosition = some later ∧ position ≤ later

/-- A vote row that kept its vote, its hash and its position.  Its recovery is the
same, or has the position that is recorded. -/
structure VoteRow.Grows (row row' : VoteRow) : Prop extends row.SameVote row' where
  hash_kept : ∀ hash, row.txHash = some hash → row'.txHash = some hash
  position_kept : ∀ position, row.vcTreePosition = some position →
    row'.vcTreePosition = some position
  recovery_placed : ∀ recovery, row'.recovery = some recovery →
    row.recovery = some recovery ∨ row'.vcTreePosition = some recovery.vcTreePosition

@[refl] theorem BundleRow.Grows.refl (row : BundleRow) : row.Grows row :=
  ⟨rfl, fun _ h => h, fun position h => ⟨position, h, le_rfl⟩⟩

theorem BundleRow.Grows.trans {a b c : BundleRow} (hab : a.Grows b) (hbc : b.Grows c) :
    a.Grows c := by
  refine ⟨?_, fun hash h => hbc.hash_kept hash (hab.hash_kept hash h), fun position h => ?_⟩
  · rw [hbc.setup_eq, hab.setup_eq]
  · obtain ⟨later, hlater, hle⟩ := hab.van_le position h
    obtain ⟨last, hlast, hle'⟩ := hbc.van_le later hlater
    exact ⟨last, hlast, hle.trans hle'⟩

@[refl] theorem VoteRow.Grows.refl (row : VoteRow) : row.Grows row :=
  ⟨⟨rfl, rfl, rfl⟩, fun _ h => h, fun _ h => h, fun _ h => .inl h⟩

theorem VoteRow.Grows.trans {a b c : VoteRow} (hab : a.Grows b) (hbc : b.Grows c) : a.Grows c := by
  refine ⟨⟨hbc.choice_eq.trans hab.choice_eq, hbc.commitment_eq.trans hab.commitment_eq,
    hbc.recovery_eq.trans hab.recovery_eq⟩, fun hash h => hbc.hash_kept hash (hab.hash_kept hash h),
    fun position h => hbc.position_kept position (hab.position_kept position h),
    fun recovery h => ?_⟩
  rcases hbc.recovery_placed recovery h with hsame | hplaced
  · rcases hab.recovery_placed recovery hsame with hfirst | hplaced
    · exact .inl hfirst
    · exact .inr (hbc.position_kept _ hplaced)
  · exact .inr hplaced

/-- What confirmations do to a database. -/
structure Grows (db db' : Db) : Prop where
  rounds_eq : db'.rounds = db.rounds
  proofs_eq : db'.proofs = db.proofs
  ballotIntent_eq : db'.ballotIntent = db.ballotIntent
  submissions_eq : db'.chainSubmissions = db.chainSubmissions
  authorizations_eq : db'.delegateCastRecovery = db.delegateCastRecovery
  bundle : ∀ key row, db.bundles.lookup key = some row →
    ∃ row', db'.bundles.lookup key = some row' ∧ row.Grows row'
  vote : ∀ key row, db.votes.lookup key = some row →
    ∃ row', db'.votes.lookup key = some row' ∧ row.Grows row'
  vote_of : ∀ key row', db'.votes.lookup key = some row' →
    ∃ row, db.votes.lookup key = some row ∧ row.Grows row'

namespace Grows

variable {key : BundleKey} {hash : Option CandidateTransactionHash} {u : Unit}

@[refl] theorem refl (db : Db) : Grows db db :=
  ⟨rfl, rfl, rfl, rfl, rfl, fun _ row h => ⟨row, h, .refl row⟩, fun _ row h => ⟨row, h, .refl row⟩,
    fun _ row h => ⟨row, h, .refl row⟩⟩

theorem trans {a b c : Db} (hab : Grows a b) (hbc : Grows b c) : Grows a c where
  rounds_eq := hbc.rounds_eq.trans hab.rounds_eq
  proofs_eq := hbc.proofs_eq.trans hab.proofs_eq
  ballotIntent_eq := hbc.ballotIntent_eq.trans hab.ballotIntent_eq
  submissions_eq := hbc.submissions_eq.trans hab.submissions_eq
  authorizations_eq := hbc.authorizations_eq.trans hab.authorizations_eq
  bundle key row h := by
    obtain ⟨mid, hmid, hgrows⟩ := hab.bundle key row h
    obtain ⟨last, hlast, hgrows'⟩ := hbc.bundle key mid hmid
    exact ⟨last, hlast, hgrows.trans hgrows'⟩
  vote key row h := by
    obtain ⟨mid, hmid, hgrows⟩ := hab.vote key row h
    obtain ⟨last, hlast, hgrows'⟩ := hbc.vote key mid hmid
    exact ⟨last, hlast, hgrows.trans hgrows'⟩
  vote_of key row h := by
    obtain ⟨mid, hmid, hgrows'⟩ := hbc.vote_of key row h
    obtain ⟨first, hfirst, hgrows⟩ := hab.vote_of key mid hmid
    exact ⟨first, hfirst, hgrows.trans hgrows'⟩

instance : Std.Refl Grows := ⟨Grows.refl⟩

instance : IsTrans Db Grows := ⟨fun _ _ _ => Grows.trans⟩

variable {db db' : Db}

theorem setBundle {row row' : BundleRow} (hrow : db.bundles.lookup key = some row)
    (hgrows : row.Grows row') : Grows db (db.setBundle key row') := by
  refine { refl db with bundle := fun other stored hstored => ?_ }
  by_cases hkey : other = key
  · subst hkey
    cases hrow.symm.trans hstored
    exact ⟨row', by simp [Db.setBundle], hgrows⟩
  · exact ⟨stored, by simp [Db.setBundle, AList.lookup_insert_ne hkey, hstored], .refl stored⟩

theorem setVote {key : VoteKey} {row row' : VoteRow} (hrow : db.votes.lookup key = some row)
    (hgrows : row.Grows row') : Grows db (db.setVote key row') := by
  refine { refl db with vote := fun other stored hstored => ?_
                        vote_of := fun other stored hstored => ?_ }
  · by_cases hkey : other = key
    · subst hkey
      cases hrow.symm.trans hstored
      exact ⟨row', by simp [Db.setVote], hgrows⟩
    · exact ⟨stored, by simp [Db.setVote, AList.lookup_insert_ne hkey, hstored], .refl stored⟩
  · by_cases hkey : other = key
    · subst hkey
      simp only [Db.setVote, AList.lookup_insert, Option.some.injEq] at hstored
      subst hstored
      exact ⟨row, hrow, hgrows⟩
    · rw [Db.setVote, AList.lookup_insert_ne hkey] at hstored
      exact ⟨stored, hstored, .refl stored⟩

theorem recordDelegationHash (h : ZcashVoting.recordDelegationHash key hash db = .ok (u, db')) :
    Grows db db' := by
  cases hash with
  | none => obtain ⟨-, rfl⟩ := pure_eq_ok.mp h; exact refl db
  | some hash =>
    obtain ⟨row, hrow, hrecordable, rfl⟩ := storeDelegationTxHash_eq_ok.mp h
    refine setBundle hrow ⟨rfl, fun stored hstored => ?_, fun position h => ⟨position, h, le_rfl⟩⟩
    rw [hrecordable stored hstored]

theorem advanceVanPosition {position : Nat}
    (h : ZcashVoting.advanceVanPosition key position db = .ok (u, db')) : Grows db db' := by
  obtain ⟨-, row, hrow, ⟨_, -, -, rfl⟩ | ⟨hle, rfl⟩⟩ := advanceVanPosition_eq_ok.mp h
  · exact refl _
  · exact setBundle hrow ⟨rfl, fun _ h => h, fun stored hstored =>
      ⟨position, rfl, hle stored hstored⟩⟩

theorem recordVoteHash {key : VoteKey}
    (h : ZcashVoting.recordVoteHash key hash db = .ok (u, db')) : Grows db db' := by
  cases hash with
  | none => obtain ⟨-, rfl⟩ := pure_eq_ok.mp h; exact refl db
  | some hash =>
    obtain ⟨-, row, hrow, hrecordable, rfl⟩ := recordVoteSubmission_eq_ok.mp h
    refine setVote hrow ⟨⟨rfl, rfl, rfl⟩, fun stored hstored => ?_, fun _ h => h, fun _ h => .inl h⟩
    rw [hrecordable stored hstored]

theorem recordVcPosition {key : VoteKey} {position : Nat}
    (h : ZcashVoting.recordVcPosition key position db = .ok (u, db')) : Grows db db' := by
  obtain ⟨-, row, hrow, hrecordable, -, rfl⟩ := recordVcPosition_eq_ok.mp h
  refine setVote hrow ⟨⟨rfl, rfl, ?_⟩, fun _ h => h, fun stored hstored => ?_, fun recovery h => ?_⟩
  · rw [Option.map_map]
    rfl
  · rw [hrecordable stored hstored]
  · obtain ⟨stored, -, rfl⟩ := Option.map_eq_some_iff.mp h
    exact .inr rfl

theorem applyDelegationConfirmation {van : Nat}
    (h : ZcashVoting.applyDelegationConfirmation key hash van db = .ok (u, db')) : Grows db db' := by
  obtain ⟨-, row, hrow, -, -, mid, hhash, hvan⟩ := applyDelegationConfirmation_eq_ok.mp h
  have hmid := recordDelegationHash hhash
  split at hvan
  · next hnone =>
    obtain ⟨-, stored, hstored, rfl⟩ := storeVanPosition_eq_ok.mp hvan
    cases hstored.symm.trans (lookup_recordDelegationHash hrow hhash)
    exact hmid.trans (setBundle hstored ⟨rfl, fun _ h => h, fun position hposition =>
      nomatch hnone.symm.trans hposition⟩)
  · subst hvan
    exact hmid

theorem applyVoteConfirmation {key : VoteKey} {van vc : Nat}
    (h : ZcashVoting.applyVoteConfirmation key hash van vc db = .ok (u, db')) : Grows db db' := by
  obtain ⟨-, -, -, hashed, hhash, -, advanced, hadvance, hplace⟩ := applyVoteConfirmation_eq_ok.mp h
  exact (recordVoteHash hhash).trans ((advanceVanPosition hadvance).trans (recordVcPosition hplace))

theorem applyBatchMember (bundle : BundleKey) (hash : Option CandidateTransactionHash)
    (member : Nat × Nat) : Within Grows (ZcashVoting.applyBatchMember bundle hash member) :=
  Within.bind (fun _ _ _ => recordVoteHash) fun _ =>
    Within.bind (Within.read _) fun _ _ _ _ => recordVcPosition

theorem applyVoteBatchConfirmation {P : Primitives} (bundle : BundleKey) (digest : Bytes32)
    (hash : Option CandidateTransactionHash) (van : Nat) (vcs proposals : List Nat) :
    Within Grows (ZcashVoting.applyVoteBatchConfirmation P bundle digest hash van vcs proposals) :=
  Within.bind (Within.read _) fun _ => Within.bind (Within.forM (fun _ => Within.read _) _) fun _ =>
    Within.bind (Within.read _) fun _ => Within.bind (Within.require _ _) fun _ =>
      Within.bind (Within.require _ _) fun _ =>
        Within.bind (Within.forM (applyBatchMember bundle hash) _) fun _ _ _ _ => advanceVanPosition

theorem applyCombinedConfirmation (bundle : BundleKey) (hash : Option CandidateTransactionHash) :
    Within Grows (ZcashVoting.applyCombinedConfirmation bundle hash) := by
  refine Within.bind (fun _ _ _ => recordDelegationHash) fun _ => Within.write fun db db' h => ?_
  cases h
  exact { refl db with }

/-- The projection of a confirmed generation. -/
theorem applyConfirmedGeneration (P : Primitives) (bound : BoundGeneration)
    (confirmation : ValidatedChainSubmissionConfirmation) :
    Within Grows (ZcashVoting.applyConfirmedGeneration P bound confirmation) := by
  have batch : ∀ digest (commitments : List Bytes32), Within Grows
      (if confirmation.confirmation.voteCommitmentPositions.length = commitments.length ∧
          bound.orderedProposalIds.length =
            confirmation.confirmation.voteCommitmentPositions.length then do
        ZcashVoting.applyVoteBatchConfirmation P bound.generation.identity.bundleKey digest
          confirmation.confirmation.transactionHash confirmation.confirmation.finalVanPosition
          confirmation.confirmation.voteCommitmentPositions bound.orderedProposalIds
        if bound.generation.identity.target.isCombined then
          ZcashVoting.applyCombinedConfirmation bound.generation.identity.bundleKey
            confirmation.confirmation.transactionHash
      else abort (.invalidInput
        "confirmed positions do not match the semantic generation layout")) := by
    intro digest commitments
    split
    · refine Within.bind (applyVoteBatchConfirmation _ _ _ _ _ _) fun _ => ?_
      split
      · exact applyCombinedConfirmation _ _
      · exact Within.pure _
    · exact Within.abort _
  unfold ZcashVoting.applyConfirmedGeneration
  dsimp only
  split
  · split
    · exact fun _ _ _ => applyDelegationConfirmation
    · exact Within.abort _
  · split
    · exact fun _ _ _ => applyVoteConfirmation
    · exact Within.abort _
  · exact batch _ _
  · exact batch _ _
  · exact Within.abort _

end Grows

/-! ## Retirement -/

/-- A vote row that kept its vote and its position, and its recovery unless it is
nowhere on the chain. -/
structure VoteRow.Settles (row row' : VoteRow) : Prop where
  choice_eq : row'.choice = row.choice
  commitment_eq : row'.commitment = row.commitment
  position_kept : ∀ position, row.vcTreePosition = some position →
    row'.vcTreePosition = some position
  recovery : row'.recovery.map (·.unconfirmed) = row.recovery.map (·.unconfirmed) ∨
    (row'.recovery = none ∧ row.vcTreePosition = none)

theorem VoteRow.Grows.settles {row row' : VoteRow} (h : row.Grows row') : row.Settles row' :=
  ⟨h.choice_eq, h.commitment_eq, h.position_kept, .inl h.recovery_eq⟩

theorem VoteRow.Settles.trans {a b c : VoteRow} (hab : a.Settles b) (hbc : b.Settles c) :
    a.Settles c := by
  refine ⟨hbc.choice_eq.trans hab.choice_eq, hbc.commitment_eq.trans hab.commitment_eq,
    fun position h => hbc.position_kept position (hab.position_kept position h), ?_⟩
  rcases hbc.recovery with hsame | ⟨hgone, hplaced⟩
  · rcases hab.recovery with hfirst | ⟨hgone, hplaced⟩
    · exact .inl (hsame.trans hfirst)
    · rw [hgone, Option.map_none, Option.map_eq_none_iff] at hsame
      exact .inr ⟨hsame, hplaced⟩
  · refine .inr ⟨hgone, ?_⟩
    cases hfirst : a.vcTreePosition with
    | none => rfl
    | some position => exact nomatch hplaced.symm.trans (hab.position_kept position hfirst)

/-- No recovery on the bundle belongs to a combined batch. -/
def NoCombined (db : Db) (bundle : BundleKey) : Prop :=
  ∀ key row recovery, db.votes.lookup key = some row → key.bundle = bundle →
    row.recovery = some recovery → recovery.delegationVan? = none

/-- What confirmations and retirements do to a database. -/
structure Settles (db db' : Db) : Prop where
  rounds_eq : db'.rounds = db.rounds
  proofs_eq : db'.proofs = db.proofs
  submissions_eq : db'.chainSubmissions = db.chainSubmissions
  bundle : ∀ key row, db.bundles.lookup key = some row →
    ∃ row', db'.bundles.lookup key = some row' ∧ row.Grows row'
  vote : ∀ key row, db.votes.lookup key = some row →
    ∃ row', db'.votes.lookup key = some row' ∧ row.Settles row'
  vote_of : ∀ key row', db'.votes.lookup key = some row' →
    ∃ row, db.votes.lookup key = some row ∧ row.Settles row'
  authorization : ∀ bundle digest stored,
    db.delegateCastRecovery.lookup (bundle, digest) = some stored →
    db'.delegateCastRecovery.lookup (bundle, digest) = some stored ∨ NoCombined db' bundle

theorem Grows.settles {db db' : Db} (h : Grows db db') : Settles db db' where
  rounds_eq := h.rounds_eq
  proofs_eq := h.proofs_eq
  submissions_eq := h.submissions_eq
  bundle := h.bundle
  vote key row hrow := by
    obtain ⟨row', hrow', hgrows⟩ := h.vote key row hrow
    exact ⟨row', hrow', hgrows.settles⟩
  vote_of key row hrow := by
    obtain ⟨row', hrow', hgrows⟩ := h.vote_of key row hrow
    exact ⟨row', hrow', hgrows.settles⟩
  authorization bundle digest stored hstored := .inl (by rw [h.authorizations_eq]; exact hstored)

namespace Settles

@[refl] theorem refl (db : Db) : Settles db db := (Grows.refl db).settles

/-- Recoveries are not made. -/
theorem noCombined {db db' : Db} (h : Settles db db') {bundle : BundleKey}
    (hnone : NoCombined db bundle) : NoCombined db' bundle := by
  intro key row' recovery' hrow' hbundle hrecovery'
  obtain ⟨row, hrow, hsettles⟩ := h.vote_of key row' hrow'
  rcases hsettles.recovery with hsame | ⟨hgone, -⟩
  · rw [hrecovery', Option.map_some, eq_comm, Option.map_eq_some_iff] at hsame
    obtain ⟨recovery, hrecovery, hunconfirmed⟩ := hsame
    rw [VoteRecoveryBundle.eq_of_unconfirmed (f := VoteRecoveryBundle.delegationVan?)
      (fun _ => rfl) hunconfirmed.symm]
    exact hnone key row recovery hrow hbundle hrecovery
  · exact nomatch hgone.symm.trans hrecovery'

theorem trans {a b c : Db} (hab : Settles a b) (hbc : Settles b c) : Settles a c where
  rounds_eq := hbc.rounds_eq.trans hab.rounds_eq
  proofs_eq := hbc.proofs_eq.trans hab.proofs_eq
  submissions_eq := hbc.submissions_eq.trans hab.submissions_eq
  bundle key row h := by
    obtain ⟨mid, hmid, hgrows⟩ := hab.bundle key row h
    obtain ⟨last, hlast, hgrows'⟩ := hbc.bundle key mid hmid
    exact ⟨last, hlast, hgrows.trans hgrows'⟩
  vote key row h := by
    obtain ⟨mid, hmid, hsettles⟩ := hab.vote key row h
    obtain ⟨last, hlast, hsettles'⟩ := hbc.vote key mid hmid
    exact ⟨last, hlast, hsettles.trans hsettles'⟩
  vote_of key row h := by
    obtain ⟨mid, hmid, hsettles'⟩ := hbc.vote_of key row h
    obtain ⟨first, hfirst, hsettles⟩ := hab.vote_of key mid hmid
    exact ⟨first, hfirst, hsettles.trans hsettles'⟩
  authorization bundle digest stored h := by
    rcases hab.authorization bundle digest stored h with hkept | hgone
    · exact hbc.authorization bundle digest stored hkept
    · exact .inr (hbc.noCombined hgone)

instance : Std.Refl Settles := ⟨Settles.refl⟩

instance : IsTrans Db Settles := ⟨fun _ _ _ => Settles.trans⟩

theorem clearUnsubmittedVoteRecovery (key : VoteKey) :
    Within Settles (ZcashVoting.clearUnsubmittedVoteRecovery key) := by
  refine Within.write fun db db' h => ?_
  cases hrow : db.votes.lookup key with
  | none => simp [hrow, ZcashVoting.clearUnsubmittedVoteRecovery.changed] at h
  | some row =>
    simp only [hrow] at h
    split at h
    case isFalse => simp [ZcashVoting.clearUnsubmittedVoteRecovery.changed] at h
    next hopen =>
    cases h
    have hcleared : row.Settles { row with recovery := none } :=
      ⟨rfl, rfl, fun _ h => h, .inr ⟨rfl, by simp_all⟩⟩
    refine { refl db with vote := fun other stored hstored => ?_
                          vote_of := fun other stored hstored => ?_
                          authorization := fun _ _ _ h => .inl h }
    · by_cases hkey : other = key
      · subst hkey
        cases hrow.symm.trans hstored
        exact ⟨_, AList.lookup_insert _, hcleared⟩
      · exact ⟨stored, by simp [AList.lookup_insert_ne hkey, hstored],
          (VoteRow.Grows.refl stored).settles⟩
    · by_cases hkey : other = key
      · subst hkey
        simp only [Db.deleteShares_votes, Db.setVote_votes, AList.lookup_insert,
          Option.some.injEq] at hstored
        subst hstored
        exact ⟨row, hrow, hcleared⟩
      · rw [Db.deleteShares_votes, Db.setVote_votes, AList.lookup_insert_ne hkey] at hstored
        exact ⟨stored, hstored, (VoteRow.Grows.refl stored).settles⟩

theorem retireCombinedAuthorization (bundle : BundleKey) :
    Within Settles (ZcashVoting.retireCombinedAuthorization bundle) := by
  refine Within.write fun db db' h => ?_
  split at h
  · cases h; exact refl _
  · next hnone =>
    cases h
    have hplain : ∀ recovery ∈ db.bundleRecoveries bundle, recovery.delegationVan? = none := by
      simpa using hnone
    refine { refl db with authorization := fun other digest stored hstored => ?_ }
    by_cases hother : other = bundle
    · refine .inr fun key row recovery hrow hbundle hrecovery => ?_
      refine hplain recovery (List.mem_filterMap.mpr ⟨(key, row), Table.mem_rows.mpr hrow, ?_⟩)
      simp [hbundle, hother, hrecovery]
    · refine .inl ((Table.lookup_foldl_erase _ (fun entry hentry hkey => hother ?_) _).trans hstored)
      have hbundle := (List.mem_filter.mp hentry).2
      rwa [hkey, decide_eq_true_eq] at hbundle

theorem clearVoteBatchRecovery (P : Primitives) (bundle : BundleKey) (digest : Bytes32) :
    Within Settles (ZcashVoting.clearVoteBatchRecovery P bundle digest) := by
  refine Within.bind (Within.read _) fun members => Within.bind
    (Within.forM (fun p => clearUnsubmittedVoteRecovery ⟨bundle, p⟩) _) fun _ => ?_
  split
  · exact Within.bind (retireCombinedAuthorization bundle) fun _ => Within.pure _
  · exact Within.pure _

/-- The retirement of a rejected combined generation. -/
theorem retireRejectedCombinedGeneration (P : Primitives) (identity : ChainSubmissionIdentity)
    (diagnostic : ChainSubmissionDiagnostic) (now : Nat) :
    Within Settles (ZcashVoting.retireRejectedCombinedGeneration P identity diagnostic now) := by
  unfold ZcashVoting.retireRejectedCombinedGeneration
  split
  · refine Within.bind (Within.read _) fun _ => Within.bind (clearVoteBatchRecovery P _ _) fun _ =>
      Within.bind (Within.require _ _) fun _ => Within.write fun db db' h => ?_
    split at h <;> cases h
    exact { refl db with }
  · exact Within.abort _

end Settles

end ZcashVoting
