import ZcashVoting.ChainSubmission.Store.Schema
import ZcashVoting.Confirmation.Replay

/-!
# ZcashVoting.ChainSubmission.Store.Replay

A confirmation that comes again.  A confirmed row refuses every confirmation but its own, and
accepts its own while the votes and bundles hold what it wrote and the clock fits a column.
This completes the bookkeeping of a run.
-/

namespace ZcashVoting

open Transaction

/-! ## What a confirmed generation writes -/

section Projection

variable {P : Primitives} {db db' : Db} {bound : BoundGeneration}
  {confirmation : ValidatedChainSubmissionConfirmation}

/-- The confirmation of a bundle that a confirmed generation applies. -/
def BoundGeneration.projection (bound : BoundGeneration)
    (confirmation : ValidatedChainSubmissionConfirmation) : Option BundleConfirmation :=
  let bundle := bound.generation.identity.bundleKey
  let value := confirmation.confirmation
  let positions := value.voteCommitmentPositions
  let batch (digest : Bytes32) (commitments : List Bytes32) : Option BundleConfirmation :=
    if positions.length = commitments.length ∧
        bound.orderedProposalIds.length = positions.length then
      some (.voteBatch bundle digest value.transactionHash value.finalVanPosition positions
        bound.orderedProposalIds)
    else none
  match bound.generation.identity.target, bound.expectedLayout with
  | .delegation, .delegation _ =>
    if positions = [] then some (.delegation bundle value.transactionHash value.finalVanPosition)
    else none
  | .vote proposalId, .vote _ _ =>
    match positions with
    | [position] => some (.vote ⟨bundle, proposalId⟩ value.transactionHash value.finalVanPosition
        position)
    | _ => none
  | .voteBatch digest, .voteBatch _ commitments => batch digest commitments
  | .delegateAndVoteBatch digest, .voteBatch _ commitments => batch digest commitments
  | _, _ => none

/-- The votes and bundles hold what the confirmation writes to them. -/
def Projected (P : Primitives) (db : Db) (bound : BoundGeneration)
    (confirmation : ValidatedChainSubmissionConfirmation) : Prop :=
  ∃ applied, bound.projection confirmation = some applied ∧ Applied P db applied ∧
    (bound.generation.identity.target.isCombined = true →
      ∀ hash, confirmation.confirmation.transactionHash = some hash →
        (db.bundles.lookup bound.generation.identity.bundleKey).bind (·.delegationTxHash) = some hash)

theorem applyConfirmedGeneration_eq_ok :
    applyConfirmedGeneration P bound confirmation db = .ok ((), db') ↔
      ∃ applied mid, bound.projection confirmation = some applied ∧
        applied.apply P db = .ok ((), mid) ∧
        if bound.generation.identity.target.isCombined then
          applyCombinedConfirmation bound.generation.identity.bundleKey
            confirmation.confirmation.transactionHash mid = .ok ((), db')
        else mid = db' := by
  unfold applyConfirmedGeneration BoundGeneration.projection
  generalize bound.generation.identity.target = target
  cases target <;> cases bound.expectedLayout <;> dsimp only [ChainSubmissionTarget.isCombined] <;>
    (try split) <;> simp_all [BundleConfirmation.apply, Unique.exists_iff]

theorem Projected.apply (h : Projected P db bound confirmation) :
    ∃ db', applyConfirmedGeneration P bound confirmation db = .ok ((), db') := by
  obtain ⟨applied, hprojection, happlied, hcombined⟩ := h
  obtain ⟨mid, happly, hsame⟩ := happlied.replay
  by_cases htarget : bound.generation.identity.target.isCombined = true
  · have hhash := hcombined htarget
    simp only [← hsame.bundle_eq] at hhash
    obtain ⟨recorded, hrecord, -⟩ := recordDelegationHash_again hhash
    have hrest : applyCombinedConfirmation bound.generation.identity.bundleKey
        confirmation.confirmation.transactionHash mid = .ok ((), _) :=
      bind_eq_ok.mpr ⟨(), recorded, hrecord, write_eq_ok.mpr rfl⟩
    exact ⟨_, applyConfirmedGeneration_eq_ok.mpr
      ⟨applied, mid, hprojection, happly, by rwa [if_pos htarget]⟩⟩
  · exact ⟨mid, applyConfirmedGeneration_eq_ok.mpr
      ⟨applied, mid, hprojection, happly, by rw [if_neg htarget]⟩⟩

theorem projected_of_apply (h : applyConfirmedGeneration P bound confirmation db = .ok ((), db')) :
    Projected P db' bound confirmation := by
  obtain ⟨applied, mid, hprojection, happly, hrest⟩ := applyConfirmedGeneration_eq_ok.mp h
  have happlied := applied_of_apply happly
  split at hrest
  · refine ⟨applied, hprojection,
      happlied.grows (Grows.applyCombinedConfirmation _ _ _ _ _ hrest), fun _ hash hhash => ?_⟩
    obtain ⟨_, recorded, hrecord, hclear⟩ := bind_eq_ok.mp hrest
    cases write_eq_ok.mp hclear
    rw [hhash] at hrecord
    obtain ⟨row, -, -, rfl⟩ := storeDelegationTxHash_eq_ok.mp hrecord
    simp [Db.setBundle]
  · next hsingle =>
    subst hrest
    exact ⟨applied, hprojection, happlied, fun hcombined => absurd hcombined hsingle⟩

/-- The submissions do not enter. -/
theorem Projected.setSubmission (h : Projected P db bound confirmation)
    (identity : ChainSubmissionIdentity) (row : ChainSubmissionRow) :
    Projected P (db.setSubmission identity row) bound confirmation := by
  obtain ⟨applied, hprojection, happlied, hcombined⟩ := h
  have hplaced : ∀ key hash vc, (∃ row recovery, VotePlaced db key hash vc row recovery) →
      ∃ row' recovery, VotePlaced (db.setSubmission identity row) key hash vc row' recovery :=
    fun _ _ _ ⟨row', recovery, h⟩ => ⟨row', recovery, { h with }⟩
  refine ⟨applied, hprojection, ?_, hcombined⟩
  cases applied with
  | delegation => exact happlied
  | vote =>
    obtain ⟨hvan, hvc, hreached, hsingleton, hvote⟩ := happlied
    exact ⟨hvan, hvc, hreached, hsingleton, hplaced _ _ _ hvote⟩
  | voteBatch =>
    obtain ⟨hvan, hvcs, hreached, hloaded, hmembers⟩ := happlied
    exact ⟨hvan, hvcs, hreached, hloaded, fun member hmember => hplaced _ _ _ (hmembers member hmember)⟩

end Projection

/-! ## Confirmation calls -/

/-- A confirmation call that may commit, whose row and generation are the expected ones and whose
evidence is valid: the record it loads, what it derives, the confirmation and the clock. -/
inductive StoreOp.Brings (P : Primitives) (db : Db) : StoreOp → StoredChainSubmission →
    DerivedChainSubmission → ValidatedChainSubmissionConfirmation → Nat → Prop where
  | committed {request generation candidate events now record derived confirmation}
      (hconfirming : Confirming P db request generation record derived)
      (hevidence : validateHashConfirmation P derived candidate events = .ok confirmation) :
      Brings P db (.confirmCommitted request generation candidate events true now) record derived
        confirmation now
  | tree {request generation van vcs now record derived confirmation}
      (hconfirming : Confirming P db request generation record derived)
      (hroster : request.verifyBatchRoster derived.orderedProposalIds = .ok ())
      (hevidence : ValidatedChainSubmissionConfirmation.fromTree van vcs = .ok confirmation) :
      Brings P db (.confirmTree request generation van vcs true now) record derived confirmation now

section Brings

variable {P : Primitives} {db db' : Db} {op : StoreOp} {record answered : StoredChainSubmission}
  {derived : DerivedChainSubmission} {confirmation replayed : ValidatedChainSubmissionConfirmation}
  {now : Nat}

theorem StoreOp.Brings.loaded (h : op.Brings P db record derived confirmation now) :
    ∃ old, db.submissions.lookup op.identity = some old ∧ old.load op.identity = .ok record := by
  cases h with
  | committed hconfirming => exact hconfirming.loaded
  | tree hconfirming => exact hconfirming.loaded

/-- Such a call commits its confirmation. -/
theorem StoreOp.Brings.run (h : op.Brings P db record derived confirmation now) :
    op.run P db =
      transact (StoreAnswer.commit <$> commitConfirmation P record derived confirmation now) db := by
  have hbody : (op.body P) db =
      (StoreAnswer.commit <$> commitConfirmation P record derived confirmation now) db := by
    cases h with
    | committed hconfirming hevidence =>
      obtain ⟨old, hold, hload⟩ := hconfirming.loaded
      have hensure : ensureGeneration record _ = .ok () :=
        ensureGeneration_eq_ok.mpr hconfirming.generation_eq
      refine map_congr_at ?_
      refine (read_bind_of_ok (requireSubmission_of_load hold hload _)).trans ?_
      refine (read_bind_of_ok (by exact hensure)).trans ?_
      refine (read_bind_of_ok (by exact except_mapError_eq_ok.mpr hconfirming.derive_eq)).trans ?_
      refine (require_bind_of_true (decide_eq_true hconfirming.derived_eq)).trans ?_
      exact read_bind_of_ok (except_mapError_eq_ok.mpr hevidence)
    | tree hconfirming hroster hevidence =>
      obtain ⟨old, hold, hload⟩ := hconfirming.loaded
      have hensure : ensureGeneration record _ = .ok () :=
        ensureGeneration_eq_ok.mpr hconfirming.generation_eq
      refine map_congr_at ?_
      refine (read_bind_of_ok (requireSubmission_of_load hold hload _)).trans ?_
      refine (read_bind_of_ok (by exact hensure)).trans ?_
      refine (read_bind_of_ok (deriveVerified_eq_ok.mpr ⟨hconfirming.derive_eq, hroster⟩)).trans ?_
      refine (require_bind_of_true (decide_eq_true hconfirming.derived_eq)).trans ?_
      exact read_bind_of_ok (except_mapError_eq_ok.mpr hevidence)
  rw [StoreOp.run, transact, transact, hbody]

/-- A confirmed row refuses another confirmation. -/
theorem StoreOp.Brings.refused (h : op.Brings P db record derived replayed now)
    (hstate : record.state = .confirmed confirmation) (hne : replayed ≠ confirmation) :
    ∃ failure, op.run P db = (.error failure, db) := by
  have htransition : applyTransition record (.confirmed replayed) "confirmation remains durable" =
      .error (transitionFailure record.durableState
        SubmissionTransitionError.conflictingConfirmation.display) := by
    simp [applyTransition, hstate, applySubmissionObservation, hne.symm]
  rw [h.run]
  exact ⟨_, transact_eq_error.mpr (map_eq_error.mpr (read_bind_eq_error.mpr (.inl htransition)))⟩

/-- A confirmed row accepts its own. -/
theorem StoreOp.Brings.accepted (h : op.Brings P db record derived confirmation now)
    (hcanonical : Canonical db) (hschema : MeetsSchema db) (hbound : BoundRows db)
    (hstate : record.state = .confirmed confirmation)
    (hprojected : Projected P db derived.bound confirmation) (hnow : now ≤ i64Max) :
    ∃ answered, (op.run P db).1 = .ok (.commit (.confirmed answered)) ∧
      answered.state = .confirmed confirmation := by
  obtain ⟨old, hold, hload⟩ := h.loaded
  have hloaded := ChainSubmissionRow.loadedFrom hload
  obtain ⟨applied, happlied⟩ := hprojected.apply
  have hsame := keeps_applyConfirmedGeneration P _ _ _ _ _ happlied
  let moved := { record with diagnostic := none, updatedAt := max now record.updatedAt }
  have htransition : applyTransition record (.confirmed confirmation)
      "confirmation remains durable" = .ok record := by
    simp [applyTransition, hstate, applySubmissionObservation]
    rw [← hstate]
  have hmove : RecordMove db record moved :=
    .confirmed record confirmation _ now (applySubmissionObservation_eq_ok.mp (by
      rw [hstate, applySubmissionObservation, if_pos rfl]))
  have hrow : record.row = old := by
    have hconfirmed := hloaded.state_eq
    rw [StoredChainSubmission.durableState, hstate] at hconfirmed
    obtain ⟨stored, _, -, hstored, hrow⟩ := hcanonical.confirmed_record hold hconfirmed.symm
    cases hload.symm.trans hstored
    exact hrow
  -- every column but the time is the stored row's
  have hbinds : moved.row.binds = true := by
    have hstored := hbound _ _ hold
    rw [hmove.confirmed_row hstate, hrow]
    simp only [ChainSubmissionRow.binds, Bool.and_eq_true, decide_eq_true_eq] at hstored ⊢
    obtain ⟨⟨⟨⟨⟨hreservations, hcreated⟩, hupdated⟩, htracking⟩, hvan⟩, hvcs⟩ := hstored
    exact ⟨⟨⟨⟨⟨hreservations, hcreated⟩, max_le hnow (hloaded.updated_eq ▸ hupdated)⟩, htracking⟩,
      hvan⟩, hvcs⟩
  have hpersist : ∃ db', (persistMutable moved false) applied = .ok ((), db') := by
    have hlookup : applied.chainSubmissions.lookup moved.identity = some old := by
      rw [show applied.chainSubmissions = db.chainSubmissions from hsame, hloaded.identity_eq]
      exact hold
    rw [persistMutable, updateRow]
    simp only [write_eq_ok, except_bind_eq_ok, check_eq_ok, hbinds, hlookup, enforcing]
    simp
  obtain ⟨db', hpersist⟩ := hpersist
  have hcommit : (commitConfirmation P record derived confirmation now) db =
      .ok (.confirmed moved, db') := by
    rw [commitConfirmation_agrees hcanonical hschema derived confirmation now hold hload,
      commitConfirmation]
    refine (read_bind_of_ok (by exact htransition)).trans ?_
    exact bind_eq_ok.mpr ⟨(), applied, mapError_eq_ok.mpr happlied,
      bind_eq_ok.mpr ⟨(), db', hpersist, pure_eq_ok.mpr ⟨rfl, rfl⟩⟩⟩
  refine ⟨moved, ?_, hstate⟩
  rw [h.run, transact_eq_ok.mpr (map_eq_ok.mpr ⟨_, hcommit, rfl⟩)]

/-- An accepted confirmation is the row's, and is written to the votes and bundles. -/
theorem StoreOp.Brings.written (h : op.Brings P db record derived confirmation now)
    (hanswer : (op.run P db).1 = .ok (.commit (.confirmed answered))) :
    answered.state = .confirmed confirmation ∧
      Projected P (op.run P db).2 derived.bound confirmation := by
  have hrun : op.run P db = (.ok (.commit (.confirmed answered)), (op.run P db).2) :=
    Prod.ext hanswer rfl
  generalize (op.run P db).2 = db' at hrun ⊢
  rw [h.run] at hrun
  obtain ⟨commit, hcommit, hcommitted⟩ := map_eq_ok.mp (transact_eq_ok.mp hrun)
  cases hcommitted
  obtain ⟨moved, hmoved, hcommit⟩ := read_bind_eq_ok.mp hcommit
  obtain ⟨state, htransition, rfl⟩ := applyTransition_eq_ok hmoved
  obtain ⟨_, applied, happlied, hcommit⟩ := bind_eq_ok.mp hcommit
  obtain ⟨_, persisted, hpersist, hcommit⟩ := bind_eq_ok.mp hcommit
  obtain ⟨hanswered, rfl⟩ := pure_eq_ok.mp hcommit
  cases hanswered
  refine ⟨htransition.confirmed_target, ?_⟩
  have hprojected := projected_of_apply (mapError_eq_ok.mp happlied)
  unfold persistMutable updateRow at hpersist
  obtain ⟨_, -, hpersist⟩ := except_bind_eq_ok.mp (write_eq_ok.mp hpersist)
  split at hpersist
  · cases except_pure_eq_ok.mp hpersist
    exact hprojected
  · obtain ⟨_, -, hpersist⟩ := except_bind_eq_ok.mp hpersist
    cases except_pure_eq_ok.mp hpersist
    exact hprojected.setSubmission _ _

end Brings

/-! ## The bookkeeping of a run -/

end ZcashVoting
