import ZcashVoting.ChainSubmission.Store.Causality

/-!
# ZcashVoting.ChainSubmission.Store.Bookkeeping

What the columns of a submission keep over a whole run, whatever the clock
shows: identity and generation never change, counters and times never go back,
and a terminal row stays.
-/

namespace ZcashVoting

open Transaction

variable {db : Db} {identity : ChainSubmissionIdentity} {old : ChainSubmissionRow}
  {record record' : StoredChainSubmission}

/-! ## Times are ordered -/

/-- `created_at ≤ tracking_started_at ≤ updated_at`. -/
structure ChainSubmissionRow.Timed (row : ChainSubmissionRow) : Prop where
  created_le : row.createdAt ≤ row.updatedAt
  tracking : ∀ started, row.trackingStartedAt = some started →
    row.createdAt ≤ started ∧ started ≤ row.updatedAt

theorem RecordMove.timed (hmove : RecordMove db record record')
    (hload : old.load identity = .ok record) (hold : old.Timed) : record'.row.Timed := by
  have hloaded := ChainSubmissionRow.loadedFrom hload
  have hkept := hmove.bookkept
  have hcreated : record'.createdAt = old.createdAt := hkept.created_eq.trans hloaded.created_eq
  have hupdated : old.updatedAt ≤ record'.updatedAt := hloaded.updated_eq ▸ hkept.updated_le
  constructor
  · calc record'.createdAt = old.createdAt := hcreated
      _ ≤ old.updatedAt := hold.created_le
      _ ≤ record'.updatedAt := hupdated
  · intro started hstarted
    change record'.trackingStartedAt = some started at hstarted
    change record'.createdAt ≤ started ∧ started ≤ record'.updatedAt
    rcases hkept.tracking with hsame | ⟨-, hnow⟩
    · obtain ⟨hlow, hhigh⟩ := hold.tracking started
        (by rw [← hloaded.tracking_eq, ← hsame, hstarted])
      exact ⟨hcreated ▸ hlow, hhigh.trans hupdated⟩
    · cases hnow.symm.trans hstarted
      exact ⟨hcreated ▸ hold.created_le.trans hupdated, le_rfl⟩

/-- Every row's times are ordered. -/
def TimedRows (db : Db) : Prop :=
  ∀ identity row, db.submissions.lookup identity = some row → row.Timed

theorem timedRows_invariant : RowInvariant TimedRows := by
  refine .of_rows ?_
  intro db identity row new hI hstep hnew
  cases hstep with
  | kept => exact hI identity new hnew
  | reserved digest ordinal now =>
    cases hnew
    exact ⟨le_rfl, by rintro started ⟨⟩⟩
  | adopted digest candidate now =>
    cases hnew
    refine ⟨le_rfl, ?_⟩
    rintro started ⟨⟩
    exact ⟨le_rfl, le_rfl⟩
  | moved old record record' hold hload hmove =>
    cases hnew
    exact hmove.timed hload (hI identity old hold)
  | withdrawn => cases hnew
  | retired => cases hnew

/-! ## What one step keeps of a row -/

/-- The columns that never change and those that never decrease. -/
structure ChainSubmissionRow.Kept (old new : ChainSubmissionRow) : Prop where
  digest_eq : new.generationDigest = old.generationDigest
  created_eq : new.createdAt = old.createdAt
  reservations_le : old.committedPostReservations ≤ new.committedPostReservations
  updated_le : old.updatedAt ≤ new.updatedAt
  tracking_eq : ∀ started, old.trackingStartedAt = some started →
    new.trackingStartedAt = some started

theorem ChainSubmissionRow.Kept.refl (row : ChainSubmissionRow) : row.Kept row :=
  ⟨rfl, rfl, le_rfl, le_rfl, fun _ h => h⟩

theorem RecordMove.kept (hmove : RecordMove db record record')
    (hload : old.load identity = .ok record) : old.Kept record'.row := by
  have hloaded := ChainSubmissionRow.loadedFrom hload
  have hkept := hmove.bookkept
  refine ⟨hkept.digest_eq.trans hloaded.digest_eq, hkept.created_eq.trans hloaded.created_eq,
    hloaded.reservations_eq ▸ hkept.reservations_le, hloaded.updated_eq ▸ hkept.updated_le, ?_⟩
  intro started hstarted
  rw [← hloaded.tracking_eq] at hstarted
  rcases hkept.tracking with hsame | ⟨hnone, -⟩
  · exact hsame.trans hstarted
  · rw [hnone] at hstarted; cases hstarted

/-- The row of a confirmed record that moves keeps everything but its time. -/
theorem RecordMove.confirmed_row {confirmation : ValidatedChainSubmissionConfirmation}
    (hmove : RecordMove db record record')
    (hstate : record.state = .confirmed confirmation) :
    record'.row = { record.row with updatedAt := record'.updatedAt } := by
  obtain ⟨identity, digest, state, reservations, tracking, diagnostic, created, updated⟩ := record
  subst hstate
  cases hmove with
  | abandoned now h => cases h
  | observed observation state diagnostic now htransition hfree => cases htransition; rfl
  | retried now h => cases h
  | recovered candidate diagnostic now h => cases h
  | confirmed confirmation state now htransition => cases htransition; rfl

/-- The record of a confirmed row. -/
theorem Canonical.confirmed_record (hcanonical : Canonical db)
    (hold : db.submissions.lookup identity = some old) (hstate : old.state = .confirmed) :
    ∃ (record : StoredChainSubmission) (confirmation : ValidatedChainSubmissionConfirmation),
      record.state = .confirmed confirmation ∧ old.load identity = .ok record ∧
        record.row = old := by
  obtain ⟨stored, rfl, rfl⟩ := hcanonical identity old hold
  have hload := load_row stored
  change stored.state.durableState = .confirmed at hstate
  cases hs : stored.state with
  | confirmed confirmation =>
    refine ⟨stored.reload, confirmation, ?_, hload, ?_⟩
    · simp [StoredChainSubmission.reload, hs, SubmissionRecordState.reload]
    · simp [StoredChainSubmission.row, StoredChainSubmission.reload, hs,
        SubmissionRecordState.reload, StoredChainSubmission.durableState]
  | _ => rw [hs] at hstate; cases hstate

/-- A row that disappears was a withdrawn reservation or a retired combined
generation. -/
theorem RowStep.removed (h : RowStep db identity none)
    (hold : db.submissions.lookup identity = some old) :
    old.state = .submitting ∨
      (identity.target.isCombined = true ∧ old.state.isUnresolved = true) := by
  generalize hrow : none = row at h
  cases h with
  | kept => rw [hold] at hrow; cases hrow
  | reserved => cases hrow
  | adopted => cases hrow
  | moved => cases hrow
  | withdrawn old' hold' hstate => cases hold.symm.trans hold'; exact .inl hstate
  | retired old' record record' hold' hload hmove hretire =>
    cases hold.symm.trans hold'
    have hloaded := ChainSubmissionRow.loadedFrom hload
    simp only [StoredChainSubmission.retiresCombinedGeneration, Bool.and_eq_true,
      beq_iff_eq] at hretire
    refine .inr ⟨?_, ?_⟩
    · rw [← hloaded.identity_eq, ← hmove.bookkept.identity_eq]
      exact hretire.2
    · rcases hmove.source with hopen | ⟨hsame, hconfirmed⟩
      · rwa [hloaded.state_eq] at hopen
      · have : record'.durableState = .confirmed := by
          rw [StoredChainSubmission.durableState, hsame]; exact hconfirmed
        rw [this] at hretire
        cases hretire.1.1

end ZcashVoting
