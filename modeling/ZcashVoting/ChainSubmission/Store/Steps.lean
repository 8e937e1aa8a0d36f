import ZcashVoting.Confirmation.Growth
import ZcashVoting.ChainSubmission.Store.Sqlite

/-!
# ZcashVoting.ChainSubmission.Store.Steps

What each committed store operation does to `chain_submissions`, said once.

`RecordMove` lists the ways an operation rewrites a record, and `RowStep` the
ways it changes the row of its identity; `StoreOp.run_rowStep` says that a
committed operation takes one `RowStep` and touches no other row.  Every
invariant of the table is a case analysis of these two relations.
-/

namespace ZcashVoting

open Transaction

variable {row : ChainSubmissionRow} {identity : ChainSubmissionIdentity} {db db' : Db} {u : Unit}
  {P : Primitives} {derived : DerivedChainSubmission}

/-! ## Frames: the projections leave the submissions alone -/

/-- The table this module is about. -/
abbrev Db.submissions (db : Db) : Table ChainSubmissionIdentity ChainSubmissionRow :=
  db.chainSubmissions

/-- A body that leaves the submissions alone. -/
abbrev KeepsSubmissions {ε α : Type} (body : Txn Db ε α) : Prop := Within (Same Db.submissions) body

/-- The projection of a confirmed generation writes bundles and votes only. -/
theorem keeps_applyConfirmedGeneration (P : Primitives) (bound : BoundGeneration)
    (confirmation : ValidatedChainSubmissionConfirmation) :
    KeepsSubmissions (applyConfirmedGeneration P bound confirmation) :=
  (Grows.applyConfirmedGeneration P bound confirmation).mono fun _ _ h => h.submissions_eq

/-- Retiring a combined generation writes votes, authorizations and the ledger
only. -/
theorem keeps_retireRejectedCombinedGeneration (P : Primitives)
    (identity : ChainSubmissionIdentity) (diagnostic : ChainSubmissionDiagnostic) (now : Nat) :
    KeepsSubmissions (retireRejectedCombinedGeneration P identity diagnostic now) :=
  (Settles.retireRejectedCombinedGeneration P identity diagnostic now).mono
    fun _ _ h => h.submissions_eq

/-! ## Loading and writing rows -/

/-- What a loaded record keeps of its row. -/
structure LoadedFrom (identity : ChainSubmissionIdentity) (row : ChainSubmissionRow)
    (record : StoredChainSubmission) : Prop where
  identity_eq : record.identity = identity
  digest_eq : record.generationDigest = row.generationDigest
  state_eq : record.durableState = row.state
  reservations_eq : record.committedPostReservations = row.committedPostReservations
  tracking_eq : record.trackingStartedAt = row.trackingStartedAt
  created_eq : record.createdAt = row.createdAt
  updated_eq : record.updatedAt = row.updatedAt

theorem ChainSubmissionRow.durableState_of_loadState {diagnostic : Option ChainSubmissionDiagnostic}
    {state : SubmissionRecordState}
    (h : row.loadState diagnostic = .ok state) : state.durableState = row.state := by
  unfold loadState at h
  split at h <;> rename_i hstate <;> rw [hstate]
  · cases h; rfl
  all_goals
    obtain ⟨value, -, rfl⟩ := except_map_eq_ok.mp h
    rfl

theorem ChainSubmissionRow.loadedFrom {record : StoredChainSubmission}
    (h : row.load identity = .ok record) : LoadedFrom identity row record := by
  unfold load at h
  obtain ⟨diagnostic, -, h⟩ := except_bind_eq_ok.mp h
  obtain ⟨_, -, h⟩ := except_bind_eq_ok.mp h
  obtain ⟨state, hstate, h⟩ := except_bind_eq_ok.mp h
  cases except_pure_eq_ok.mp h
  exact ⟨rfl, rfl, durableState_of_loadState hstate, rfl, rfl, rfl, rfl⟩

theorem requireSubmission_eq_ok {missing : String}
    {record : StoredChainSubmission} (h : requireSubmission identity missing db = .ok record) :
    ∃ row, db.submissions.lookup identity = some row ∧ row.load identity = .ok record := by
  unfold requireSubmission loadSubmission at h
  cases hrow : db.chainSubmissions.lookup identity with
  | none => simp [hrow] at h
  | some row =>
    refine ⟨row, rfl, ?_⟩
    cases hload : row.load identity with
    | error e => simp [hrow, hload, Except.map] at h
    | ok loaded => simpa [hrow, hload, Except.map] using h

theorem requireSubmission_of_load {old : ChainSubmissionRow} {record : StoredChainSubmission}
    (hold : db.submissions.lookup identity = some old) (hload : old.load identity = .ok record)
    (missing : String) : requireSubmission identity missing db = .ok record := by
  simp only [requireSubmission, loadSubmission,
    show db.chainSubmissions.lookup identity = some old from hold, hload]
  rfl

/-- What a row must meet to be written under an identity. -/
def Writable (db : Db) (identity : ChainSubmissionIdentity) (row : ChainSubmissionRow) : Prop :=
  row.binds = true ∧ row.constraints identity db.submissions = .ok ()

/-- The row of one identity is now this, and every other row is as it was. -/
def SetsRow (db : Db) (identity : ChainSubmissionIdentity) (row : Option ChainSubmissionRow)
    (db' : Db) : Prop :=
  ∀ key, db'.submissions.lookup key = if key = identity then row else db.submissions.lookup key

theorem SetsRow.setSubmission (db : Db) (identity : ChainSubmissionIdentity)
    (row : ChainSubmissionRow) : SetsRow db identity (some row) (db.setSubmission identity row) :=
  fun key => Table.lookup_insert_eq db.submissions identity key row

theorem SetsRow.dropSubmission (db : Db) (identity : ChainSubmissionIdentity) :
    SetsRow db identity none (db.dropSubmission identity) :=
  fun key => Table.lookup_erase_eq db.submissions identity key

theorem SetsRow.of_same (h : Same Db.submissions db db') (identity : ChainSubmissionIdentity) :
    SetsRow db identity (db.submissions.lookup identity) db' := by
  intro key
  rw [show db'.submissions = db.submissions from h]
  split
  · next hkey => rw [hkey]
  · rfl

/-- Rows set after a change that left the submissions alone. -/
theorem SetsRow.after_same {mid : Db}
    {row : Option ChainSubmissionRow} (h : Same Db.submissions db mid)
    (h' : SetsRow mid identity row db') : SetsRow db identity row db' := by
  intro key
  rw [h' key, show mid.submissions = db.submissions from h]

theorem insertRow_eq_ok (h : (insertRow identity row) db = .ok (u, db')) :
    db.submissions.lookup identity = none ∧ Writable db identity row ∧
      SetsRow db identity (some row) db' := by
  obtain ⟨_, hbinds, h⟩ := except_bind_eq_ok.mp (write_eq_ok.mp h)
  obtain ⟨_, hinsertable, h⟩ := except_bind_eq_ok.mp h
  obtain ⟨_, -, hinsertable⟩ := except_bind_eq_ok.mp hinsertable
  obtain ⟨_, -, hinsertable⟩ := except_bind_eq_ok.mp hinsertable
  obtain ⟨_, hnone, hconstraints⟩ := except_bind_eq_ok.mp hinsertable
  cases except_pure_eq_ok.mp h
  exact ⟨by simpa using hnone, ⟨check_eq_ok.mp hbinds, hconstraints⟩,
    SetsRow.setSubmission db identity row⟩

/-- An update of a record that was loaded from the row it rewrites. -/
theorem persistMutable_eq_ok {record loaded : StoredChainSubmission} {old : ChainSubmissionRow}
    (hold : db.submissions.lookup record.identity = some old)
    (hload : LoadedFrom record.identity old loaded)
    (hdigest : record.generationDigest = loaded.generationDigest)
    (hcreated : record.createdAt = loaded.createdAt)
    (h : (persistMutable record) db = .ok (u, db')) :
    old.triggers record.row = .ok () ∧ Writable db record.identity record.row ∧
      SetsRow db record.identity (some record.row) db' := by
  unfold persistMutable updateRow at h
  obtain ⟨_, hbinds, h⟩ := except_bind_eq_ok.mp (write_eq_ok.mp h)
  have hsame : { record.row with
      generationDigest := old.generationDigest, createdAt := old.createdAt } = record.row := by
    rw [← hload.digest_eq, ← hload.created_eq, ← hdigest, ← hcreated]
    rfl
  simp only [show db.chainSubmissions.lookup record.identity = some old from hold, hsame] at h
  obtain ⟨_, hreplaceable, h⟩ := except_bind_eq_ok.mp h
  obtain ⟨_, htriggers, hconstraints⟩ := except_bind_eq_ok.mp hreplaceable
  cases except_pure_eq_ok.mp h
  exact ⟨htriggers, ⟨check_eq_ok.mp hbinds, hconstraints⟩,
    SetsRow.setSubmission db record.identity record.row⟩

/-! ## Derivation -/

/-- A derived generation is the digest of the request's identity and of inputs of
its kind. -/
theorem generatedFrom_derive {request : SubmissionDerivationRequest}
    (h : derive P request db = .ok derived) :
    GeneratedFrom P request.identity derived.generation := by
  have h := except_mapError_eq_ok.mp h
  cases request with
  | delegation identity signature => exact generatedFrom_deriveDelegation P h
  | importedDelegation identity => exact generatedFrom_deriveImportedDelegation P h
  | vote identity => exact generatedFrom_deriveVote P h
  | voteBatch identity => exact generatedFrom_deriveVoteBatch P h

theorem identity_of_derive {request : SubmissionDerivationRequest}
    (h : derive P request db = .ok derived) :
    derived.generation.identity = request.identity :=
  (generatedFrom_derive h).identity_eq

theorem deriveVerified_eq_ok {request : StoreAdvancementRequest}
    {record : Option StoredChainSubmission} :
    deriveVerified P request record db = .ok derived ↔
      derive P request.derivation db = .ok derived ∧
        request.verifyBatchRoster derived.orderedProposalIds = .ok () := by
  simp only [deriveVerified, except_mapError_eq_ok, except_bind_eq_ok, except_pure_eq_ok,
    Unique.exists_iff]
  constructor
  · rintro ⟨_, hderive, hroster, rfl⟩
    exact ⟨hderive, hroster⟩
  · rintro ⟨hderive, hroster⟩
    exact ⟨derived, hderive, hroster, rfl⟩

theorem derive_of_deriveVerified {request : StoreAdvancementRequest}
    {record : Option StoredChainSubmission} (h : deriveVerified P request record db = .ok derived) :
    derive P request.derivation db = .ok derived :=
  (deriveVerified_eq_ok.mp h).1

/-! ## What an operation does to a record -/

theorem applyTransition_eq_ok {record moved : StoredChainSubmission}
    {observation : SubmissionObservation} {removed : String}
    (h : applyTransition record observation removed = .ok moved) :
    ∃ state, SubmissionTransition record.state observation state ∧
      moved = { record with state } := by
  unfold applyTransition at h
  split at h
  · next state heq => cases h; exact ⟨state, applySubmissionObservation_eq_ok.mp heq, rfl⟩
  · cases h
  · cases h

/-- The ways a committed operation rewrites a record. -/
inductive RecordMove (db : Db) : StoredChainSubmission → StoredChainSubmission → Prop where
  /-- An interrupted reservation is normalized. -/
  | abandoned (record now) (h : record.state = .submitting) :
      RecordMove db record { record with
        state := .recovering none abandonedDiagnostic
        diagnostic := some abandonedDiagnostic
        updatedAt := max now record.updatedAt }
  /-- A POST or status observation is applied. -/
  | observed (record observation state diagnostic now)
      (h : SubmissionTransition record.state observation state)
      (hfree : ∀ candidate, observation = .usableCandidateHash candidate →
        ownedElsewhere (some record.identity) candidate db = false) :
      RecordMove db record
        (StoredChainSubmission.settleAfterTransition { record with state } record.durableState
          diagnostic now)
  /-- Another POST is reserved after an ambiguous one. -/
  | retried (record now) (h : record.state.permitsAmbiguousRetry = true) :
      RecordMove db record { record with
        committedPostReservations := record.committedPostReservations + 1
        updatedAt := max now record.updatedAt }
  /-- Another POST is reserved after a complete scan without a match. -/
  | recovered (record candidate diagnostic now)
      (h : record.state = .recovering candidate diagnostic) :
      RecordMove db record { record with
        committedPostReservations := record.committedPostReservations + 1
        state := .recovering none diagnostic
        updatedAt := max now record.updatedAt }
  /-- The generation is confirmed. -/
  | confirmed (record confirmation state now)
      (h : SubmissionTransition record.state (.confirmed confirmation) state) :
      RecordMove db record { record with
        state, diagnostic := none, updatedAt := max now record.updatedAt }

/-- What every move keeps and what it can only raise. -/
structure Bookkept (old new : StoredChainSubmission) : Prop where
  identity_eq : new.identity = old.identity
  digest_eq : new.generationDigest = old.generationDigest
  created_eq : new.createdAt = old.createdAt
  updated_le : old.updatedAt ≤ new.updatedAt
  reservations_le : old.committedPostReservations ≤ new.committedPostReservations
  tracking : new.trackingStartedAt = old.trackingStartedAt ∨
    (old.trackingStartedAt = none ∧ new.trackingStartedAt = some new.updatedAt)

theorem RecordMove.bookkept {old new : StoredChainSubmission}
    (h : RecordMove db old new) : Bookkept old new := by
  cases h with
  | abandoned now _ => exact ⟨rfl, rfl, rfl, le_max_right _ _, le_rfl, .inl rfl⟩
  | retried now _ => exact ⟨rfl, rfl, rfl, le_max_right _ _, Nat.le_succ _, .inl rfl⟩
  | recovered _ _ now _ => exact ⟨rfl, rfl, rfl, le_max_right _ _, Nat.le_succ _, .inl rfl⟩
  | confirmed _ state now _ => exact ⟨rfl, rfl, rfl, le_max_right _ _, le_rfl, .inl rfl⟩
  | observed observation state diagnostic now _ _ =>
    refine ⟨rfl, rfl, rfl, le_max_right _ _, le_rfl, ?_⟩
    -- Only the first entry into `tracking` starts the window.
    cases hstarted : old.trackingStartedAt with
    | some started =>
      cases state <;> exact .inl (by simp [StoredChainSubmission.settleAfterTransition])
    | none =>
      cases state with
      | tracking candidate =>
        exact .inr ⟨rfl, by simp [StoredChainSubmission.settleAfterTransition]⟩
      | _ => exact .inl (by simp [StoredChainSubmission.settleAfterTransition])

/-! ## What an operation does to the row of its identity -/

/-- The ways a committed operation changes the row of one identity: from the
database it ran on to the row afterwards. -/
inductive RowStep (db : Db) (identity : ChainSubmissionIdentity) :
    Option ChainSubmissionRow → Prop where
  /-- The operation wrote nothing. -/
  | kept : RowStep db identity (db.submissions.lookup identity)
  /-- The first POST of a new row is reserved. -/
  | reserved (digest ordinal now)
      (hnone : db.submissions.lookup identity = none)
      (hguards : admissionGuards identity db = .ok ())
      (hwrite : Writable db identity
        (StoredChainSubmission.fresh ⟨identity, digest⟩ ordinal now).row) :
      RowStep db identity (some (StoredChainSubmission.fresh ⟨identity, digest⟩ ordinal now).row)
  /-- The transaction of an imported delegation is adopted. -/
  | adopted (digest candidate now)
      (hnone : db.submissions.lookup identity = none)
      (htarget : identity.target = .delegation)
      (hguards : admissionGuards identity db = .ok ())
      (hfree : ownedElsewhere none candidate db = false)
      (hwrite : Writable db identity
        (StoredChainSubmission.adoptedImportedDelegation ⟨identity, digest⟩ candidate now).row) :
      RowStep db identity
        (some (StoredChainSubmission.adoptedImportedDelegation ⟨identity, digest⟩ candidate now).row)
  /-- The row is rewritten. -/
  | moved (old record record')
      (hold : db.submissions.lookup identity = some old)
      (hload : old.load identity = .ok record)
      (hmove : RecordMove db record record')
      (hkeep : record'.retiresCombinedGeneration record.durableState = false)
      (hwrite : Writable db identity record'.row) :
      RowStep db identity (some record'.row)
  /-- A reservation that was never dispatched is withdrawn. -/
  | withdrawn (old) (hold : db.submissions.lookup identity = some old)
      (hstate : old.state = .submitting) :
      RowStep db identity none
  /-- A combined generation is terminally rejected and retired. -/
  | retired (old record record')
      (hold : db.submissions.lookup identity = some old)
      (hload : old.load identity = .ok record)
      (hmove : RecordMove db record record')
      (hretire : record'.retiresCombinedGeneration record.durableState = true) :
      RowStep db identity none

/-- A committed operation took one `RowStep` at an identity and touched no other
row. -/
def TakesRowStep (db : Db) (identity : ChainSubmissionIdentity) (db' : Db) : Prop :=
  ∃ row, RowStep db identity row ∧ SetsRow db identity row db'

theorem TakesRowStep.of_same (h : Same Db.submissions db db')
    (identity : ChainSubmissionIdentity) : TakesRowStep db identity db' :=
  ⟨_, .kept, SetsRow.of_same h identity⟩

theorem TakesRowStep.refl (db : Db) (identity : ChainSubmissionIdentity) :
    TakesRowStep db identity db :=
  .of_same rfl identity

/-- A committed operation moved the record of an identity: its row is rewritten,
or removed when a combined generation retires. -/
structure Rewrites (db : Db) (identity : ChainSubmissionIdentity)
    (record record' : StoredChainSubmission) (db' : Db) : Prop where
  loaded : ∃ old, db.submissions.lookup identity = some old ∧ old.load identity = .ok record
  move : RecordMove db record record'
  written : (record'.retiresCombinedGeneration record.durableState = true ∧
      SetsRow db identity none db') ∨
    (record'.retiresCombinedGeneration record.durableState = false ∧
      Writable db identity record'.row ∧ SetsRow db identity (some record'.row) db')

theorem Rewrites.takesRowStep {record record' : StoredChainSubmission}
    (h : Rewrites db identity record record' db') :
    TakesRowStep db identity db' := by
  obtain ⟨old, hold, hload⟩ := h.loaded
  rcases h.written with ⟨hretire, hset⟩ | ⟨hkeep, hwrite, hset⟩
  · exact ⟨none, .retired old record record' hold hload h.move hretire, hset⟩
  · exact ⟨_, .moved old record record' hold hload h.move hkeep hwrite, hset⟩

/-- Persisting a moved record rewrites its row. -/
theorem Rewrites.of_persist {mid : Db} {old : ChainSubmissionRow}
    {record record' : StoredChainSubmission}
    (hold : db.submissions.lookup identity = some old) (hload : old.load identity = .ok record)
    (hmove : RecordMove db record record')
    (hkeep : record'.retiresCombinedGeneration record.durableState = false)
    (hmid : Same Db.submissions db mid) (h : (persistMutable record') mid = .ok (u, db')) :
    Rewrites db identity record record' db' := by
  have hloaded := ChainSubmissionRow.loadedFrom hload
  have hkept := hmove.bookkept
  have hidentity : record'.identity = identity := hkept.identity_eq.trans hloaded.identity_eq
  have htable : mid.submissions = db.submissions := hmid
  subst hidentity
  obtain ⟨-, hwrite, hset⟩ := persistMutable_eq_ok (by rw [htable]; exact hold) hloaded
    hkept.digest_eq hkept.created_eq h
  refine ⟨⟨old, hold, hload⟩, hmove, .inr ⟨hkeep, ?_, hset.after_same hmid⟩⟩
  exact ⟨hwrite.1, by rw [← htable]; exact hwrite.2⟩

end ZcashVoting
