import ZcashVoting.ChainSubmission.Store.Steps

/-!
# ZcashVoting.ChainSubmission.Store.Operations

The store's operations as one interface, `StoreOp.run`, and one specification
lemma per operation: a committed one takes a `RowStep` at the identity it is
about, a failed one changes nothing.
-/

namespace ZcashVoting

open Transaction

section Specs

variable {P : Primitives} {db db' : Db} {now ordinal : Nat} {generation : ChainSubmissionGeneration}
  {reserved : StoredChainSubmission} {request : StoreAdvancementRequest}
  {commit : ConfirmationCommit} {allowed : Bool} {admission : StoreAdmission}

theorem normalizeAbandoned_spec {identity : ChainSubmissionIdentity} {old : ChainSubmissionRow}
    {record normalized : StoredChainSubmission}
    (hold : db.submissions.lookup identity = some old) (hload : old.load identity = .ok record)
    (hstate : record.state = .submitting)
    (h : (normalizeAbandoned record now) db = .ok (normalized, db')) :
    normalized = { record with
        state := .recovering none abandonedDiagnostic
        diagnostic := some abandonedDiagnostic
        updatedAt := max now record.updatedAt } ∧
      Rewrites db identity record normalized db' := by
  obtain ⟨settled, hmoved, h⟩ := read_bind_eq_ok.mp (mapError_eq_ok.mp h)
  obtain ⟨_, s₂, hpersist, h⟩ := bind_eq_ok.mp h
  obtain ⟨rfl, rfl⟩ := pure_eq_ok.mp h
  obtain ⟨state, htransition, rfl⟩ := applyTransition_eq_ok hmoved
  rw [hstate] at htransition
  cases htransition
  exact ⟨rfl, .of_persist hold hload (.abandoned record now hstate)
    (by simp [StoredChainSubmission.retiresCombinedGeneration,
      StoredChainSubmission.durableState, SubmissionRecordState.durableState]) rfl hpersist⟩

theorem removeFreshReservation_spec {u : Unit}
    (h : removeFreshReservation generation db = .ok (u, db')) :
    ∃ old, db.submissions.lookup generation.identity = some old ∧ old.state = .submitting ∧
      old.generationDigest = generation.digest ∧ SetsRow db generation.identity none db' := by
  obtain ⟨record, hrecord, h⟩ := read_bind_eq_ok.mp h
  obtain ⟨old, hold, hload⟩ := requireSubmission_eq_ok hrecord
  obtain ⟨_, hensure, h⟩ := read_bind_eq_ok.mp h
  obtain ⟨hstate, h⟩ := require_bind_eq_ok.mp h
  cases write_eq_ok.mp h
  have hloaded := ChainSubmissionRow.loadedFrom hload
  have hdurable : old.state = .submitting := by
    rw [← hloaded.state_eq, StoredChainSubmission.durableState, of_decide_eq_true hstate]
    rfl
  have hdigest : old.generationDigest = generation.digest := by
    rw [← hloaded.digest_eq, ← ensureGeneration_eq_ok.mp hensure]
    rfl
  exact ⟨old, hold, hdurable, hdigest, SetsRow.dropSubmission db generation.identity⟩

/-- A resolved observation never carries a hash that another row owns. -/
theorem resolveOwnership_free {observation : SubmissionObservation}
    {candidate : CandidateTransactionHash}
    (h : resolveOwnership generation observation db = .usableCandidateHash candidate) :
    ownedElsewhere (some generation.identity) candidate db = false := by
  unfold resolveOwnership at h
  split at h
  · split at h
    · cases h
    · next hfree => cases h; simpa using hfree
  · next hother => exact absurd h (hother candidate)

theorem applyObservation_spec {observation : SubmissionObservation}
    {diagnostic : Option ChainSubmissionDiagnostic} {settled : StoredChainSubmission}
    (h : (applyObservation P generation observation diagnostic now) db = .ok (settled, db')) :
    ∃ record, record.generationDigest = generation.digest ∧
      SubmissionTransition record.state (resolveOwnership generation observation db)
        settled.state ∧
      settled = StoredChainSubmission.settleAfterTransition { record with state := settled.state }
        record.durableState diagnostic now ∧
      Rewrites db generation.identity record settled db' := by
  obtain ⟨record, hrecord, h⟩ := read_bind_eq_ok.mp h
  obtain ⟨old, hold, hload⟩ := requireSubmission_eq_ok hrecord
  have hidentity := (ChainSubmissionRow.loadedFrom hload).identity_eq
  obtain ⟨_, hensure, h⟩ := read_bind_eq_ok.mp h
  have hdigest : record.generationDigest = generation.digest := by
    rw [← ensureGeneration_eq_ok.mp hensure]
    rfl
  obtain ⟨resolved, hresolved, h⟩ := read_bind_eq_ok.mp h
  cases hresolved
  obtain ⟨moved, hmoved, h⟩ := read_bind_eq_ok.mp h
  obtain ⟨state, htransition, rfl⟩ := applyTransition_eq_ok hmoved
  have hmove : RecordMove db record _ := .observed record _ state diagnostic now htransition
    fun candidate heq => hidentity ▸ resolveOwnership_free heq
  dsimp only at h
  split at h
  · next hretire =>
    obtain ⟨_, -, h⟩ := read_bind_eq_ok.mp h
    obtain ⟨_, s₆, hretired, h⟩ := bind_eq_ok.mp h
    have hsame := keeps_retireRejectedCombinedGeneration P _ _ _ _ _ _ (mapError_eq_ok.mp hretired)
    obtain ⟨_, s₇, hdelete, h⟩ := bind_eq_ok.mp h
    cases write_eq_ok.mp hdelete
    obtain ⟨rfl, rfl⟩ := pure_eq_ok.mp h
    exact ⟨record, hdigest, htransition, rfl, ⟨old, hold, hload⟩, hmove,
      .inl ⟨hretire, (SetsRow.dropSubmission s₆ generation.identity).after_same hsame⟩⟩
  · next hkeep =>
    obtain ⟨_, s₅, hpersist, h⟩ := bind_eq_ok.mp h
    obtain ⟨rfl, rfl⟩ := pure_eq_ok.mp h
    exact ⟨record, hdigest, htransition, rfl,
      .of_persist hold hload hmove (by simpa using hkeep) rfl hpersist⟩

theorem reserveOne_eq_ok {record : StoredChainSubmission} {overflow : String}
    (h : reserveOne record overflow = .ok reserved) :
    reserved = { record with
      committedPostReservations := record.committedPostReservations + 1 } := by
  unfold reserveOne at h
  split at h <;> cases h
  rfl

theorem reserveAmbiguousRetry_spec
    (h : (reserveAmbiguousRetry generation now) db = .ok (reserved, db')) :
    ∃ record, record.generationDigest = generation.digest ∧
      record.state.permitsAmbiguousRetry = true ∧
      reserved = { record with
        committedPostReservations := record.committedPostReservations + 1
        updatedAt := max now record.updatedAt } ∧
      Rewrites db generation.identity record reserved db' := by
  obtain ⟨record, hrecord, h⟩ := read_bind_eq_ok.mp h
  obtain ⟨old, hold, hload⟩ := requireSubmission_eq_ok hrecord
  obtain ⟨_, hensure, h⟩ := read_bind_eq_ok.mp h
  obtain ⟨hpermit, h⟩ := require_bind_eq_ok.mp h
  obtain ⟨_, hreserve, h⟩ := read_bind_eq_ok.mp h
  cases reserveOne_eq_ok hreserve
  obtain ⟨_, s₅, hpersist, h⟩ := bind_eq_ok.mp h
  obtain ⟨rfl, rfl⟩ := pure_eq_ok.mp h
  refine ⟨record, ?_, hpermit, rfl,
    .of_persist hold hload (.retried record now hpermit) ?_ rfl hpersist⟩
  · rw [← ensureGeneration_eq_ok.mp hensure]
    rfl
  -- The row stays `recovering`, so nothing retires.
  · revert hpermit
    cases hstate : record.state <;>
      simp [SubmissionRecordState.permitsAmbiguousRetry,
        StoredChainSubmission.retiresCombinedGeneration, StoredChainSubmission.durableState,
        SubmissionRecordState.durableState, hstate]

theorem reserveRecoveryRetry_spec {authorization : RecoveryRetryAuthorization}
    (h : (reserveRecoveryRetry P request authorization now) db = .ok (reserved, db')) :
    ∃ record diagnostic, record.generationDigest = authorization.generationDigest ∧
      record.state = .recovering authorization.candidate diagnostic ∧
      reserved = { record with
        committedPostReservations := record.committedPostReservations + 1
        state := .recovering none diagnostic
        updatedAt := max now record.updatedAt } ∧
      Rewrites db request.identity record reserved db' := by
  obtain ⟨hidentity, h⟩ := require_bind_eq_ok.mp h
  rw [of_decide_eq_true hidentity]
  obtain ⟨record, hrecord, h⟩ := read_bind_eq_ok.mp h
  obtain ⟨old, hold, hload⟩ := requireSubmission_eq_ok hrecord
  obtain ⟨hdigest, h⟩ := require_bind_eq_ok.mp h
  obtain ⟨derived, -, h⟩ := read_bind_eq_ok.mp h
  obtain ⟨_, -, h⟩ := read_bind_eq_ok.mp h
  cases hstate : record.state with
  | recovering candidate diagnostic =>
    simp only [hstate] at h
    obtain ⟨hcandidate, h⟩ := require_bind_eq_ok.mp h
    obtain ⟨_, hreserve, h⟩ := read_bind_eq_ok.mp h
    cases reserveOne_eq_ok hreserve
    obtain ⟨_, mid, hpersist, h⟩ := bind_eq_ok.mp h
    obtain ⟨rfl, rfl⟩ := pure_eq_ok.mp h
    refine ⟨record, diagnostic, of_decide_eq_true hdigest, ?_, rfl,
      .of_persist hold hload (.recovered record candidate diagnostic now hstate)
        (by simp [StoredChainSubmission.retiresCombinedGeneration,
          StoredChainSubmission.durableState, SubmissionRecordState.durableState]) rfl hpersist⟩
    rw [hstate, of_decide_eq_true hcandidate]
  | _ => simp [hstate] at h

/-- A confirmation leaves its row confirmed. -/
theorem SubmissionTransition.confirmed_target {s s' : SubmissionRecordState}
    {confirmation : ValidatedChainSubmissionConfirmation}
    (h : SubmissionTransition s (.confirmed confirmation) s') : s' = .confirmed confirmation := by
  cases h <;> rfl

theorem commitConfirmation_spec {identity : ChainSubmissionIdentity} {old : ChainSubmissionRow}
    {record : StoredChainSubmission} {derived : DerivedChainSubmission}
    {confirmation : ValidatedChainSubmissionConfirmation}
    (hold : db.submissions.lookup identity = some old) (hload : old.load identity = .ok record)
    (h : (commitConfirmation P record derived confirmation now) db = .ok (commit, db')) :
    ∃ confirmed, commit = .confirmed confirmed ∧ confirmed.state = .confirmed confirmation ∧
      confirmed.diagnostic = none ∧ Rewrites db identity record confirmed db' := by
  obtain ⟨moved, hmoved, h⟩ := read_bind_eq_ok.mp h
  obtain ⟨state, htransition, rfl⟩ := applyTransition_eq_ok hmoved
  obtain ⟨_, s₂, happlied, h⟩ := bind_eq_ok.mp h
  have hsame := keeps_applyConfirmedGeneration P _ _ _ _ _ (mapError_eq_ok.mp happlied)
  obtain ⟨_, s₃, hpersist, h⟩ := bind_eq_ok.mp h
  obtain ⟨rfl, rfl⟩ := pure_eq_ok.mp h
  refine ⟨_, rfl, htransition.confirmed_target, rfl,
    .of_persist hold hload (.confirmed record confirmation state now htransition) ?_ hsame hpersist⟩
  simp [StoredChainSubmission.retiresCombinedGeneration, StoredChainSubmission.durableState,
    htransition.confirmed_target, SubmissionRecordState.durableState]

/-- What a confirmation does: nothing, or confirm the row it loaded. -/
def Confirms (db : Db) (generation : ChainSubmissionGeneration) (db' : Db) : Prop :=
  db' = db ∨ ∃ record confirmed confirmation,
    record.generationDigest = generation.digest ∧ confirmed.state = .confirmed confirmation ∧
    Rewrites db generation.identity record confirmed db'

theorem Confirms.takesRowStep (h : Confirms db generation db') :
    TakesRowStep db generation.identity db' := by
  rcases h with rfl | ⟨_, _, _, -, -, hrewrites⟩
  · exact .refl _ _
  · exact hrewrites.takesRowStep

/-- A confirmation whose row and derived generation are the expected ones. -/
structure Confirming (P : Primitives) (db : Db) (request : StoreAdvancementRequest)
    (generation : ChainSubmissionGeneration) (record : StoredChainSubmission)
    (derived : DerivedChainSubmission) : Prop where
  loaded : ∃ old, db.submissions.lookup generation.identity = some old ∧
    old.load generation.identity = .ok record
  generation_eq : record.generation = generation
  derive_eq : derive P request.derivation db = .ok derived
  derived_eq : derived.generation = generation

/-- What a confirmation does from there: stop before it writes, or commit. -/
def ConfirmingEnds (P : Primitives) (db : Db) (record : StoredChainSubmission)
    (derived : DerivedChainSubmission) (now : Nat) (commit : ConfirmationCommit) (db' : Db) : Prop :=
  (commit = .interrupted record ∧ db' = db) ∨
    ∃ confirmation, (commitConfirmation P record derived confirmation now) db = .ok (commit, db')

theorem confirmCommitted_eq_ok {candidate : CandidateTransactionHash} {events : List TxEvent}
    (h : (confirmCommitted P request generation candidate events allowed now) db =
      .ok (commit, db')) :
    ∃ record derived, Confirming P db request generation record derived ∧
      ConfirmingEnds P db record derived now commit db' := by
  obtain ⟨record, hrecord, h⟩ := read_bind_eq_ok.mp h
  obtain ⟨_, hensure, h⟩ := read_bind_eq_ok.mp h
  obtain ⟨derived, hderive, h⟩ := read_bind_eq_ok.mp h
  obtain ⟨hgeneration, h⟩ := require_bind_eq_ok.mp h
  refine ⟨record, derived, ⟨requireSubmission_eq_ok hrecord, ensureGeneration_eq_ok.mp hensure,
    except_mapError_eq_ok.mp hderive, of_decide_eq_true hgeneration⟩, ?_⟩
  split at h
  · obtain ⟨confirmation, -, h⟩ := read_bind_eq_ok.mp h
    exact .inr ⟨confirmation, h⟩
  · obtain ⟨rfl, rfl⟩ := pure_eq_ok.mp h
    exact .inl ⟨rfl, rfl⟩

theorem confirmTree_eq_ok {van : Nat} {vcs : List Nat}
    (h : (confirmTree P request generation van vcs allowed now) db = .ok (commit, db')) :
    ∃ record derived, Confirming P db request generation record derived ∧
      request.verifyBatchRoster derived.orderedProposalIds = .ok () ∧
      ConfirmingEnds P db record derived now commit db' := by
  obtain ⟨record, hrecord, h⟩ := read_bind_eq_ok.mp h
  obtain ⟨_, hensure, h⟩ := read_bind_eq_ok.mp h
  obtain ⟨derived, hderive, h⟩ := read_bind_eq_ok.mp h
  obtain ⟨hgeneration, h⟩ := require_bind_eq_ok.mp h
  obtain ⟨hderive, hroster⟩ := deriveVerified_eq_ok.mp hderive
  refine ⟨record, derived, ⟨requireSubmission_eq_ok hrecord, ensureGeneration_eq_ok.mp hensure,
    hderive, of_decide_eq_true hgeneration⟩, hroster, ?_⟩
  split at h
  · obtain ⟨confirmation, -, h⟩ := read_bind_eq_ok.mp h
    exact .inr ⟨confirmation, h⟩
  · obtain ⟨rfl, rfl⟩ := pure_eq_ok.mp h
    exact .inl ⟨rfl, rfl⟩

theorem Confirming.confirms {record : StoredChainSubmission} {derived : DerivedChainSubmission}
    (h : Confirming P db request generation record derived)
    (hends : ConfirmingEnds P db record derived now commit db') : Confirms db generation db' := by
  obtain ⟨old, hold, hload⟩ := h.loaded
  rcases hends with ⟨-, rfl⟩ | ⟨confirmation, hcommit⟩
  · exact .inl rfl
  · obtain ⟨confirmed, -, hstate, -, hrewrites⟩ := commitConfirmation_spec hold hload hcommit
    refine .inr ⟨record, confirmed, confirmation, ?_, hstate, hrewrites⟩
    rw [← h.generation_eq]
    rfl

theorem confirmCommitted_spec {candidate : CandidateTransactionHash} {events : List TxEvent}
    (h : (confirmCommitted P request generation candidate events allowed now) db =
      .ok (commit, db')) :
    Confirms db generation db' := by
  obtain ⟨record, derived, hconfirming, hends⟩ := confirmCommitted_eq_ok h
  exact hconfirming.confirms hends

theorem confirmTree_spec {van : Nat} {vcs : List Nat}
    (h : (confirmTree P request generation van vcs allowed now) db = .ok (commit, db')) :
    Confirms db generation db' := by
  obtain ⟨record, derived, hconfirming, -, hends⟩ := confirmTree_eq_ok h
  exact hconfirming.confirms hends

theorem insertFresh_eq (generation : ChainSubmissionGeneration) (ordinal now : Nat) :
    insertFresh (.fresh generation ordinal now) =
      insertRow generation.identity (StoredChainSubmission.fresh generation ordinal now).row := rfl

theorem insertImportedDelegation_eq (generation : ChainSubmissionGeneration)
    (candidate : CandidateTransactionHash) (now : Nat) :
    insertImportedDelegation (.adoptedImportedDelegation generation candidate now) candidate =
      insertRow generation.identity
        (StoredChainSubmission.adoptedImportedDelegation generation candidate now).row := rfl

/-- What an admission answers, and what it did to the row. -/
inductive Admits (P : Primitives) (db : Db) (request : StoreAdvancementRequest)
    (ordinal now : Nat) : StoreAdmission → Db → Prop where
  | absent (hnone : db.submissions.lookup request.identity = none) :
      Admits P db request ordinal now .noAuthoritativeState db
  | authoritative (old record)
      (hold : db.submissions.lookup request.identity = some old)
      (hload : old.load request.identity = .ok record) :
      Admits P db request ordinal now (.authoritative record) db
  /-- An interrupted reservation is normalized, whether or not work goes on. -/
  | normalized (record normalized db') (workAllowed : Bool) (hstate : record.state = .submitting)
      (hnormalized : normalized = { record with
        state := .recovering none abandonedDiagnostic
        diagnostic := some abandonedDiagnostic
        updatedAt := max now record.updatedAt })
      (hrewrites : Rewrites db request.identity record normalized db') :
      Admits P db request ordinal now
        (if workAllowed then .abandonedReservation normalized else .authoritative normalized) db'
  | existing (old record derived)
      (hold : db.submissions.lookup request.identity = some old)
      (hload : old.load request.identity = .ok record)
      (hderive : derive P request.derivation db = .ok derived)
      (hgeneration : record.generation = derived.generation)
      (hstate : record.state ≠ .submitting) :
      Admits P db request ordinal now (.ready derived record false) db
  | reserved (derived db')
      (hnone : db.submissions.lookup request.identity = none)
      (hguards : admissionGuards request.identity db = .ok ())
      (hderive : derive P request.derivation db = .ok derived)
      (hwrite : Writable db request.identity
        (StoredChainSubmission.fresh derived.generation ordinal now).row)
      (hset : SetsRow db request.identity
        (some (StoredChainSubmission.fresh derived.generation ordinal now).row) db') :
      Admits P db request ordinal now
        (.ready derived (.fresh derived.generation ordinal now) true) db'
  | adopted (derived candidate db')
      (himported : request.isImportedDelegation = true)
      (htarget : request.identity.target = .delegation)
      (hnone : db.submissions.lookup request.identity = none)
      (hguards : admissionGuards request.identity db = .ok ())
      (hderive : derive P request.derivation db = .ok derived)
      (hfree : ownedElsewhere none candidate db = false)
      (hwrite : Writable db request.identity
        (StoredChainSubmission.adoptedImportedDelegation derived.generation candidate now).row)
      (hset : SetsRow db request.identity (some
        (StoredChainSubmission.adoptedImportedDelegation derived.generation candidate now).row)
        db') :
      Admits P db request ordinal now
        (.ready derived (.adoptedImportedDelegation derived.generation candidate now) false) db'

theorem Admits.takesRowStep (h : Admits P db request ordinal now admission db') :
    TakesRowStep db request.identity db' := by
  -- A derived generation is one of the request's identity.
  have generation_eq : ∀ {derived}, derive P request.derivation db = .ok derived →
      derived.generation = ⟨request.identity, derived.generation.digest⟩ := by
    intro derived hderive
    rw [show request.identity = derived.generation.identity from (identity_of_derive hderive).symm]
  cases h with
  | absent | authoritative | existing => exact .refl _ _
  | normalized record normalized db' _ _ _ hrewrites => exact hrewrites.takesRowStep
  | reserved derived db' hnone hguards hderive hwrite hset =>
    rw [generation_eq hderive] at hwrite hset
    exact ⟨_, .reserved derived.generation.digest ordinal now hnone hguards hwrite, hset⟩
  | adopted derived candidate db' _ htarget hnone hguards hderive hfree hwrite hset =>
    rw [generation_eq hderive] at hwrite hset
    exact ⟨_, .adopted derived.generation.digest candidate now hnone htarget hguards hfree hwrite,
      hset⟩

theorem admitFresh_spec (hguards : admissionGuards request.identity db = .ok ())
    (h : (admitFresh P request ordinal now) db = .ok (admission, db')) :
    Admits P db request ordinal now admission db' := by
  obtain ⟨derived, hderived, h⟩ := read_bind_eq_ok.mp h
  have hderive := derive_of_deriveVerified hderived
  obtain ⟨_, mid, hinsert, h⟩ := bind_eq_ok.mp h
  obtain ⟨rfl, rfl⟩ := pure_eq_ok.mp h
  rw [insertFresh_eq, identity_of_derive hderive] at hinsert
  obtain ⟨hnone, hwrite, hset⟩ := insertRow_eq_ok hinsert
  exact .reserved derived _ hnone hguards hderive hwrite hset

theorem admitImported_spec (himported : request.isImportedDelegation = true)
    (htarget : request.identity.target = .delegation)
    (hguards : admissionGuards request.identity db = .ok ())
    (h : (admitImported P request now) db = .ok (admission, db')) :
    Admits P db request ordinal now admission db' := by
  obtain ⟨derived, hderive, h⟩ := read_bind_eq_ok.mp h
  obtain ⟨candidate, -, h⟩ := read_bind_eq_ok.mp h
  obtain ⟨owned, howned, h⟩ := read_bind_eq_ok.mp h
  cases howned
  obtain ⟨hfree, h⟩ := require_bind_eq_ok.mp h
  obtain ⟨_, mid, hinsert, h⟩ := bind_eq_ok.mp h
  obtain ⟨rfl, rfl⟩ := pure_eq_ok.mp h
  rw [insertImportedDelegation_eq, identity_of_derive hderive] at hinsert
  obtain ⟨hnone, hwrite, hset⟩ := insertRow_eq_ok hinsert
  exact .adopted derived candidate _ himported htarget hnone hguards hderive
    (by simpa using hfree) hwrite hset

theorem admitExisting_spec {old : ChainSubmissionRow} {record : StoredChainSubmission}
    (hold : db.submissions.lookup request.identity = some old)
    (hload : old.load request.identity = .ok record) (hstate : record.state ≠ .submitting)
    (h : admitExisting P request record db = .ok (admission, db')) :
    Admits P db request ordinal now admission db' := by
  obtain ⟨derived, hderived, h⟩ := read_bind_eq_ok.mp h
  obtain ⟨_, hensure, h⟩ := read_bind_eq_ok.mp h
  have hready : Admits P db request ordinal now (.ready derived record false) db :=
    .existing old record derived hold hload (derive_of_deriveVerified hderived)
      (ensureGeneration_eq_ok.mp hensure) hstate
  cases hcase : record.state <;> simp only [hcase] at h <;>
    obtain ⟨rfl, rfl⟩ := pure_eq_ok.mp h <;>
    first | exact hready | exact .authoritative old record hold hload

/-- An imported delegation that passes the target check is a delegation. -/
theorem target_of_imported {u : Unit}
    (hvalid : request.validateTarget = .ok u) (himported : request.isImportedDelegation = true) :
    request.identity.target = .delegation := by
  unfold StoreAdvancementRequest.validateTarget at hvalid
  unfold StoreAdvancementRequest.isImportedDelegation at himported
  split at hvalid <;> simp_all

theorem loadSubmission_eq_ok {identity : ChainSubmissionIdentity}
    {existing : Option StoredChainSubmission} (h : loadSubmission identity db = .ok existing) :
    (existing = none ∧ db.submissions.lookup identity = none) ∨
      ∃ old record, existing = some record ∧ db.submissions.lookup identity = some old ∧
        old.load identity = .ok record := by
  unfold loadSubmission at h
  cases hrow : db.chainSubmissions.lookup identity with
  | none =>
    simp only [hrow, Except.ok.injEq] at h
    exact .inl ⟨h.symm, rfl⟩
  | some old =>
    simp only [hrow] at h
    obtain ⟨record, hload, rfl⟩ := except_map_eq_ok.mp h
    exact .inr ⟨old, record, rfl, rfl, hload⟩

theorem admitSubmission_spec {workAllowed : Bool}
    (h : (admitSubmission P request workAllowed ordinal now) db = .ok (admission, db')) :
    Admits P db request ordinal now admission db' := by
  obtain ⟨_, hvalid, h⟩ := read_bind_eq_ok.mp h
  obtain ⟨existing, hexisting, h⟩ := read_bind_eq_ok.mp h
  rcases loadSubmission_eq_ok hexisting with ⟨rfl, hnone⟩ | ⟨old, record, rfl, hold, hload⟩
  · dsimp only at h
    split at h
    · have hrest : ∃ guards, admissionGuards request.identity db = .ok guards ∧
          (if request.isImportedDelegation then admitImported P request now
            else admitFresh P request ordinal now) db = .ok (admission, db') := by
        split at h
        · obtain ⟨_, -, h⟩ := read_bind_eq_ok.mp h
          exact read_bind_eq_ok.mp h
        · exact read_bind_eq_ok.mp h
      obtain ⟨⟨⟩, hguards, h⟩ := hrest
      split at h
      · next himported =>
        exact admitImported_spec himported (target_of_imported hvalid himported) hguards h
      · exact admitFresh_spec hguards h
    · obtain ⟨rfl, rfl⟩ := pure_eq_ok.mp h
      exact .absent hnone
  · dsimp only at h
    split at h
    · next hstate =>
      obtain ⟨normalized, mid, hnormalized, h⟩ := bind_eq_ok.mp h
      obtain ⟨rfl, rfl⟩ := pure_eq_ok.mp h
      obtain ⟨heq, hrewrites⟩ := normalizeAbandoned_spec hold hload hstate hnormalized
      exact .normalized record normalized _ workAllowed hstate heq hrewrites
    · next hstate =>
      split at h
      · exact admitExisting_spec hold hload hstate h
      · obtain ⟨rfl, rfl⟩ := pure_eq_ok.mp h
        exact .authoritative old record hold hload

end Specs

/-! ## The operations as one interface -/

/-- A call of the store, with the clock reading it is given. -/
inductive StoreOp where
  | admitSubmission (request : StoreAdvancementRequest) (workAllowed : Bool)
      (reservationOrdinal now : Nat)
  | removeFreshReservation (generation : ChainSubmissionGeneration) (now : Nat)
  | classifyPost (generation : ChainSubmissionGeneration) (observation : SubmissionObservation)
      (now : Nat)
  | reserveAmbiguousRetry (generation : ChainSubmissionGeneration) (now : Nat)
  | reconcile (generation : ChainSubmissionGeneration) (observation : SubmissionObservation)
      (diagnostic : Option ChainSubmissionDiagnostic) (now : Nat)
  | confirmCommitted (request : StoreAdvancementRequest) (generation : ChainSubmissionGeneration)
      (candidate : CandidateTransactionHash) (events : List TxEvent) (commitAllowed : Bool)
      (now : Nat)
  | confirmTree (request : StoreAdvancementRequest) (generation : ChainSubmissionGeneration)
      (finalVanPosition : Nat) (voteCommitmentPositions : List Nat) (commitAllowed : Bool)
      (now : Nat)
  | reserveRecoveryRetry (request : StoreAdvancementRequest)
      (authorization : RecoveryRetryAuthorization) (now : Nat)
  deriving DecidableEq

/-- What a call answers. -/
inductive StoreAnswer where
  | admission (admission : StoreAdmission)
  | removed
  | record (record : StoredChainSubmission)
  | commit (commit : ConfirmationCommit)
  deriving DecidableEq

namespace StoreOp

/-- The identity whose row a call is about. -/
def identity : StoreOp → ChainSubmissionIdentity
  | .admitSubmission request _ _ _ | .reserveRecoveryRetry request _ _ => request.identity
  | .removeFreshReservation generation _ | .classifyPost generation _ _
  | .reserveAmbiguousRetry generation _ | .reconcile generation _ _ _
  | .confirmCommitted _ generation _ _ _ _ | .confirmTree _ generation _ _ _ _ =>
    generation.identity

/-- The transaction a call runs. -/
def body (P : Primitives) (op : StoreOp) (enforced : Bool := true) :
    Txn Db ChainSubmissionFailure StoreAnswer :=
  match op with
  | .admitSubmission request workAllowed ordinal now =>
    .admission <$> ZcashVoting.admitSubmission P request workAllowed ordinal now enforced
  | .removeFreshReservation generation _ =>
    (fun _ => .removed) <$> ZcashVoting.removeFreshReservation generation
  | .classifyPost generation observation now =>
    .record <$> applyObservation P generation observation none now enforced
  | .reserveAmbiguousRetry generation now =>
    .record <$> ZcashVoting.reserveAmbiguousRetry generation now enforced
  | .reconcile generation observation diagnostic now =>
    .record <$> applyObservation P generation observation diagnostic now enforced
  | .confirmCommitted request generation candidate events allowed now => .commit <$>
    ZcashVoting.confirmCommitted P request generation candidate events allowed now enforced
  | .confirmTree request generation van vcs allowed now =>
    .commit <$> ZcashVoting.confirmTree P request generation van vcs allowed now enforced
  | .reserveRecoveryRetry request authorization now =>
    .record <$> ZcashVoting.reserveRecoveryRetry P request authorization now enforced

/-- A call on a database: its answer and the database it leaves. -/
def run (P : Primitives) (op : StoreOp) (db : Db) (enforced : Bool := true) :
    Except ChainSubmissionFailure StoreAnswer × Db :=
  transact (op.body P enforced) db

/-- A committed call takes one step at the row of its identity and touches no
other row. -/
theorem run_rowStep {P : Primitives} {op : StoreOp} {db db' : Db} {answer : StoreAnswer}
    (h : op.run P db = (.ok answer, db')) : TakesRowStep db op.identity db' := by
  have h := transact_eq_ok.mp h
  cases op with
  | admitSubmission request workAllowed ordinal now =>
    obtain ⟨_, h, -⟩ := map_eq_ok.mp h
    exact (admitSubmission_spec h).takesRowStep
  | removeFreshReservation generation now =>
    obtain ⟨_, h, -⟩ := map_eq_ok.mp h
    obtain ⟨old, hold, hstate, -, hset⟩ := removeFreshReservation_spec h
    exact ⟨none, .withdrawn old hold hstate, hset⟩
  | classifyPost generation observation now | reconcile generation observation diagnostic now =>
    obtain ⟨_, h, -⟩ := map_eq_ok.mp h
    obtain ⟨_, -, -, -, hrewrites⟩ := applyObservation_spec h
    exact hrewrites.takesRowStep
  | reserveAmbiguousRetry generation now =>
    obtain ⟨_, h, -⟩ := map_eq_ok.mp h
    obtain ⟨_, -, -, -, hrewrites⟩ := reserveAmbiguousRetry_spec h
    exact hrewrites.takesRowStep
  | confirmCommitted request generation candidate events allowed now =>
    obtain ⟨_, h, -⟩ := map_eq_ok.mp h
    exact (confirmCommitted_spec h).takesRowStep
  | confirmTree request generation van vcs allowed now =>
    obtain ⟨_, h, -⟩ := map_eq_ok.mp h
    exact (confirmTree_spec h).takesRowStep
  | reserveRecoveryRetry request authorization now =>
    obtain ⟨_, h, -⟩ := map_eq_ok.mp h
    obtain ⟨_, _, -, -, -, hrewrites⟩ := reserveRecoveryRetry_spec h
    exact hrewrites.takesRowStep

/-- A failed call changes nothing. -/
theorem run_error {P : Primitives} {op : StoreOp} {db db' : Db} {failure : ChainSubmissionFailure}
    (h : op.run P db = (.error failure, db')) : db' = db :=
  transact_error h

/-- Every call, failed or committed, takes one step at the row of its identity. -/
theorem run_takesRowStep (P : Primitives) (op : StoreOp) (db : Db) :
    TakesRowStep db op.identity (op.run P db).2 := by
  cases h : op.run P db with
  | mk result db' =>
    cases result with
    | ok answer => exact run_rowStep h
    | error failure => rw [run_error h]; exact .refl db _

end StoreOp

end ZcashVoting
