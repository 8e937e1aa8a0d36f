import ZcashVoting.ChainSubmission.Store.HashOwnership

/-!
# ZcashVoting.ChainSubmission.Store.Schema

The transitions and the schema were written apart: one in the state table and
its bookkeeping, the other in the constraints, indexes and triggers of
`chain_submissions`.  This module says that they agree.  On a table of records
that meets the schema, an operation writes the same whether or not the schema is
enforced, so no constraint ever aborts one.
-/

namespace ZcashVoting

open Framing Transaction

/-! ## The immutable columns -/

namespace ChainSubmissionIdentity

theorem thirtyTwo_le_length_submissionIdentityKey (identity : ChainSubmissionIdentity) :
    32 ≤ (submissionIdentityKey identity).length := by
  have hround : identity.voteRoundId.val.val.length = 32 := identity.voteRoundId.val.property
  simp only [submissionIdentityKey, List.flatMap_cons, List.length_append, framed,
    length_beBytes]
  omega

/-- Every identity passes the checks on its columns. -/
theorem columnChecks_eq_true (identity : ChainSubmissionIdentity) :
    identity.columnChecks = true := by
  have hkey := identity.thirtyTwo_le_length_submissionIdentityKey
  have hbundle := identity.bundleIndex_le
  have hvalid := identity.target_valid
  have hnetwork : networkName identity.network ∈ ["mainnet", "testnet", "regtest"] := by
    cases identity.network <;> decide
  simp only [columnChecks, hnetwork, hbundle, hkey, decide_true, Bool.true_and]
  obtain ⟨wallet, network, round, index, target, _, _, _⟩ := identity
  cases target with
  | delegation => rfl
  | vote proposalId => simpa [targetColumns] using show 1 ≤ proposalId ∧ proposalId ≤ 50 from hvalid
  | voteBatch digest | delegateAndVoteBatch digest => simp [targetColumns, digest.property]

/-- The unique index tells identities apart. -/
theorem indexColumns_injective : Function.Injective indexColumns := by
  intro a b h
  obtain ⟨walletA, networkA, roundA, indexA, targetA, _, _, _⟩ := a
  obtain ⟨walletB, networkB, roundB, indexB, targetB, _, _, _⟩ := b
  simp only [indexColumns, targetColumns, SubmissionIndexColumns.mk.injEq] at h
  obtain ⟨rfl, hnetwork, rfl, hkind, rfl, hproposal, hdigest⟩ := h
  cases networkName_injective hnetwork
  cases targetA <;> cases targetB <;> simp_all only [String.reduceEq, Option.some.injEq]
  all_goals
    cases Subtype.ext hdigest
    rfl

end ChainSubmissionIdentity

/-! ## Rows of records -/

/-- A record that is not `submitting` passes the checks on its mutable columns once
its times are ordered and its tracking window has begun. -/
theorem StoredChainSubmission.checks_row {record : StoredChainSubmission}
    (htimes : record.createdAt ≤ record.updatedAt) (hstate : record.state ≠ .submitting)
    (htracking : ∀ candidate, record.state = .tracking candidate →
      record.trackingStartedAt.isSome = true) : record.row.checks = true := by
  obtain ⟨identity, digest, state, reservations, tracking, diagnostic, created, updated⟩ := record
  cases state with
  | submitting => exact absurd rfl hstate
  | tracking candidate =>
    have hstarted := htracking candidate rfl
    cases diagnostic with
    | none => simp_all [row, ChainSubmissionRow.checks, durableState,
        SubmissionRecordState.durableState, SubmissionRecordState.heldHash]
    | some diagnostic =>
      have hbounded := diagnostic.message_bounded
      simp_all [row, ChainSubmissionRow.checks, durableState,
        SubmissionRecordState.durableState, SubmissionRecordState.heldHash]
  | recovering candidate diagnostic | submittedWithoutHash diagnostic | rejected diagnostic =>
    have hbounded := diagnostic.message_bounded
    simp_all [row, ChainSubmissionRow.checks, durableState, SubmissionRecordState.durableState,
      SubmissionRecordState.heldHash]
  | confirmed confirmation =>
    cases confirmation <;>
      simp_all [row, ChainSubmissionRow.checks, durableState, SubmissionRecordState.durableState,
        SubmissionRecordState.heldHash, ValidatedChainSubmissionConfirmation.confirmation,
        ValidatedChainSubmissionConfirmation.transactionHash]

/-- Whoever owns the hash is this identity. -/
def HeldAlone (db : Db) (identity : ChainSubmissionIdentity) (hash : CandidateTransactionHash) :
    Prop :=
  ∀ key row, db.submissions.lookup key = some row → row.Owns hash → key = identity

theorem HeldAlone.of_free {db : Db} {identity : ChainSubmissionIdentity}
    {own : Option ChainSubmissionIdentity} {hash : CandidateTransactionHash}
    (hown : own = none ∨ own = some identity) (h : ownedElsewhere own hash db = false) :
    HeldAlone db identity hash := by
  intro key row hrow howns
  by_contra hne
  have hfree : ¬ ownedElsewhere own hash db = true := by simp [h]
  refine hfree (ownedElsewhere_eq_true.mpr ⟨key, row, hrow, ?_, howns⟩)
  rcases hown with rfl | rfl
  · simp
  · simpa using hne

/-- A record may be written when it passes the checks and nobody else owns the
hash it holds. -/
theorem StoredChainSubmission.constraints_row {db : Db} {record : StoredChainSubmission}
    (hchecks : record.row.checks = true)
    (halone : ∀ hash, record.state.heldHash = some hash → HeldAlone db record.identity hash) :
    record.row.constraints record.identity db.submissions = .ok () := by
  refine ChainSubmissionRow.constraints_eq_ok.mpr ⟨hchecks, ?_, ?_⟩
  · refine ChainSubmissionRow.uniqueIn_eq_true.mpr fun hash hhash key other hother howns => ?_
    exact halone hash hhash key other hother (.inl howns)
  · refine ChainSubmissionRow.uniqueIn_eq_true.mpr fun hash hhash key other hother howns => ?_
    have hheld : record.row.candidateTransactionHash = some hash :=
      ChainSubmissionRow.Owns.candidate (.inr hhash)
    exact halone hash hheld key other hother (.inr howns)

/-! ## What a move writes -/

/-- The hash a transition leaves is the one it found or the one it was given. -/
theorem SubmissionTransition.heldHash {s s' : SubmissionRecordState}
    {observation : SubmissionObservation} (h : SubmissionTransition s observation s')
    {hash : CandidateTransactionHash} (hheld : s'.heldHash = some hash) :
    s.heldHash = some hash ∨ observation = .usableCandidateHash hash := by
  cases h <;> simp_all [SubmissionRecordState.heldHash,
    ValidatedChainSubmissionConfirmation.transactionHash,
    ValidatedChainSubmissionConfirmation.confirmation]

section Moves

variable {db : Db} {record record' : StoredChainSubmission}

/-- A move keeps the record's hash or takes one that nobody else owns. -/
theorem RecordMove.heldHash (h : RecordMove db record record') {hash : CandidateTransactionHash}
    (hheld : record'.state.heldHash = some hash) :
    record.state.heldHash = some hash ∨
      ownedElsewhere (some record.identity) hash db = false := by
  cases h with
  | abandoned => cases hheld
  | recovered => cases hheld
  | retried => exact .inl hheld
  | confirmed confirmation state now htransition =>
    exact (htransition.heldHash hheld).imp id fun h => nomatch h
  | observed observation state diagnostic now htransition hfree =>
    exact (htransition.heldHash hheld).imp id (hfree hash)

theorem SubmissionTransition.ne_submitting {s s' : SubmissionRecordState}
    {observation : SubmissionObservation} (h : SubmissionTransition s observation s') :
    s' ≠ .submitting := by
  cases h <;> exact SubmissionRecordState.noConfusion

theorem RecordMove.ne_submitting (h : RecordMove db record record') :
    record'.state ≠ .submitting := by
  cases h with
  | abandoned | recovered => exact SubmissionRecordState.noConfusion
  | retried now hpermit =>
    intro hstate
    change record.state = _ at hstate
    rw [hstate] at hpermit
    cases hpermit
  | confirmed _ _ _ htransition => exact htransition.ne_submitting
  | observed _ _ _ _ htransition _ => exact htransition.ne_submitting

/-- A move that leaves the record tracking has started its window. -/
theorem RecordMove.tracking_started (h : RecordMove db record record')
    {candidate : CandidateTransactionHash} (hstate : record'.state = .tracking candidate) :
    record'.trackingStartedAt.isSome = true := by
  cases h with
  | abandoned | recovered => cases hstate
  | retried now hpermit =>
    change record.state = _ at hstate
    rw [hstate] at hpermit
    cases hpermit
  | confirmed confirmation state now htransition =>
    cases htransition.confirmed_target.symm.trans hstate
  | observed observation state diagnostic now =>
    change state = _ at hstate
    subst hstate
    cases hstarted : record.trackingStartedAt <;>
      simp [StoredChainSubmission.settleAfterTransition]

/-- No trigger fires on a move. -/
theorem RecordMove.triggers {identity : ChainSubmissionIdentity} {old : ChainSubmissionRow}
    (h : RecordMove db record record') (hload : LoadedFrom identity old record) :
    old.triggers record'.row = .ok () := by
  have hkept := h.bookkept
  have hreservations : ¬ record'.committedPostReservations < old.committedPostReservations := by
    rw [← hload.reservations_eq]
    exact Nat.not_lt.mpr hkept.reservations_le
  have htracking : (old.trackingStartedAt.isSome &&
      record'.trackingStartedAt != old.trackingStartedAt) = false := by
    rw [← hload.tracking_eq]
    rcases hkept.tracking with hsame | ⟨hnone, -⟩
    · simp [hsame]
    · simp [hnone]
  simp only [ChainSubmissionRow.triggers, StoredChainSubmission.row, hreservations, htracking]
  rfl

end Moves

/-! ## Tables that meet the schema -/

/-- Every row meets the constraints of the table. -/
def MeetsSchema (db : Db) : Prop :=
  ∀ identity row, db.submissions.lookup identity = some row →
    row.constraints identity db.submissions = .ok ()

/-- Every row of the table passes its checks. -/
def CheckedRows (db : Db) : Prop :=
  ∀ identity row, db.submissions.lookup identity = some row → row.checks = true

theorem meetsSchema_iff {db : Db} : MeetsSchema db ↔ CheckedRows db ∧
    UniqueColumn (·.candidateTransactionHash) db ∧ UniqueColumn (·.confirmedTransactionHash) db := by
  simp only [MeetsSchema, ChainSubmissionRow.constraints_eq_ok, ChainSubmissionRow.uniqueIn_eq_true]
  constructor
  · intro h
    refine ⟨fun identity row hrow => (h identity row hrow).1, ?_, ?_⟩
    · intro a b rowA rowB hash ha hb hownA hownB
      exact (h b rowB hb).2.1 hash hownB a rowA ha hownA
    · intro a b rowA rowB hash ha hb hownA hownB
      exact (h b rowB hb).2.2 hash hownB a rowA ha hownA
  · rintro ⟨hchecks, hcandidate, hconfirmed⟩ identity row hrow
    exact ⟨hchecks identity row hrow,
      fun hash hown key other hother hotherOwn =>
        hcandidate key identity other row hash hother hrow hotherOwn hown,
      fun hash hown key other hother hotherOwn =>
        hconfirmed key identity other row hash hother hrow hotherOwn hown⟩

theorem checkedRows_invariant : RowInvariant CheckedRows := by
  refine .of_rows ?_
  rintro db identity row new hI hstep rfl
  exact hstep.written.elim (hI identity new) Writable.checks

theorem RowInvariant.and {I J : Db → Prop} (hI : RowInvariant I) (hJ : RowInvariant J) :
    RowInvariant fun db => I db ∧ J db where
  empty db hempty := ⟨hI.empty db hempty, hJ.empty db hempty⟩
  same db db' h hsame := ⟨hI.same db db' h.1 hsame, hJ.same db db' h.2 hsame⟩
  step db db' identity row h hstep hset :=
    ⟨hI.step db db' identity row h.1 hstep hset, hJ.step db db' identity row h.2 hstep hset⟩

theorem meetsSchema_invariant : RowInvariant MeetsSchema := by
  have hcandidate : RowInvariant (UniqueColumn (·.candidateTransactionHash)) :=
    uniqueColumn_invariant fun _ _ _ hwrite =>
      (ChainSubmissionRow.constraints_eq_ok.mp hwrite.2).2.1
  have hconfirmed : RowInvariant (UniqueColumn (·.confirmedTransactionHash)) :=
    uniqueColumn_invariant fun _ _ _ hwrite =>
      (ChainSubmissionRow.constraints_eq_ok.mp hwrite.2).2.2
  rw [show MeetsSchema = fun db => CheckedRows db ∧ UniqueColumn (·.candidateTransactionHash) db ∧
    UniqueColumn (·.confirmedTransactionHash) db from funext fun _ => propext meetsSchema_iff]
  exact checkedRows_invariant.and (hcandidate.and hconfirmed)

/-! ## Enforcing the schema changes nothing -/

section Agreement

variable {P : Primitives} {db : Db} (hrecords : Canonical db) (hschema : MeetsSchema db)

include hrecords hschema

variable {identity : ChainSubmissionIdentity} {old : ChainSubmissionRow}
  {record : StoredChainSubmission}

/-- A hash that a stored row holds is held by it alone. -/
theorem heldAlone_of_stored {hash : CandidateTransactionHash}
    (hold : db.submissions.lookup identity = some old)
    (hheld : old.candidateTransactionHash = some hash) : HeldAlone db identity hash := by
  intro key row hrow howns
  obtain ⟨record, -, rfl⟩ := hrecords key row hrow
  exact (meetsSchema_iff.mp hschema).2.1 key identity _ old hash hrow hold howns.candidate hheld

/-- Every move of a stored record meets the schema. -/
theorem RecordMove.replaceable {record' : StoredChainSubmission}
    (hold : db.submissions.lookup identity = some old)
    (hload : old.load identity = .ok record) (hmove : RecordMove db record record') :
    old.replaceable record'.row identity db.submissions = .ok () := by
  have hloaded := ChainSubmissionRow.loadedFrom hload
  have hkept := hmove.bookkept
  have hidentity : record'.identity = identity := hkept.identity_eq.trans hloaded.identity_eq
  have hchecks := (meetsSchema_iff.mp hschema).1 identity old hold
  have htimes : record'.createdAt ≤ record'.updatedAt := by
    simp only [ChainSubmissionRow.checks, Bool.and_eq_true, decide_eq_true_eq] at hchecks
    calc record'.createdAt = old.createdAt := hkept.created_eq.trans hloaded.created_eq
      _ ≤ old.updatedAt := hchecks.1.1.1.1.1.1
      _ ≤ record'.updatedAt := hloaded.updated_eq ▸ hkept.updated_le
  -- The hash a stored record reads back is the one in its candidate column.
  have hheld : record.state.heldHash = old.candidateTransactionHash := by
    obtain ⟨stored, rfl, rfl⟩ := hrecords identity old hold
    cases (load_row stored).symm.trans hload
    cases hstate : stored.state <;>
      simp [StoredChainSubmission.reload, StoredChainSubmission.row, hstate,
        SubmissionRecordState.reload, SubmissionRecordState.heldHash]
  refine except_bind_eq_ok.mpr ⟨(), hmove.triggers hloaded, ?_⟩
  rw [← hidentity]
  refine StoredChainSubmission.constraints_row
    (StoredChainSubmission.checks_row htimes hmove.ne_submitting fun _ => hmove.tracking_started)
    fun hash hhash => ?_
  rcases hmove.heldHash hhash with hown | hfree
  · exact hidentity ▸ heldAlone_of_stored hrecords hschema hold (hheld ▸ hown)
  · exact .of_free (.inr rfl) (hkept.identity_eq ▸ hfree)

/-- Persisting a move of a stored record, after writes to other tables. -/
theorem persistMutable_agrees {record' : StoredChainSubmission} {mid : Db}
    (hold : db.submissions.lookup identity = some old) (hload : old.load identity = .ok record)
    (hmove : RecordMove db record record') (hmid : Same Db.submissions db mid) :
    (persistMutable record') mid = (persistMutable record' false) mid := by
  have hloaded := ChainSubmissionRow.loadedFrom hload
  have hkept := hmove.bookkept
  have hidentity : record'.identity = identity := hkept.identity_eq.trans hloaded.identity_eq
  have hlookup : mid.chainSubmissions.lookup record'.identity = some old := by
    rw [hidentity, show mid.chainSubmissions = db.chainSubmissions from hmid]
    exact hold
  have hsame : { record'.row with
      generationDigest := old.generationDigest, createdAt := old.createdAt } = record'.row := by
    rw [← hloaded.digest_eq, ← hloaded.created_eq, ← hkept.digest_eq, ← hkept.created_eq]
    rfl
  have hreplaceable : old.replaceable record'.row record'.identity mid.chainSubmissions = .ok () := by
    rw [hidentity, show mid.chainSubmissions = db.chainSubmissions from hmid]
    exact hmove.replaceable hrecords hschema hold hload
  simp only [persistMutable, updateRow, write, hlookup, hsame, enforcing, hreplaceable, ite_self]

theorem normalizeAbandoned_agrees {now : Nat}
    (hold : db.submissions.lookup identity = some old) (hload : old.load identity = .ok record)
    (hstate : record.state = .submitting) :
    (normalizeAbandoned record now) db = (normalizeAbandoned record now false) db := by
  refine mapError_congr_at (read_bind_congr fun settled hsettled => bind_congr_at ?_ fun _ _ _ => rfl)
  obtain ⟨state, htransition, rfl⟩ := applyTransition_eq_ok hsettled
  rw [hstate] at htransition
  cases htransition
  exact persistMutable_agrees hrecords hschema hold hload (.abandoned record now hstate) rfl

theorem applyObservation_agrees (generation : ChainSubmissionGeneration)
    (observation : SubmissionObservation) (diagnostic : Option ChainSubmissionDiagnostic)
    (now : Nat) :
    (applyObservation P generation observation diagnostic now) db =
      (applyObservation P generation observation diagnostic now false) db := by
  refine read_bind_congr fun record hrecord => ?_
  obtain ⟨old, hold, hload⟩ := requireSubmission_eq_ok hrecord
  have hidentity := (ChainSubmissionRow.loadedFrom hload).identity_eq
  refine read_bind_congr fun _ _ => read_bind_congr fun resolved hresolved =>
    read_bind_congr fun moved hmoved => ?_
  cases hresolved
  obtain ⟨state, htransition, rfl⟩ := applyTransition_eq_ok hmoved
  dsimp only
  split
  · rfl
  · refine bind_congr_at ?_ fun _ _ _ => rfl
    exact persistMutable_agrees hrecords hschema hold hload
      (.observed record _ state diagnostic now htransition
        fun candidate heq => hidentity ▸ resolveOwnership_free heq) rfl

theorem reserveAmbiguousRetry_agrees (generation : ChainSubmissionGeneration) (now : Nat) :
    (reserveAmbiguousRetry generation now) db = (reserveAmbiguousRetry generation now false) db := by
  refine read_bind_congr fun record hrecord => ?_
  obtain ⟨old, hold, hload⟩ := requireSubmission_eq_ok hrecord
  refine read_bind_congr fun _ _ => require_bind_congr fun hpermit =>
    read_bind_congr fun reserved hreserved => bind_congr_at ?_ fun _ _ _ => rfl
  cases reserveOne_eq_ok hreserved
  exact persistMutable_agrees hrecords hschema hold hload (.retried record now hpermit) rfl

theorem reserveRecoveryRetry_agrees (request : StoreAdvancementRequest)
    (authorization : RecoveryRetryAuthorization) (now : Nat) :
    (reserveRecoveryRetry P request authorization now) db =
      (reserveRecoveryRetry P request authorization now false) db := by
  refine require_bind_congr fun _ => read_bind_congr fun record hrecord => ?_
  obtain ⟨old, hold, hload⟩ := requireSubmission_eq_ok hrecord
  refine require_bind_congr fun _ => read_bind_congr fun _ _ => read_bind_congr fun _ _ => ?_
  cases hstate : record.state with
  | recovering candidate diagnostic =>
    refine require_bind_congr fun _ => read_bind_congr fun reserved hreserved =>
      bind_congr_at ?_ fun _ _ _ => rfl
    cases reserveOne_eq_ok hreserved
    exact persistMutable_agrees hrecords hschema hold hload
      (.recovered record candidate diagnostic now hstate) rfl
  | _ => rfl

theorem commitConfirmation_agrees (derived : DerivedChainSubmission)
    (confirmation : ValidatedChainSubmissionConfirmation) (now : Nat)
    (hold : db.submissions.lookup identity = some old) (hload : old.load identity = .ok record) :
    (commitConfirmation P record derived confirmation now) db =
      (commitConfirmation P record derived confirmation now false) db := by
  refine read_bind_congr fun moved hmoved => ?_
  obtain ⟨state, htransition, rfl⟩ := applyTransition_eq_ok hmoved
  refine bind_congr_at rfl fun _ mid happlied => bind_congr_at ?_ fun _ _ _ => rfl
  exact persistMutable_agrees hrecords hschema hold hload
    (.confirmed record confirmation state now htransition)
    (keeps_applyConfirmedGeneration P _ _ _ _ _ (mapError_eq_ok.mp happlied))

theorem confirmCommitted_agrees (request : StoreAdvancementRequest)
    (generation : ChainSubmissionGeneration) (candidate : CandidateTransactionHash)
    (events : List TxEvent) (allowed : Bool) (now : Nat) :
    (confirmCommitted P request generation candidate events allowed now) db =
      (confirmCommitted P request generation candidate events allowed now false) db := by
  refine read_bind_congr fun record hrecord => ?_
  obtain ⟨old, hold, hload⟩ := requireSubmission_eq_ok hrecord
  refine read_bind_congr fun _ _ => read_bind_congr fun derived _ => require_bind_congr fun _ => ?_
  split
  · exact read_bind_congr fun confirmation _ =>
      commitConfirmation_agrees hrecords hschema derived confirmation now hold hload
  · rfl

theorem confirmTree_agrees (request : StoreAdvancementRequest)
    (generation : ChainSubmissionGeneration) (van : Nat) (vcs : List Nat) (allowed : Bool)
    (now : Nat) :
    (confirmTree P request generation van vcs allowed now) db =
      (confirmTree P request generation van vcs allowed now false) db := by
  refine read_bind_congr fun record hrecord => ?_
  obtain ⟨old, hold, hload⟩ := requireSubmission_eq_ok hrecord
  refine read_bind_congr fun _ _ => read_bind_congr fun derived _ => require_bind_congr fun _ => ?_
  split
  · exact read_bind_congr fun confirmation _ =>
      commitConfirmation_agrees hrecords hschema derived confirmation now hold hload
  · rfl

omit hrecords hschema in
/-- Inserting a row that meets the constraints under a free identity. -/
theorem insertRow_agrees {row : ChainSubmissionRow} (hnone : db.submissions.lookup identity = none)
    (hconstraints : row.constraints identity db.submissions = .ok ()) :
    (insertRow identity row) db = (insertRow identity row false) db := by
  have hindex : (db.chainSubmissions.any fun key _ =>
      decide (key.indexColumns = identity.indexColumns)) = false := by
    refine Table.any_eq_false.mpr fun key other hother => decide_eq_false fun hcolumns => ?_
    rw [ChainSubmissionIdentity.indexColumns_injective hcolumns] at hother
    cases hnone.symm.trans hother
  have hinsertable : row.insertable identity db.chainSubmissions = .ok () :=
    except_bind_eq_ok.mpr ⟨(), check_eq_ok.mpr identity.columnChecks_eq_true,
      except_bind_eq_ok.mpr ⟨(), check_eq_ok.mpr (by rw [hindex]; rfl),
        except_bind_eq_ok.mpr ⟨(), check_eq_ok.mpr (by rw [hnone]; rfl), hconstraints⟩⟩⟩
  simp only [insertRow, write, enforcing, hinsertable, ite_self]

omit hrecords hschema in
theorem admitFresh_agrees (request : StoreAdvancementRequest) (ordinal now : Nat)
    (hnone : db.submissions.lookup request.identity = none) :
    (admitFresh P request ordinal now) db = (admitFresh P request ordinal now false) db := by
  refine read_bind_congr fun derived hderived => bind_congr_at ?_ fun _ _ _ => rfl
  have hidentity := identity_of_derive (derive_of_deriveVerified hderived)
  rw [insertFresh_eq]
  refine insertRow_agrees (by rw [hidentity]; exact hnone)
    (ChainSubmissionRow.constraints_eq_ok.mpr ⟨?_, rfl, rfl⟩)
  simp [StoredChainSubmission.row, StoredChainSubmission.fresh, ChainSubmissionRow.checks,
    StoredChainSubmission.durableState, SubmissionRecordState.durableState,
    SubmissionRecordState.heldHash]

omit hrecords hschema in
theorem admitImported_agrees (request : StoreAdvancementRequest) (now : Nat)
    (hnone : db.submissions.lookup request.identity = none) :
    (admitImported P request now) db = (admitImported P request now false) db := by
  refine read_bind_congr fun derived hderive => read_bind_congr fun candidate _ =>
    read_bind_congr fun owned howned => require_bind_congr fun hfree =>
      bind_congr_at ?_ fun _ _ _ => rfl
  cases howned
  have hidentity := identity_of_derive hderive
  rw [insertImportedDelegation_eq]
  refine insertRow_agrees (by rw [hidentity]; exact hnone)
    (StoredChainSubmission.constraints_row (StoredChainSubmission.checks_row le_rfl
      SubmissionRecordState.noConfusion fun _ _ => rfl) fun hash hhash => ?_)
  cases hhash
  exact .of_free (.inl rfl) (by simpa using hfree)

theorem admitSubmission_agrees (request : StoreAdvancementRequest) (workAllowed : Bool)
    (ordinal now : Nat) :
    (admitSubmission P request workAllowed ordinal now) db =
      (admitSubmission P request workAllowed ordinal now false) db := by
  refine read_bind_congr fun _ _ => read_bind_congr fun existing hexisting => ?_
  rcases loadSubmission_eq_ok hexisting with ⟨rfl, hnone⟩ | ⟨old, record, rfl, hold, hload⟩
  · have hrest : (if request.isImportedDelegation then admitImported P request now
          else admitFresh P request ordinal now) db =
        (if request.isImportedDelegation then admitImported P request now false
          else admitFresh P request ordinal now false) db := by
      split
      · exact admitImported_agrees request now hnone
      · exact admitFresh_agrees request ordinal now hnone
    dsimp only
    split
    · split
      · exact read_bind_congr fun _ _ => read_bind_congr fun _ _ => hrest
      · exact read_bind_congr fun _ _ => hrest
    · rfl
  · dsimp only
    split
    · next hstate =>
      exact bind_congr_at (normalizeAbandoned_agrees hrecords hschema hold hload hstate)
        fun _ _ _ => rfl
    · rfl

/-- Enforcing the schema changes no call. -/
theorem StoreOp.run_agrees (op : StoreOp) : op.run P db = op.run P db false := by
  suffices hbody : (op.body P) db = (op.body P false) db by
    simp only [StoreOp.run, transact, hbody]
  cases op with
  | admitSubmission request workAllowed ordinal now =>
    exact map_congr_at (admitSubmission_agrees hrecords hschema request workAllowed ordinal now)
  | removeFreshReservation generation now => rfl
  | classifyPost generation observation now =>
    exact map_congr_at (applyObservation_agrees hrecords hschema generation observation none now)
  | reconcile generation observation diagnostic now =>
    exact map_congr_at
      (applyObservation_agrees hrecords hschema generation observation diagnostic now)
  | reserveAmbiguousRetry generation now =>
    exact map_congr_at (reserveAmbiguousRetry_agrees hrecords hschema generation now)
  | reserveRecoveryRetry request authorization now =>
    exact map_congr_at (reserveRecoveryRetry_agrees hrecords hschema request authorization now)
  | confirmCommitted request generation candidate events allowed now =>
    exact map_congr_at (confirmCommitted_agrees hrecords hschema request generation candidate
      events allowed now)
  | confirmTree request generation van vcs allowed now =>
    exact map_congr_at (confirmTree_agrees hrecords hschema request generation van vcs allowed now)

end Agreement

/-- From any table of records that meets the schema, every call does what it would
do on a table without constraints, indexes and triggers, and the table it leaves is
again one of records that meets the schema: every row written passes every check,
both unique indexes and both triggers. -/
theorem schema_agreement (P : Primitives) (db : Db) (hrecords : Canonical db)
    (hschema : MeetsSchema db) (op : StoreOp) :
    op.run P db = op.run P db false ∧
      Canonical (op.run P db).2 ∧ MeetsSchema (op.run P db).2 := by
  obtain ⟨row, hstep, hset⟩ := StoreOp.run_takesRowStep P op db
  exact ⟨op.run_agrees hrecords hschema,
    canonical_invariant.step db _ op.identity row hrecords hstep hset,
    meetsSchema_invariant.step db _ op.identity row hschema hstep hset⟩

/-- The confirmation of the sample's tracked transaction commits without the schema
standing in its way. -/
theorem schema_agreement_confirmation :
    ((sampleConfirm 11).run samplePrimitives sampleTracking).1.isOk = true ∧
      (sampleConfirm 11).run samplePrimitives sampleTracking =
        (sampleConfirm 11).run samplePrimitives sampleTracking false ∧
      MeetsSchema ((sampleConfirm 11).run samplePrimitives sampleTracking).2 := by
  have hagrees := schema_agreement samplePrimitives sampleTracking
    (sampleTracking_reachable.invariant canonical_invariant)
    (sampleTracking_reachable.invariant meetsSchema_invariant) (sampleConfirm 11)
  exact ⟨by decide +kernel, hagrees.1, hagrees.2.2⟩

end ZcashVoting
