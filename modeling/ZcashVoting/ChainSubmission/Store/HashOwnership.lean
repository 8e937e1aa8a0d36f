import ZcashVoting.ChainSubmission.Store.Bookkeeping

/-!
# ZcashVoting.ChainSubmission.Store.HashOwnership

A transaction hash belongs to at most one submission, and what happens to a
submission that is handed a hash which is taken.
-/

namespace ZcashVoting

open Transaction

variable {record : StoredChainSubmission} {db : Db} {identity : ChainSubmissionIdentity}

/-- A row owns a hash as its candidate or as its confirmation. -/
def ChainSubmissionRow.Owns (row : ChainSubmissionRow) (hash : CandidateTransactionHash) : Prop :=
  row.candidateTransactionHash = some hash ∨ row.confirmedTransactionHash = some hash

/-- A persisted confirmation hash is also the candidate. -/
theorem ChainSubmissionRow.Owns.candidate {hash : CandidateTransactionHash}
    (h : record.row.Owns hash) :
    record.row.candidateTransactionHash = some hash := by
  rcases h with h | h
  · exact h
  · obtain ⟨identity, digest, state, reservations, tracking, diagnostic, created, updated⟩ := record
    cases state with
    | confirmed confirmation => cases confirmation <;> exact h
    | _ => cases h

theorem ownedElsewhere_eq_true {own : Option ChainSubmissionIdentity}
    {hash : CandidateTransactionHash} :
    ownedElsewhere own hash db = true ↔
      ∃ key row, db.submissions.lookup key = some row ∧ some key ≠ own ∧ row.Owns hash := by
  simp [ownedElsewhere, Table.any_eq_true, ChainSubmissionRow.Owns]

/-! ## One owner -/

section Constraints

variable {row : ChainSubmissionRow} {identity : ChainSubmissionIdentity}
  {table : Table ChainSubmissionIdentity ChainSubmissionRow}

theorem ChainSubmissionRow.constraints_eq_ok {u : Unit} :
    row.constraints identity table = .ok u ↔ row.checks = true ∧
      row.uniqueIn (·.candidateTransactionHash) identity table = true ∧
      row.uniqueIn (·.confirmedTransactionHash) identity table = true := by
  unfold constraints
  cases row.checks <;> cases row.uniqueIn (·.candidateTransactionHash) identity table <;>
    cases row.uniqueIn (·.confirmedTransactionHash) identity table <;> simp

/-- A unique index holds of a row when whoever has its hash is the row itself. -/
theorem ChainSubmissionRow.uniqueIn_eq_true
    {column : ChainSubmissionRow → Option CandidateTransactionHash} :
    row.uniqueIn column identity table = true ↔ ∀ hash, column row = some hash →
      ∀ key other, table.lookup key = some other → column other = some hash → key = identity := by
  cases hcolumn : column row with
  | none => simp [uniqueIn, hcolumn]
  | some hash =>
    simp only [uniqueIn, hcolumn, Option.isNone_some, Bool.false_or, Bool.not_eq_true',
      Table.any_eq_false, Bool.and_eq_false_iff, decide_eq_false_iff_not, beq_eq_false_iff_ne,
      ne_eq, not_not, Option.some.injEq, forall_eq']
    constructor
    · intro h key other hlookup hother
      exact (h key other hlookup).resolve_right (absurd hother)
    · intro h key other hlookup
      by_cases hother : column other = some hash
      · exact .inl (h key other hlookup hother)
      · exact .inr hother

end Constraints

/-- A unique index on a hash column: no two rows hold one hash. -/
def UniqueColumn (column : ChainSubmissionRow → Option CandidateTransactionHash) (db : Db) : Prop :=
  ∀ a b rowA rowB hash, db.submissions.lookup a = some rowA → db.submissions.lookup b = some rowB →
    column rowA = some hash → column rowB = some hash → a = b

/-- No two rows hold one candidate. -/
def OneOwner (db : Db) : Prop :=
  ∀ a b rowA rowB hash, db.submissions.lookup a = some rowA → db.submissions.lookup b = some rowB →
    rowA.candidateTransactionHash = some hash → rowB.candidateTransactionHash = some hash → a = b

theorem Writable.checks {row : ChainSubmissionRow}
    (h : Writable db identity row) : row.checks = true :=
  (ChainSubmissionRow.constraints_eq_ok.mp h.2).1

/-- A step leaves the old row, no row, or a written one. -/
theorem RowStep.written {new : ChainSubmissionRow} (h : RowStep db identity (some new)) :
    db.submissions.lookup identity = some new ∨ Writable db identity new := by
  generalize hrow : some new = row at h
  cases h with
  | kept => exact .inl rfl
  | reserved _ _ _ _ _ hwrite => cases hrow; exact .inr hwrite
  | adopted _ _ _ _ _ _ _ hwrite => cases hrow; exact .inr hwrite
  | moved _ _ _ _ _ _ _ hwrite => cases hrow; exact .inr hwrite
  | withdrawn => cases hrow
  | retired => cases hrow

/-- An index that every written row meets is kept by every step. -/
theorem uniqueColumn_invariant {column : ChainSubmissionRow → Option CandidateTransactionHash}
    (hindex : ∀ db identity row, Writable db identity row →
      row.uniqueIn column identity db.submissions = true) : RowInvariant (UniqueColumn column) where
  empty := by
    intro db hempty a b rowA rowB hash ha
    rw [hempty] at ha
    cases ha
  same := by
    intro db db' hI hsame
    have htable : db'.submissions = db.submissions := hsame
    unfold UniqueColumn
    rw [htable]
    exact hI
  step := by
    intro db db' identity row hI hstep hset a b rowA rowB hash ha hb hownA hownB
    -- A changed row met the index against every row that stayed.
    have written : ∀ key new, db'.submissions.lookup key = some new →
        db.submissions.lookup key = some new ∨ (key = identity ∧ Writable db identity new) := by
      intro key new hnew
      rw [hset key] at hnew
      split at hnew
      · next hkey =>
        subst hkey
        subst hnew
        exact hstep.written.imp id fun h => ⟨rfl, h⟩
      · exact .inl hnew
    have unique : ∀ {key new other}, Writable db identity new → column new = some hash →
        db.submissions.lookup key = some other → column other = some hash → key = identity :=
      fun hwrite hnew hlookup hother =>
        ChainSubmissionRow.uniqueIn_eq_true.mp (hindex _ _ _ hwrite) hash hnew _ _ hlookup hother
    rcases written a rowA ha with holdA | ⟨rfl, hwriteA⟩
    · rcases written b rowB hb with holdB | ⟨rfl, hwriteB⟩
      · exact hI a b rowA rowB hash holdA holdB hownA hownB
      · exact unique hwriteB hownB holdA hownA
    · rcases written b rowB hb with holdB | ⟨rfl, -⟩
      · exact (unique hwriteA hownA holdB hownB).symm
      · rfl

theorem oneOwner_invariant : RowInvariant OneOwner :=
  uniqueColumn_invariant fun _ _ _ hwrite => (ChainSubmissionRow.constraints_eq_ok.mp hwrite.2).2.1

/-! ## Rows fit their columns -/

/-- Every stored integer fits its column. -/
def BoundRows (db : Db) : Prop :=
  ∀ identity row, db.submissions.lookup identity = some row → row.binds = true

theorem boundRows_invariant : RowInvariant BoundRows := by
  refine .of_rows ?_
  rintro db identity row new hI hstep rfl
  exact hstep.written.elim (hI identity new) fun hwrite => hwrite.1

/-! ## A POST that is answered with a taken hash -/

/-- The diagnostic of a taken hash. -/
def takenHashDiagnostic : ChainSubmissionDiagnostic :=
  .fromRedactedMessage .invalidProtocolResponse
    "vote-chain returned a transaction hash owned by another semantic generation"

/-- The states a POST is made from: before any possible dispatch, or recovering
without a candidate. -/
def SubmissionRecordState.Postable (state : SubmissionRecordState) : Prop :=
  state = .submitting ∨ ∃ diagnostic, state = .recovering none diagnostic

theorem applyTransition_taken (hstate : record.state.Postable) (removed : String) :
    applyTransition record (.possiblyDispatched takenHashDiagnostic) removed =
      .ok { record with state := .recovering none takenHashDiagnostic } := by
  rcases hstate with h | ⟨diagnostic, h⟩ <;> simp [applyTransition, h, applySubmissionObservation]

theorem persistMutable_ok {loaded : StoredChainSubmission} {old : ChainSubmissionRow}
    (hold : db.submissions.lookup record.identity = some old)
    (hload : LoadedFrom record.identity old loaded)
    (hdigest : record.generationDigest = loaded.generationDigest)
    (hcreated : record.createdAt = loaded.createdAt)
    (htriggers : old.triggers record.row = .ok ())
    (hwrite : Writable db record.identity record.row) :
    (persistMutable record) db = .ok ((), db.setSubmission record.identity record.row) := by
  have hsame : { record.row with
      generationDigest := old.generationDigest, createdAt := old.createdAt } = record.row := by
    rw [← hload.digest_eq, ← hload.created_eq, ← hdigest, ← hcreated]
    rfl
  unfold persistMutable updateRow
  refine write_eq_ok.mpr (except_bind_eq_ok.mpr ⟨(), check_eq_ok.mpr hwrite.1, ?_⟩)
  simp only [show db.chainSubmissions.lookup record.identity = some old from hold, hsame]
  exact except_bind_eq_ok.mpr ⟨(), except_bind_eq_ok.mpr ⟨(), htriggers, hwrite.2⟩,
    except_pure_eq_ok.mpr rfl⟩

/-- A hashless recovering row can always be written. -/
theorem writable_recovering {diagnostic : ChainSubmissionDiagnostic}
    (hstate : record.state = .recovering none diagnostic)
    (hbinds : record.row.binds = true) (htimes : record.createdAt ≤ record.updatedAt) :
    Writable db record.identity record.row := by
  have hbounded := diagnostic.message_bounded
  obtain ⟨identity, digest, state, reservations, tracking, stored, created, updated⟩ := record
  subst hstate
  refine ⟨hbinds, ?_⟩
  simp [ChainSubmissionRow.constraints, ChainSubmissionRow.checks, ChainSubmissionRow.uniqueIn,
    StoredChainSubmission.row, StoredChainSubmission.durableState,
    SubmissionRecordState.durableState, SubmissionRecordState.heldHash]
  exact ⟨decide_eq_true htimes, hbounded⟩

/-- The row of a POST that is answered with a taken hash. -/
theorem classifyPost_taken {P : Primitives} (hcanonical : Canonical db)
    (hbound : BoundRows db) (htimed : TimedRows db) {generation : ChainSubmissionGeneration}
    {candidate : CandidateTransactionHash} {now : Nat} {old : ChainSubmissionRow}
    (hold : db.submissions.lookup generation.identity = some old)
    (hdigest : old.generationDigest = generation.digest)
    (hpost : old.state = .submitting ∨
      (old.state = .recovering ∧ old.candidateTransactionHash = none))
    (htaken : ownedElsewhere (some generation.identity) candidate db = true)
    (hnow : now ≤ i64Max) :
    ∃ record : StoredChainSubmission,
      record.state = .recovering none takenHashDiagnostic ∧
      (StoreOp.classifyPost generation (.usableCandidateHash candidate) now).run P db =
        (.ok (.record record), db.setSubmission generation.identity record.row) := by
  obtain ⟨stored, hidentity, rfl⟩ := hcanonical generation.identity old hold
  have hload := load_row stored
  have hpostable : stored.reload.state.Postable := by
    cases hs : stored.state <;>
      simp_all [SubmissionRecordState.Postable, StoredChainSubmission.reload,
        SubmissionRecordState.reload, StoredChainSubmission.row,
        StoredChainSubmission.durableState, SubmissionRecordState.durableState,
        SubmissionRecordState.heldHash]
  -- The record after the transition, as the call settles it.
  let settled := StoredChainSubmission.settleAfterTransition
    { stored.reload with state := .recovering none takenHashDiagnostic }
    stored.reload.durableState none now
  have hrequire := requireSubmission_of_load hold (hidentity ▸ hload)
  have hensure : ensureGeneration stored.reload generation = .ok () := by
    refine ensureGeneration_eq_ok.mpr ?_
    rw [StoredChainSubmission.generation, show stored.reload.identity = _ from hidentity,
      show stored.reload.generationDigest = _ from hdigest]
  have hresolve : resolveOwnership generation (.usableCandidateHash candidate) db =
      .possiblyDispatched takenHashDiagnostic := by
    simp [resolveOwnership, htaken, takenHashDiagnostic]
  have hbinds : settled.row.binds = true := by
    have := hbound generation.identity stored.row hold
    simp only [ChainSubmissionRow.binds, Bool.and_eq_true, decide_eq_true_eq] at this ⊢
    obtain ⟨⟨⟨⟨⟨hreservations, hcreated⟩, hupdated⟩, htracking⟩, -⟩, -⟩ := this
    exact ⟨⟨⟨⟨⟨hreservations, hcreated⟩, max_le hnow hupdated⟩, htracking⟩, rfl⟩, rfl⟩
  have hwrite : Writable db settled.identity settled.row :=
    writable_recovering rfl hbinds
      ((htimed generation.identity stored.row hold).created_le.trans (le_max_right _ _))
  have hpersist : (persistMutable settled) db =
      .ok ((), db.setSubmission generation.identity settled.row) := by
    have hsettled : settled.identity = generation.identity := hidentity
    rw [← hsettled]
    have hloaded : LoadedFrom settled.identity stored.row stored.reload :=
      ChainSubmissionRow.loadedFrom hload
    refine persistMutable_ok (by rw [hsettled]; exact hold) hloaded rfl rfl ?_ hwrite
    simp [ChainSubmissionRow.triggers, settled, StoredChainSubmission.row,
      StoredChainSubmission.settleAfterTransition, StoredChainSubmission.reload]
  refine ⟨settled, rfl, transact_eq_ok.mpr (map_eq_ok.mpr ⟨settled, ?_, rfl⟩)⟩
  unfold applyObservation
  refine read_bind_eq_ok.mpr ⟨_, hrequire _, read_bind_eq_ok.mpr ⟨(), hensure,
    read_bind_eq_ok.mpr ⟨_, rfl, ?_⟩⟩⟩
  rw [hresolve]
  refine read_bind_eq_ok.mpr ⟨_, applyTransition_taken hpostable _, ?_⟩
  rw [if_neg (by simp [StoredChainSubmission.retiresCombinedGeneration,
    StoredChainSubmission.durableState, SubmissionRecordState.durableState])]
  exact bind_eq_ok.mpr ⟨(), _, hpersist, pure_eq_ok.mpr ⟨rfl, rfl⟩⟩

/-- Every refusal of a delegation's first admission is an invalid input. -/
theorem admissionGuards_error {failure : ChainSubmissionFailure}
    (htarget : identity.target = .delegation)
    (h : admissionGuards identity db = .error failure) : failure.kind = .invalidInput := by
  have hfree : combinedOccupied identity db = .ok false := by
    simp [combinedOccupied, htarget, ChainSubmissionTarget.isCombined]
  have refused : ∀ {c message}, check c (refuseAdmission message) = .error failure →
      failure.kind = .invalidInput := by
    intro c message h
    obtain ⟨-, rfl⟩ := check_eq_error.mp h
    rfl
  rcases except_bind_eq_error.mp h with h | ⟨_, -, h⟩
  · rw [hfree] at h
    cases h
  rcases except_bind_eq_error.mp h with h | ⟨_, -, h⟩
  · exact refused h
  rcases except_bind_eq_error.mp h with h | ⟨_, -, h⟩
  · exact refused h
  rcases except_bind_eq_error.mp h with h | ⟨_, -, h⟩
  · exact refused h
  · exact refused h

/-- An imported delegation whose transaction another submission owns is refused. -/
theorem admitSubmission_taken {P : Primitives}
    {derived : DerivedChainSubmission} {candidate : CandidateTransactionHash} {ordinal now : Nat}
    (htarget : identity.target = .delegation) (hnone : db.submissions.lookup identity = none)
    (hderive : derive P (StoreAdvancementRequest.importedDelegation identity).derivation db =
      .ok derived)
    (hcandidate : derived.importedCandidate = some candidate)
    (htaken : ownedElsewhere none candidate db = true) :
    ∃ failure, failure.kind = .invalidInput ∧
      (StoreOp.admitSubmission (.importedDelegation identity) true ordinal now).run P db =
        (.error failure, db) := by
  have hvalid : (StoreAdvancementRequest.importedDelegation identity).validateTarget = .ok () := by
    simp [StoreAdvancementRequest.validateTarget, StoreAdvancementRequest.importedDelegation,
      StoreAdvancementRequest.identity, SubmissionDerivationRequest.identity, htarget]
  have hload : loadSubmission identity db = .ok none := by
    simp [loadSubmission, show db.chainSubmissions.lookup identity = none from hnone]
  -- Past the guards, the adoption itself is refused.
  have hadopt : (admitImported P (.importedDelegation identity) now) db = .error (refuseAdmission
      "imported delegation transaction hash belongs to another submission") := by
    refine read_bind_eq_error.mpr (.inr ⟨derived, hderive, ?_⟩)
    simp only [hcandidate]
    refine read_bind_eq_error.mpr (.inr ⟨candidate, rfl, ?_⟩)
    refine read_bind_eq_error.mpr (.inr ⟨true, by rw [htaken], ?_⟩)
    rfl
  have hbody : ∃ failure, failure.kind = .invalidInput ∧
      (admitSubmission P (.importedDelegation identity) true ordinal now) db = .error failure := by
    cases hguards : admissionGuards identity db with
    | error failure =>
      exact ⟨failure, admissionGuards_error htarget hguards,
        read_bind_eq_error.mpr (.inr ⟨(), hvalid, read_bind_eq_error.mpr (.inr ⟨none, hload,
          read_bind_eq_error.mpr (.inl hguards)⟩)⟩)⟩
    | ok _ =>
      exact ⟨_, rfl, read_bind_eq_error.mpr (.inr ⟨(), hvalid, read_bind_eq_error.mpr
        (.inr ⟨none, hload, read_bind_eq_error.mpr (.inr ⟨_, hguards, hadopt⟩)⟩)⟩)⟩
  obtain ⟨failure, hkind, hbody⟩ := hbody
  exact ⟨failure, hkind, transact_eq_error.mpr (map_eq_error.mpr hbody)⟩

/-! ## Ownership over runs -/

/-- The adoption of a transaction that another bundle tracks fails, and no row is
left for it. -/
theorem adoption_of_taken_hash_fails :
    StoreReachable samplePrimitives sampleTracking ∧
    ownedElsewhere none sampleHash sampleTracking = true ∧
    (derive samplePrimitives (sampleRequest 1).derivation sampleTracking).toOption.map
      (·.importedCandidate) = some (some sampleHash) ∧
    ((StoreOp.admitSubmission (sampleRequest 1) true 1 12).run samplePrimitives
      sampleTracking).1.isOk = false ∧
    ((StoreOp.admitSubmission (sampleRequest 1) true 1 12).run samplePrimitives
      sampleTracking).2.chainSubmissions.lookup (sampleIdentity 1) = none :=
  ⟨sampleTracking_reachable, by decide +kernel, by decide +kernel, by decide +kernel,
    by decide +kernel⟩

/-- Over every run of the store, a hash is owned by at most one submission.  A POST
of a reserved or hashless recovering submission that is answered with a taken hash
succeeds and leaves a hashless recovering row; the adoption of a taken hash is
refused as an invalid input and writes nothing. -/
theorem hash_ownership (P : Primitives) (db : Db) (hreach : StoreReachable P db) :
    (∀ a b rowA rowB hash, db.chainSubmissions.lookup a = some rowA →
      db.chainSubmissions.lookup b = some rowB → rowA.Owns hash → rowB.Owns hash → a = b) ∧
    (∀ (generation : ChainSubmissionGeneration) (candidate : CandidateTransactionHash) (now : Nat)
        old, db.chainSubmissions.lookup generation.identity = some old →
      old.generationDigest = generation.digest →
      old.state = .submitting ∨
        (old.state = .recovering ∧ old.candidateTransactionHash = none) →
      (∃ key row, db.chainSubmissions.lookup key = some row ∧ key ≠ generation.identity ∧
        row.Owns candidate) →
      now ≤ i64Max →
      ∃ record : StoredChainSubmission, record.state = .recovering none takenHashDiagnostic ∧
        (StoreOp.classifyPost generation (.usableCandidateHash candidate) now).run P db =
          (.ok (.record record), db.setSubmission generation.identity record.row)) ∧
    (∀ (identity : ChainSubmissionIdentity) (derived : DerivedChainSubmission)
        (candidate : CandidateTransactionHash) (ordinal now : Nat),
      identity.target = .delegation → db.chainSubmissions.lookup identity = none →
      derive P (StoreAdvancementRequest.importedDelegation identity).derivation db =
        .ok derived →
      derived.importedCandidate = some candidate →
      (∃ key row, db.chainSubmissions.lookup key = some row ∧ row.Owns candidate) →
      ∃ failure, failure.kind = .invalidInput ∧
        (StoreOp.admitSubmission (.importedDelegation identity) true ordinal now).run P db =
          (.error failure, db)) := by
  have hcanonical := hreach.invariant canonical_invariant
  refine ⟨?_, ?_, ?_⟩
  · intro a b rowA rowB hash ha hb hownA hownB
    obtain ⟨recordA, -, rfl⟩ := hcanonical a rowA ha
    obtain ⟨recordB, -, rfl⟩ := hcanonical b rowB hb
    exact hreach.invariant oneOwner_invariant a b _ _ hash ha hb hownA.candidate hownB.candidate
  · rintro generation candidate now old hold hdigest hpost ⟨key, row, hrow, hkey, howns⟩ hnow
    exact classifyPost_taken hcanonical (hreach.invariant boundRows_invariant)
      (hreach.invariant timedRows_invariant) hold hdigest hpost
      (ownedElsewhere_eq_true.mpr ⟨key, row, hrow, by simpa using hkey, howns⟩) hnow
  · rintro identity derived candidate ordinal now htarget hnone hderive hcandidate
      ⟨key, row, hrow, howns⟩
    exact admitSubmission_taken htarget hnone hderive hcandidate
      (ownedElsewhere_eq_true.mpr ⟨key, row, hrow, by simp, howns⟩)

/-- The tracked transaction of the sample has one owner; the POST of the reserved vote that is
answered with it leaves the vote recovering, and the second bundle cannot adopt it. -/
theorem hash_ownership_tracking :
    (∀ b rowB, sampleSubmitting.chainSubmissions.lookup b = some rowB → rowB.Owns sampleHash →
      sampleIdentity 0 = b) ∧
    (∃ record : StoredChainSubmission, record.state = .recovering none takenHashDiagnostic ∧
      (StoreOp.classifyPost ⟨sampleVoteIdentity, Bytes32.fill 1⟩ (.usableCandidateHash sampleHash)
        12).run samplePrimitives sampleSubmitting =
        (.ok (.record record), sampleSubmitting.setSubmission sampleVoteIdentity record.row)) ∧
    ∃ failure, failure.kind = .invalidInput ∧
      (StoreOp.admitSubmission (.importedDelegation (sampleIdentity 1)) true 1 12).run
        samplePrimitives sampleSubmitting = (.error failure, sampleSubmitting) := by
  obtain ⟨hone, hpost, hadopt⟩ := hash_ownership samplePrimitives sampleSubmitting
    sampleSubmitting_reachable
  obtain ⟨owner, howner, howns⟩ := Option.map_eq_some_iff.mp (show
    (sampleSubmitting.chainSubmissions.lookup (sampleIdentity 0)).map (·.candidateTransactionHash) =
      some (some sampleHash) by decide +kernel)
  obtain ⟨vote, hvote, hcolumns⟩ := Option.map_eq_some_iff.mp (show
    (sampleSubmitting.chainSubmissions.lookup sampleVoteIdentity).map
      (fun row => (row.generationDigest, row.state)) = some (Bytes32.fill 1, .submitting) by
        decide +kernel)
  obtain ⟨hdigest, hstate⟩ := Prod.mk.inj hcolumns
  obtain ⟨derived, hderive, hcandidate⟩ := except_map_eq_ok.mp (show
    (derive samplePrimitives (sampleRequest 1).derivation sampleSubmitting).map
      (·.importedCandidate) = .ok (some sampleHash) by decide +kernel)
  refine ⟨fun b rowB hb => hone _ b owner rowB _ howner hb (.inl howns), ?_, ?_⟩
  · exact hpost ⟨sampleVoteIdentity, Bytes32.fill 1⟩ sampleHash 12 vote hvote hdigest (.inl hstate)
      ⟨_, owner, howner, by decide, .inl howns⟩ (by decide)
  · exact hadopt (sampleIdentity 1) derived sampleHash 1 12 rfl (by decide +kernel) hderive
      hcandidate ⟨_, owner, howner, .inl howns⟩

end ZcashVoting
