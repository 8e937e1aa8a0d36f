import ZcashVoting.ChainSubmission.Store.Columns

/-!
# ZcashVoting.ChainSubmission.Store.RoundTrip

Writing a record and loading it again, as after a restart.

Everything but the text of a diagnostic comes back as it was written.  The text
is escaped when the diagnostic is made and once more whenever it is loaded, so it
comes back unchanged when there is nothing in it to escape: when it is `Plain`.
-/

namespace ZcashVoting

open Transaction

variable {observation : SubmissionObservation} {db : Db}

/-! ## Texts that escaping leaves alone -/

/-- Printable ASCII without quotes and backslashes. -/
def PlainText (text : String) : Prop := ∀ c ∈ text.toList, escapeDefault c = [c]

instance (text : String) : Decidable (PlainText text) :=
  List.decidableBAll (fun c => escapeDefault c = [c]) text.toList

theorem boundedChars_plain {room : Nat} {cs : List Char} (hplain : ∀ c ∈ cs, escapeDefault c = [c])
    (hroom : String.utf8Len cs ≤ room) : boundedChars room cs = cs := by
  induction cs generalizing room with
  | nil => rfl
  | cons c cs ih =>
    have hc := hplain c (by simp)
    simp only [String.utf8Len_cons] at hroom
    have hsize : String.utf8Len (escapeDefault c) = c.utf8Size := by simp [hc]
    rw [boundedChars, hsize, if_neg (by omega), hc, ih (fun c hc => hplain c (by simp [hc]))
      (by omega)]
    rfl

/-- Escaping leaves a plain text of bounded size alone. -/
theorem boundedRedactedText_plain {text : String} (hplain : PlainText text)
    (hbounded : text.utf8ByteSize ≤ maxDiagnosticBytes) : boundedRedactedText text = text := by
  have hroom : String.utf8Len text.toList ≤ maxDiagnosticBytes := by
    rwa [← String.utf8ByteSize_ofList, String.ofList_toList]
  rw [boundedRedactedText, boundedChars_plain hplain hroom, String.ofList_toList]

theorem ChainSubmissionDiagnostic.reload_plain {diagnostic : ChainSubmissionDiagnostic}
    (hplain : PlainText diagnostic.message) : diagnostic.reload = diagnostic := by
  obtain ⟨kind, message, hbounded⟩ := diagnostic
  simp [reload, fromRedactedMessage, boundedRedactedText_plain hplain hbounded]

/-! ## Records that load as they were written -/

/-- The diagnostic a state carries itself. -/
def SubmissionRecordState.ownDiagnostic : SubmissionRecordState → Option ChainSubmissionDiagnostic
  | .recovering _ diagnostic | .submittedWithoutHash diagnostic | .rejected diagnostic =>
    some diagnostic
  | _ => none

/-- The diagnostic an observation carries. -/
def SubmissionObservation.ownDiagnostic : SubmissionObservation → Option ChainSubmissionDiagnostic
  | .possiblyDispatched diagnostic | .definiteRejection diagnostic
  | .terminalRejection diagnostic | .submittedWithoutHash diagnostic
  | .trackingWindowExpired diagnostic | .candidateCommittedFailure diagnostic
  | .terminalCandidateFailure diagnostic | .abandonedSubmitting diagnostic => some diagnostic
  | _ => none

/-- A diagnostic that may be absent has a plain text. -/
def PlainDiagnostic (diagnostic : Option ChainSubmissionDiagnostic) : Prop :=
  ∀ d, diagnostic = some d → PlainText d.message

/-- What a record must be for its row to read back as the record. -/
structure StoredChainSubmission.Durable (record : StoredChainSubmission) : Prop where
  /-- The diagnostic in memory is the one that is persisted. -/
  diagnostic_eq : record.diagnostic = record.persistedDiagnostic
  plain : PlainDiagnostic record.persistedDiagnostic
  countable : record.row.Countable

namespace StoredChainSubmission

variable {record : StoredChainSubmission}

/-- A record without what its row does not hold. -/
def persisted (record : StoredChainSubmission) : StoredChainSubmission :=
  { record with diagnostic := record.persistedDiagnostic }

@[simp] theorem row_persisted (record : StoredChainSubmission) :
    record.persisted.row = record.row := by
  obtain ⟨identity, digest, state, reservations, tracking, diagnostic, created, updated⟩ := record
  cases state <;> rfl

@[simp] theorem persistedDiagnostic_persisted (record : StoredChainSubmission) :
    record.persisted.persistedDiagnostic = record.persistedDiagnostic := by
  obtain ⟨identity, digest, state, reservations, tracking, diagnostic, created, updated⟩ := record
  cases state <;> rfl

@[simp] theorem reload_persisted (record : StoredChainSubmission) :
    record.persisted.reload = record.reload := by
  rw [reload, reload, persistedDiagnostic_persisted]
  rfl

theorem Durable.reload_eq (h : record.Durable) :
    record.reload = record := by
  obtain ⟨hdiagnostic, hplain, -⟩ := h
  obtain ⟨identity, digest, state, reservations, tracking, diagnostic, created, updated⟩ := record
  cases state with
  | submitting | confirmed _ => simp_all [reload, persistedDiagnostic, SubmissionRecordState.reload]
  | tracking candidate =>
    cases diagnostic with
    | none => rfl
    | some d =>
      have hreload := ChainSubmissionDiagnostic.reload_plain (hplain d rfl)
      simp [reload, persistedDiagnostic, SubmissionRecordState.reload, hreload]
  | recovering _ d | submittedWithoutHash d | rejected d =>
    have hreload := ChainSubmissionDiagnostic.reload_plain (hplain d rfl)
    simp_all [reload, persistedDiagnostic, SubmissionRecordState.reload]

/-- A durable record loads as it was written. -/
theorem Durable.load (h : record.Durable) :
    record.row.columns.load record.identity = .ok record := by
  rw [load_columns h.countable, load_row, h.reload_eq]

/-- The persisted diagnostic is the state's own, except while tracking. -/
theorem persistedDiagnostic_eq :
    record.persistedDiagnostic = record.state.ownDiagnostic ∨
      ∃ candidate, record.state = .tracking candidate ∧
        record.persistedDiagnostic = record.diagnostic := by
  obtain ⟨identity, digest, state, reservations, tracking, diagnostic, created, updated⟩ := record
  cases state with
  | tracking candidate => exact .inr ⟨candidate, rfl, rfl⟩
  | _ => exact .inl rfl

theorem Durable.own_plain (h : record.Durable) :
    PlainDiagnostic record.state.ownDiagnostic := by
  intro d hown
  refine h.plain d ?_
  rcases record.persistedDiagnostic_eq with heq | ⟨candidate, hstate, -⟩
  · rw [heq, hown]
  · rw [hstate] at hown
    cases hown

/-- A row without positions is countable. -/
theorem countable_of_not_confirmed (h : ∀ confirmation, record.state ≠ .confirmed confirmation) :
    record.row.Countable := by
  intro positions hpositions
  obtain ⟨identity, digest, state, reservations, tracking, diagnostic, created, updated⟩ := record
  cases state with
  | confirmed confirmation => exact absurd rfl (h confirmation)
  | _ => cases hpositions

end StoredChainSubmission

/-- A transition's diagnostic was in the state before or in the observation. -/
theorem SubmissionTransition.ownDiagnostic {s s' : SubmissionRecordState}
    (h : SubmissionTransition s observation s')
    {d : ChainSubmissionDiagnostic} (hd : s'.ownDiagnostic = some d) :
    s.ownDiagnostic = some d ∨ observation.ownDiagnostic = some d := by
  cases h <;> simp_all [SubmissionRecordState.ownDiagnostic, SubmissionObservation.ownDiagnostic]

/-- Only a confirmation confirms. -/
theorem SubmissionTransition.confirmed_source {s : SubmissionRecordState}
    {confirmation : ValidatedChainSubmissionConfirmation}
    (h : SubmissionTransition s observation (.confirmed confirmation)) :
    observation = .confirmed confirmation := by
  cases h <;> rfl

/-- Settling an observation other than a confirmation, with plain texts, leaves a
durable record durable. -/
theorem StoredChainSubmission.Durable.settle {record : StoredChainSubmission}
    (hrecord : record.Durable)
    {state : SubmissionRecordState} {diagnostic : Option ChainSubmissionDiagnostic} {now : Nat}
    (htransition : SubmissionTransition record.state observation state)
    (hother : ∀ confirmation, observation ≠ .confirmed confirmation)
    (hobservation : PlainDiagnostic observation.ownDiagnostic)
    (hexplicit : PlainDiagnostic diagnostic) :
    (StoredChainSubmission.settleAfterTransition { record with state } record.durableState
      diagnostic now).Durable := by
  have hconfirmed : ∀ confirmation, state ≠ .confirmed confirmation := by
    rintro confirmation rfl
    exact hother confirmation htransition.confirmed_source
  have hown : PlainDiagnostic state.ownDiagnostic := by
    intro d hd
    exact (htransition.ownDiagnostic hd).elim (hrecord.own_plain d) (hobservation d)
  cases state with
  | submitting => exact absurd rfl htransition.ne_submitting
  | confirmed confirmation => exact absurd rfl (hconfirmed confirmation)
  | recovering _ d | submittedWithoutHash d | rejected d =>
    exact ⟨rfl, hown, countable_of_not_confirmed hconfirmed⟩
  | tracking candidate =>
    refine ⟨rfl, ?_, countable_of_not_confirmed hconfirmed⟩
    intro d hd
    change diagnostic.or (if record.durableState ≠ .tracking then none else record.diagnostic) =
      some d at hd
    cases hdiagnostic : diagnostic with
    | some explicit =>
      rw [hdiagnostic] at hd
      cases hd
      exact hexplicit _ hdiagnostic
    | none =>
      -- The row was tracking before and keeps the diagnostic it had.
      rw [hdiagnostic, Option.none_or] at hd
      split at hd
      · cases hd
      · exact hrecord.plain d (hrecord.diagnostic_eq ▸ hd)

/-! ## Calls whose texts are plain -/

/-- The texts a call carries are plain, and a confirmation comes with the calls
made for it. -/
def StoreOp.PlainCall : StoreOp → Prop
  | .classifyPost _ observation _ => PlainDiagnostic observation.ownDiagnostic ∧
      ∀ confirmation, observation ≠ .confirmed confirmation
  | .reconcile _ observation diagnostic _ => PlainDiagnostic observation.ownDiagnostic ∧
      PlainDiagnostic diagnostic ∧ ∀ confirmation, observation ≠ .confirmed confirmation
  | _ => True

/-- The records a call answers with. -/
def StoreAnswer.records : StoreAnswer → List StoredChainSubmission
  | .admission .noAuthoritativeState | .removed => []
  | .admission (.authoritative answered) | .admission (.abandonedReservation answered)
  | .admission (.ready _ answered _) | .record answered | .commit (.interrupted answered)
  | .commit (.confirmed answered) => [answered]

/-- The rows of a run whose calls carry plain texts. -/
structure DurableRows (db : Db) : Prop where
  records : Canonical db
  bound : BoundRows db
  schema : MeetsSchema db
  plain : ∀ identity row, db.submissions.lookup identity = some row →
    ∀ text, row.diagnostic = some text → PlainText text

/-- The diagnostic texts of the rows are plain. -/
def PlainRows (db : Db) : Prop :=
  ∀ identity row, db.submissions.lookup identity = some row →
    ∀ text, row.diagnostic = some text → PlainText text

theorem PlainDiagnostic.none : PlainDiagnostic none := fun _ h => nomatch h

theorem PlainDiagnostic.abandoned : PlainDiagnostic (some abandonedDiagnostic) := by
  intro d h
  cases h
  decide

section Rows

variable {db db' : Db} {identity : ChainSubmissionIdentity}

/-- A stored row is that of a durable record: the one it loads as. -/
theorem DurableRows.loaded (h : DurableRows db) {old : ChainSubmissionRow}
    {record : StoredChainSubmission} (hold : db.submissions.lookup identity = some old)
    (hload : old.load identity = .ok record) :
    record.Durable ∧ record.identity = identity ∧ record.row = old := by
  obtain ⟨stored, rfl, rfl⟩ := h.records identity old hold
  cases (load_row stored).symm.trans hload
  have hplain : PlainDiagnostic stored.persistedDiagnostic := by
    intro d hd
    refine h.plain stored.identity _ hold d.message ?_
    change stored.persistedDiagnostic.map (·.message) = _
    rw [hd]
    rfl
  have hdurable : stored.persisted.Durable :=
    ⟨stored.persistedDiagnostic_persisted.symm, by simpa using hplain,
      by simpa using ChainSubmissionRow.countable_of_binds (h.bound stored.identity _ hold)⟩
  have hreload : stored.reload = stored.persisted := by
    rw [← stored.reload_persisted, hdurable.reload_eq]
  rw [hreload]
  exact ⟨hdurable, rfl, stored.row_persisted⟩

/-- Setting one row to a plain one keeps the texts plain. -/
theorem DurableRows.plain_set (h : DurableRows db) {row : Option ChainSubmissionRow}
    (hset : SetsRow db identity row db')
    (hrow : ∀ new, row = some new → ∀ text, new.diagnostic = some text → PlainText text) :
    PlainRows db' := by
  intro key new hnew
  rw [hset key] at hnew
  split at hnew
  · exact hrow new hnew
  · exact h.plain key new hnew

/-- The text in the row of a record with a plain diagnostic. -/
theorem PlainDiagnostic.row {record : StoredChainSubmission}
    (h : PlainDiagnostic record.persistedDiagnostic) {text : String}
    (htext : record.row.diagnostic = some text) : PlainText text := by
  obtain ⟨d, hd, rfl⟩ := Option.map_eq_some_iff.mp htext
  exact h d hd

variable {record record' : StoredChainSubmission}

/-- A rewritten record is durable when its diagnostic is the persisted one and
plain: SQLite accepted its positions. -/
theorem Rewrites.durable (h : Rewrites db identity record record' db')
    (hdiagnostic : record'.diagnostic = record'.persistedDiagnostic)
    (hplain : PlainDiagnostic record'.persistedDiagnostic) : record'.Durable := by
  refine ⟨hdiagnostic, hplain, ?_⟩
  rcases h.written with ⟨hretire, -⟩ | ⟨-, hwrite, -⟩
  · refine StoredChainSubmission.countable_of_not_confirmed fun confirmation hstate => ?_
    simp [StoredChainSubmission.retiresCombinedGeneration, StoredChainSubmission.durableState,
      hstate, SubmissionRecordState.durableState] at hretire
  · exact ChainSubmissionRow.countable_of_binds hwrite.1

theorem Rewrites.plain (hrows : DurableRows db) (h : Rewrites db identity record record' db')
    (hplain : PlainDiagnostic record'.persistedDiagnostic) : PlainRows db' := by
  rcases h.written with ⟨-, hset⟩ | ⟨-, -, hset⟩
  · exact hrows.plain_set hset fun _ hnone => nomatch hnone
  · refine hrows.plain_set hset fun new hnew text htext => ?_
    cases hnew
    exact hplain.row htext

theorem Rewrites.source_durable (hrows : DurableRows db)
    (h : Rewrites db identity record record' db') : record.Durable := by
  obtain ⟨old, hold, hload⟩ := h.loaded
  exact (hrows.loaded hold hload).1

end Rows

/-- A hash that is taken is reported with a plain text. -/
theorem resolveOwnership_plain (generation : ChainSubmissionGeneration) (db : Db)
    (hplain : PlainDiagnostic observation.ownDiagnostic)
    (hother : ∀ confirmation, observation ≠ .confirmed confirmation) :
    PlainDiagnostic (resolveOwnership generation observation db).ownDiagnostic ∧
      ∀ confirmation, resolveOwnership generation observation db ≠ .confirmed confirmation := by
  unfold resolveOwnership
  split
  · split
    · refine ⟨fun d hd => ?_, nofun⟩
      cases hd
      decide
    · exact ⟨.none, nofun⟩
  · exact ⟨hplain, hother⟩

section Calls

variable {P : Primitives} {db db' : Db} (hrows : DurableRows db)

include hrows

variable {request : StoreAdvancementRequest} {now : Nat} {generation : ChainSubmissionGeneration}
  {reserved : StoredChainSubmission} {commit : ConfirmationCommit}

theorem admitSubmission_durable {ordinal : Nat}
    {admission : StoreAdmission} (h : Admits P db request ordinal now admission db') :
    (∀ record ∈ (StoreAnswer.admission admission).records, record.Durable) ∧ PlainRows db' := by
  cases h with
  | absent hnone => exact ⟨by simp [StoreAnswer.records], hrows.plain⟩
  | authoritative old record hold hload =>
    exact ⟨by simpa [StoreAnswer.records] using (hrows.loaded hold hload).1, hrows.plain⟩
  | existing old record derived hold hload =>
    exact ⟨by simpa [StoreAnswer.records] using (hrows.loaded hold hload).1, hrows.plain⟩
  | normalized record normalized db' workAllowed hstate hnormalized hrewrites =>
    have hplain : PlainDiagnostic normalized.persistedDiagnostic := by
      rw [hnormalized]
      exact .abandoned
    have hdurable := hrewrites.durable (by rw [hnormalized]; rfl) hplain
    refine ⟨?_, hrewrites.plain hrows hplain⟩
    cases workAllowed <;> simpa [StoreAnswer.records] using hdurable
  | reserved derived db' hnone hguards hderive hwrite hset =>
    have hdurable : (StoredChainSubmission.fresh derived.generation ordinal now).Durable :=
      ⟨rfl, .none, StoredChainSubmission.countable_of_not_confirmed fun _ => nofun⟩
    refine ⟨by simpa [StoreAnswer.records] using hdurable, hrows.plain_set hset ?_⟩
    rintro new hnew text htext
    cases hnew
    cases htext
  | adopted derived candidate db' _ htarget hnone hguards hderive hfree hwrite hset =>
    have hdurable :
        (StoredChainSubmission.adoptedImportedDelegation derived.generation candidate now).Durable :=
      ⟨rfl, .none, StoredChainSubmission.countable_of_not_confirmed fun _ => nofun⟩
    refine ⟨by simpa [StoreAnswer.records] using hdurable, hrows.plain_set hset ?_⟩
    rintro new hnew text htext
    cases hnew
    cases htext

theorem applyObservation_durable {observation : SubmissionObservation}
    {diagnostic : Option ChainSubmissionDiagnostic} {settled : StoredChainSubmission}
    (hobservation : PlainDiagnostic observation.ownDiagnostic)
    (hexplicit : PlainDiagnostic diagnostic)
    (hother : ∀ confirmation, observation ≠ .confirmed confirmation)
    (h : (applyObservation P generation observation diagnostic now) db = .ok (settled, db')) :
    settled.Durable ∧ PlainRows db' := by
  obtain ⟨record, -, htransition, hsettled, hrewrites⟩ := applyObservation_spec h
  obtain ⟨hresolved, hresolvedOther⟩ := resolveOwnership_plain generation db hobservation hother
  have hdurable : settled.Durable := by
    rw [hsettled]
    exact (hrewrites.source_durable hrows).settle htransition hresolvedOther hresolved hexplicit
  exact ⟨hdurable, hrewrites.plain hrows hdurable.plain⟩

/-- A reservation of another POST changes neither the state's diagnostic nor the
record's. -/
theorem Rewrites.reserved_durable {identity : ChainSubmissionIdentity}
    {record : StoredChainSubmission} (h : Rewrites db identity record reserved db')
    (hdiagnostic : reserved.diagnostic = record.diagnostic)
    (hpersisted : reserved.persistedDiagnostic = record.persistedDiagnostic) :
    reserved.Durable ∧ PlainRows db' := by
  have hsource := h.source_durable hrows
  have hplain : PlainDiagnostic reserved.persistedDiagnostic := hpersisted ▸ hsource.plain
  exact ⟨h.durable (by rw [hdiagnostic, hpersisted, hsource.diagnostic_eq]) hplain,
    h.plain hrows hplain⟩

theorem reserveAmbiguousRetry_durable
    (h : (reserveAmbiguousRetry generation now) db = .ok (reserved, db')) :
    reserved.Durable ∧ PlainRows db' := by
  obtain ⟨record, -, -, rfl, hrewrites⟩ := reserveAmbiguousRetry_spec h
  exact hrewrites.reserved_durable hrows rfl rfl

theorem reserveRecoveryRetry_durable {authorization : RecoveryRetryAuthorization}
    (h : (reserveRecoveryRetry P request authorization now) db = .ok (reserved, db')) :
    reserved.Durable ∧ PlainRows db' := by
  obtain ⟨record, diagnostic, -, hstate, rfl, hrewrites⟩ := reserveRecoveryRetry_spec h
  refine hrewrites.reserved_durable hrows rfl ?_
  rw [StoredChainSubmission.persistedDiagnostic, StoredChainSubmission.persistedDiagnostic, hstate]

/-- What a confirmation answers: the record it found, or the same record confirmed
and without a diagnostic. -/
theorem Confirming.durable {record : StoredChainSubmission} {derived : DerivedChainSubmission}
    (h : Confirming P db request generation record derived)
    (hends : ConfirmingEnds P db record derived now commit db') :
    (∀ answered ∈ (StoreAnswer.commit commit).records, answered.Durable) ∧ PlainRows db' := by
  obtain ⟨old, hold, hload⟩ := h.loaded
  rcases hends with ⟨rfl, rfl⟩ | ⟨confirmation, hcommit⟩
  · exact ⟨by simpa [StoreAnswer.records] using (hrows.loaded hold hload).1, hrows.plain⟩
  · obtain ⟨confirmed, rfl, hstate, hdiagnostic, hrewrites⟩ :=
      commitConfirmation_spec hold hload hcommit
    have hnone : confirmed.persistedDiagnostic = none := by
      rw [StoredChainSubmission.persistedDiagnostic, hstate, hdiagnostic]
    have hdurable := hrewrites.durable (hdiagnostic.trans hnone.symm) (hnone ▸ .none)
    exact ⟨by simpa [StoreAnswer.records] using hdurable, hrewrites.plain hrows hdurable.plain⟩

/-- What one plain call answers and leaves. -/
theorem StoreOp.run_durable {op : StoreOp} (hplain : op.PlainCall) {answer : StoreAnswer}
    (h : op.run P db = (.ok answer, db')) :
    (∀ record ∈ answer.records, record.Durable) ∧ DurableRows db' := by
  obtain ⟨row, hstep, hset⟩ := StoreOp.run_rowStep h
  suffices hcall : (∀ record ∈ answer.records, record.Durable) ∧ PlainRows db' from
    ⟨hcall.1, canonical_invariant.step db db' op.identity row hrows.records hstep hset,
      boundRows_invariant.step db db' op.identity row hrows.bound hstep hset,
      meetsSchema_invariant.step db db' op.identity row hrows.schema hstep hset, hcall.2⟩
  have h := transact_eq_ok.mp h
  cases op with
  | admitSubmission request workAllowed ordinal now =>
    obtain ⟨_, hop, rfl⟩ := map_eq_ok.mp h
    exact admitSubmission_durable hrows (admitSubmission_spec hop)
  | removeFreshReservation generation now =>
    obtain ⟨_, hop, rfl⟩ := map_eq_ok.mp h
    obtain ⟨old, hold, hstate, -, hset⟩ := removeFreshReservation_spec hop
    exact ⟨by simp [StoreAnswer.records], hrows.plain_set hset fun _ hnone => nomatch hnone⟩
  | classifyPost generation observation now =>
    obtain ⟨record, hop, rfl⟩ := map_eq_ok.mp h
    simpa [StoreAnswer.records] using
      applyObservation_durable hrows hplain.1 .none hplain.2 hop
  | reconcile generation observation diagnostic now =>
    obtain ⟨record, hop, rfl⟩ := map_eq_ok.mp h
    simpa [StoreAnswer.records] using
      applyObservation_durable hrows hplain.1 hplain.2.1 hplain.2.2 hop
  | reserveAmbiguousRetry generation now =>
    obtain ⟨record, hop, rfl⟩ := map_eq_ok.mp h
    simpa [StoreAnswer.records] using reserveAmbiguousRetry_durable hrows hop
  | reserveRecoveryRetry request authorization now =>
    obtain ⟨record, hop, rfl⟩ := map_eq_ok.mp h
    simpa [StoreAnswer.records] using reserveRecoveryRetry_durable hrows hop
  | confirmCommitted request generation candidate events allowed now =>
    obtain ⟨commit, hop, rfl⟩ := map_eq_ok.mp h
    obtain ⟨_, _, hconfirming, hends⟩ := confirmCommitted_eq_ok hop
    exact hconfirming.durable hrows hends
  | confirmTree request generation van vcs allowed now =>
    obtain ⟨commit, hop, rfl⟩ := map_eq_ok.mp h
    obtain ⟨_, _, hconfirming, -, hends⟩ := confirmTree_eq_ok hop
    exact hconfirming.durable hrows hends

end Calls

/-! ## Load and persist -/

/-- `load_submission` on the stored columns. -/
def loadStored (identity : ChainSubmissionIdentity) (db : Db) :
    Except ChainSubmissionFailure (Option StoredChainSubmission) :=
  match db.chainSubmissions.lookup identity with
  | some row => (row.columns.load identity).map some
  | none => .ok none

/-- One load/persist cycle without an observation. -/
def reopen (identity : ChainSubmissionIdentity) : Txn Db ChainSubmissionFailure Unit := do
  match ← read (loadStored identity) with
  | some record => persistMutable record
  | none => return ()

/-- The database after such cycles, one for each identity. -/
def reopened (db : Db) (identities : List ChainSubmissionIdentity) : Db :=
  identities.foldl (fun db identity => (transact (reopen identity) db).2) db

/-- Facts about rows carry over to a table with the same rows. -/
theorem DurableRows.of_rows {db' : Db} (h : DurableRows db)
    (hsame : ∀ key, db'.submissions.lookup key = db.submissions.lookup key) : DurableRows db' where
  records identity row hrow := h.records identity row (hsame identity ▸ hrow)
  bound identity row hrow := h.bound identity row (hsame identity ▸ hrow)
  plain identity row hrow := h.plain identity row (hsame identity ▸ hrow)
  schema := by
    obtain ⟨hchecks, hcandidate, hconfirmed⟩ := meetsSchema_iff.mp h.schema
    refine meetsSchema_iff.mpr ⟨fun identity row hrow => hchecks identity row (hsame identity ▸ hrow),
      fun a b rowA rowB hash ha hb => ?_, fun a b rowA rowB hash ha hb => ?_⟩
    · exact hcandidate a b rowA rowB hash (hsame a ▸ ha) (hsame b ▸ hb)
    · exact hconfirmed a b rowA rowB hash (hsame a ▸ ha) (hsame b ▸ hb)

/-- A cycle succeeds and leaves every row as it was. -/
theorem DurableRows.reopen (h : DurableRows db) (identity : ChainSubmissionIdentity) :
    ∃ db', transact (reopen identity) db = (.ok (), db') ∧
      ∀ key, db'.submissions.lookup key = db.submissions.lookup key := by
  cases hold : db.submissions.lookup identity with
  | none =>
    refine ⟨db, transact_eq_ok.mpr (read_bind_eq_ok.mpr ⟨none, ?_, rfl⟩), fun _ => rfl⟩
    rw [loadStored, show db.chainSubmissions.lookup identity = none from hold]
  | some old =>
    obtain ⟨stored, rfl, rfl⟩ := h.records identity old hold
    have hload := load_row stored
    have hcolumns := load_columns
      (ChainSubmissionRow.countable_of_binds (h.bound stored.identity _ hold))
    obtain ⟨-, hidentity, hrow⟩ := h.loaded hold hload
    have hpersist : (persistMutable stored.reload) db =
        .ok ((), db.setSubmission stored.identity stored.reload.row) := by
      have hloaded : LoadedFrom stored.reload.identity stored.row stored.reload :=
        ChainSubmissionRow.loadedFrom hload
      refine persistMutable_ok hold hloaded rfl rfl ?_ ?_
      · rw [hrow]
        simp [ChainSubmissionRow.triggers]
      · rw [hrow]
        exact ⟨h.bound _ _ hold, h.schema _ _ hold⟩
    refine ⟨_, transact_eq_ok.mpr (read_bind_eq_ok.mpr ⟨some stored.reload, ?_, hpersist⟩), ?_⟩
    · rw [loadStored, show db.chainSubmissions.lookup stored.identity = some stored.row from hold]
      simp [hcolumns, hload, Except.map]
    · intro key
      rw [SetsRow.setSubmission db _ _ key, hrow]
      split
      · next hkey => rw [hkey, hold]
      · rfl

/-- Any number of cycles leaves every row as it was. -/
theorem DurableRows.lookup_reopened (h : DurableRows db)
    (identities : List ChainSubmissionIdentity) (key : ChainSubmissionIdentity) :
    (reopened db identities).submissions.lookup key = db.submissions.lookup key := by
  induction identities generalizing db with
  | nil => rfl
  | cons identity identities ih =>
    obtain ⟨db', hreopen, hsame⟩ := h.reopen identity
    have hfold : reopened db (identity :: identities) = reopened db' identities := by
      simp [reopened, hreopen]
    rw [hfold, ih (h.of_rows hsame), hsame]

/-! ## Runs -/

/-- One step of a run of the store whose calls all meet a condition. -/
inductive StoreStepWhere (P : Primitives) (allowed : StoreOp → Prop) (db : Db) : Db → Prop where
  | call (op : StoreOp) (hallowed : allowed op) : StoreStepWhere P allowed db (op.run P db).2
  | other (db' : Db) (h : Same Db.submissions db db') : StoreStepWhere P allowed db db'

/-- The databases such a run can reach. -/
def StoreReachableWhere (P : Primitives) (allowed : StoreOp → Prop) (db : Db) : Prop :=
  ∃ start : Db, start.submissions = ∅ ∧ Relation.ReflTransGen (StoreStepWhere P allowed) start db

/-- Runs of plain calls keep their rows durable. -/
theorem StoreReachableWhere.durableRows {P : Primitives}
    (h : StoreReachableWhere P StoreOp.PlainCall db) : DurableRows db := by
  obtain ⟨start, hstart, hrun⟩ := h
  induction hrun with
  | refl =>
    refine ⟨canonical_invariant.empty start hstart, boundRows_invariant.empty start hstart,
      meetsSchema_invariant.empty start hstart, fun identity row hrow => ?_⟩
    rw [hstart] at hrow
    cases hrow
  | @tail db db' _ hstep ih =>
    cases hstep with
    | call op hplain =>
      cases hresult : op.run P db with
      | mk result db' =>
        cases result with
        | ok answer => exact (op.run_durable ih hplain hresult).2
        | error failure => rw [StoreOp.run_error hresult]; exact ih
    | other _ hsame =>
      have htable : db'.submissions = db.submissions := hsame
      exact ih.of_rows fun key => by rw [htable]

/-! ## A text that is escaped again -/

/-- A diagnostic whose text has quotes in it. -/
def quotedDiagnostic : ChainSubmissionDiagnostic :=
  .fromRedactedMessage .trackingWindowExpired "window \"A\" is over"

/-- The tracked transaction of the sample runs out of its window. -/
def sampleExpire : StoreOp :=
  .reconcile sampleGeneration (.trackingWindowExpired quotedDiagnostic) none 12

/-- The record this leaves. -/
def sampleExpired : StoredChainSubmission where
  identity := sampleIdentity 0
  generationDigest := Bytes32.fill 1
  state := .recovering (some sampleHash) quotedDiagnostic
  committedPostReservations := 0
  trackingStartedAt := some 10
  diagnostic := some quotedDiagnostic
  createdAt := 10
  updatedAt := 12

/-- A record whose text has quotes does not load as it was written, and a cycle
without an observation rewrites its row. -/
theorem quoted_diagnostic_escaped_again :
    StoreReachable samplePrimitives sampleTracking ∧
    (sampleExpire.run samplePrimitives sampleTracking).1.toOption = some (.record sampleExpired) ∧
    (sampleExpired.row.columns.load sampleExpired.identity).toOption ≠ some sampleExpired ∧
    (reopened (sampleExpire.run samplePrimitives sampleTracking).2
        [sampleIdentity 0]).chainSubmissions.lookup (sampleIdentity 0) ≠
      (sampleExpire.run samplePrimitives sampleTracking).2.chainSubmissions.lookup
        (sampleIdentity 0) :=
  ⟨sampleTracking_reachable, by decide +kernel, by decide +kernel, by decide +kernel⟩

/-- In every run of the store whose calls carry plain diagnostic texts, every record
a call answers with loads from the columns written for it as the same record, every
stored row loads as a record that writes the same row, and any number of
load/persist cycles succeeds and leaves every row as it was. -/
theorem durable_round_trip (P : Primitives) (db : Db)
    (hreach : StoreReachableWhere P StoreOp.PlainCall db) :
    (∀ (op : StoreOp) answer db', op.PlainCall → op.run P db = (.ok answer, db') →
      ∀ record ∈ answer.records,
        record.row.columns.load record.identity = .ok record) ∧
    (∀ identity row, db.chainSubmissions.lookup identity = some row →
      ∃ record, row.columns.load identity = .ok record ∧ record.row = row) ∧
    (∀ identities : List ChainSubmissionIdentity,
      (∀ identity, (transact (reopen identity) (reopened db identities)).1 = .ok ()) ∧
      ∀ key, (reopened db identities).chainSubmissions.lookup key =
        db.chainSubmissions.lookup key) := by
  have hrows := hreach.durableRows
  refine ⟨?_, ?_, ?_⟩
  · intro op answer db' hplain h record hrecord
    exact ((op.run_durable hrows hplain h).1 record hrecord).load
  · intro identity row hrow
    obtain ⟨stored, rfl, rfl⟩ := hrows.records identity row hrow
    obtain ⟨hdurable, hidentity, hsame⟩ := hrows.loaded hrow (load_row stored)
    refine ⟨stored.reload, ?_, hsame⟩
    rw [← hsame, ← hidentity]
    exact hdurable.load
  · intro identities
    have hsame := hrows.lookup_reopened identities
    refine ⟨fun identity => ?_, hsame⟩
    obtain ⟨db', hreopen, -⟩ := (hrows.of_rows hsame).reopen identity
    rw [hreopen]

/-- The adoption of the sample's transaction is a plain call, and its record loads
as it was written. -/
theorem durable_round_trip_tracking :
    (StoreOp.admitSubmission (sampleRequest 0) true 1 10).PlainCall ∧
    ∀ identities key, (reopened sampleTracking identities).chainSubmissions.lookup key =
      sampleTracking.chainSubmissions.lookup key :=
  ⟨trivial, fun identities key =>
    ((durable_round_trip samplePrimitives sampleTracking
      ⟨sampleDb, rfl, .single (.call _ trivial)⟩).2.2 identities).2 key⟩

end ZcashVoting
