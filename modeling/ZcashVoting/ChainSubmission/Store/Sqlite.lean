import ZcashVoting.ChainSubmission.Confirmation

/-!
# ZcashVoting.ChainSubmission.Store.Sqlite

SQLite authority for the chain-submission lifecycle.  Every operation is one
`IMMEDIATE` transaction over the database.

`insertRow` and `updateRow` stand for the two statements the code runs on
`chain_submissions`; they refuse what the table's `CHECK` constraints, unique
indexes and triggers refuse.  The foreign key to `rounds` cannot fail here: a
row is inserted after deriving its generation, which reads the round.  Every
operation that writes the table ends in a parameter `enforced`, true unless
given: without it the operation runs on a table that has the same columns and no
constraint, index or trigger.
-/

namespace ZcashVoting

open Transaction

/-- `storage_error`. -/
def storageError (message : String) : ChainSubmissionFailure := .withoutState .storage message

/-- The displayed text of `rusqlite::Error::InvalidQuery`. -/
def invalidQuery : ChainSubmissionFailure := storageError "Query is not read-only"

/-- `possible_dispatch_error`. -/
def possibleDispatchError (error : ChainSubmissionFailure) : ChainSubmissionFailure :=
  .withKnownPossibleDispatch error.kind error.message

/-- `derive`. -/
def derive (P : Primitives) (request : SubmissionDerivationRequest) (db : Db) :
    Except ChainSubmissionFailure DerivedChainSubmission :=
  (match request with
    | .delegation identity signature => deriveDelegation P db identity signature
    | .importedDelegation identity => deriveImportedDelegation P db identity
    | .vote identity => deriveVote P db identity
    | .voteBatch identity => deriveVoteBatch P db identity).mapError mapGenerationError

/-! ## Rows -/

/-- The columns of the unique index `chain_submissions_identity`. -/
structure SubmissionIndexColumns where
  walletId : String
  network : String
  roundId : VoteRoundId
  kind : String
  bundleIndex : Nat
  proposalId : Option Nat
  orderedBatchDigest : Option Bytes
  deriving DecidableEq

namespace ChainSubmissionIdentity

/-- The `kind`, `proposal_id` and `ordered_batch_digest` columns. -/
def targetColumns (identity : ChainSubmissionIdentity) : String × Option Nat × Option Bytes :=
  match identity.target with
  | .delegation => ("delegation", none, none)
  | .vote proposalId => ("vote", some proposalId, none)
  | .voteBatch digest => ("vote_batch", none, some digest.val)
  | .delegateAndVoteBatch digest => ("delegate_and_cast_vote_batch", none, some digest.val)

/-- The `CHECK` constraints on the immutable columns. -/
def columnChecks (identity : ChainSubmissionIdentity) : Bool :=
  decide (networkName identity.network ∈ ["mainnet", "testnet", "regtest"]) &&
  decide (identity.bundleIndex ≤ u32Max) &&
  decide (32 ≤ (submissionIdentityKey identity).length) &&
  match identity.targetColumns with
  | (kind, proposalId, digest) =>
    (kind == "delegation" && proposalId.isNone && digest.isNone) ||
    (kind == "vote" && proposalId.any (fun id => decide (1 ≤ id ∧ id ≤ 50)) && digest.isNone) ||
    (decide (kind ∈ ["vote_batch", "delegate_and_cast_vote_batch"]) && proposalId.isNone &&
      digest.any (·.length == 32))

/-- The row's entry in the unique index. -/
def indexColumns (identity : ChainSubmissionIdentity) : SubmissionIndexColumns :=
  match identity.targetColumns with
  | (kind, proposalId, digest) =>
    ⟨identity.walletId, networkName identity.network, identity.voteRoundId, kind,
      identity.bundleIndex, proposalId, digest⟩

end ChainSubmissionIdentity

/-- A value that must be present. -/
def column {α : Type} : Option α → Except ChainSubmissionFailure α
  | some value => .ok value
  | none => .error invalidQuery

namespace ChainSubmissionRow

/-- The two diagnostic columns as a diagnostic.  The stored text is escaped
again on every load. -/
def loadDiagnostic (row : ChainSubmissionRow) :
    Except ChainSubmissionFailure (Option ChainSubmissionDiagnostic) :=
  match row.diagnosticKind, row.diagnostic with
  | some kind, some message => .ok (some (.fromRedactedMessage kind message))
  | none, none => .ok none
  | _, _ => .error invalidQuery

/-- The confirmation columns, as the `confirmed` state reads them. -/
def loadConfirmation (row : ChainSubmissionRow) :
    Except ChainSubmissionFailure ValidatedChainSubmissionConfirmation := do
  let source ← column row.confirmationSource
  let finalVan ← column row.finalVanPosition
  let positions ← column row.voteCommitmentPositions
  let value ← match source with
    | .hash => do
      let hash ← column row.confirmedTransactionHash
      pure (ValidatedChainSubmissionConfirmation.fromHash hash finalVan positions)
    | .tree => pure (ValidatedChainSubmissionConfirmation.fromTree finalVan positions)
  match value with
  | .ok confirmation => return confirmation
  | .error _ => throw invalidQuery

/-- The state columns as a typed state. -/
def loadState (row : ChainSubmissionRow) (diagnostic : Option ChainSubmissionDiagnostic) :
    Except ChainSubmissionFailure SubmissionRecordState :=
  match row.state with
  | .submitting => .ok .submitting
  | .tracking => (column row.candidateTransactionHash).map .tracking
  | .recovering => (column diagnostic).map (.recovering row.candidateTransactionHash)
  | .submittedWithoutHash => (column diagnostic).map .submittedWithoutHash
  | .confirmed => row.loadConfirmation.map .confirmed
  | .rejected => (column diagnostic).map .rejected

/-- `load_one`: the columns of a row as a record. -/
def load (identity : ChainSubmissionIdentity) (row : ChainSubmissionRow) :
    Except ChainSubmissionFailure StoredChainSubmission := do
  let diagnostic ← row.loadDiagnostic
  -- A confirmation source without its positions is malformed in every state.
  check (row.confirmationSource.isNone ||
    (row.finalVanPosition.isSome && row.voteCommitmentPositions.isSome)) invalidQuery
  let state ← row.loadState diagnostic
  return {
    identity, state, diagnostic
    generationDigest := row.generationDigest
    committedPostReservations := row.committedPostReservations
    trackingStartedAt := row.trackingStartedAt
    createdAt := row.createdAt
    updatedAt := row.updatedAt }

/-- The `CHECK` constraints of the table on the columns of one row. -/
def checks (row : ChainSubmissionRow) : Bool :=
  decide (row.createdAt ≤ row.updatedAt) &&
  (match row.state with
    | .submitting => row.candidateTransactionHash.isNone && row.trackingStartedAt.isNone
    | .tracking => row.candidateTransactionHash.isSome && row.trackingStartedAt.isSome
    | .submittedWithoutHash =>
      row.candidateTransactionHash.isNone && row.confirmedTransactionHash.isNone &&
      row.finalVanPosition.isNone && row.voteCommitmentPositions.isNone &&
      row.diagnosticKind.isSome
    | _ => true) &&
  (row.diagnosticKind.isSome == row.diagnostic.isSome) &&
  (row.diagnostic.all fun text => decide (text.utf8ByteSize ≤ maxDiagnosticBytes)) &&
  ((row.state == .confirmed) == row.confirmationSource.isSome) &&
  (row.state != .confirmed ||
    (row.finalVanPosition.isSome && row.voteCommitmentPositions.isSome)) &&
  (match row.confirmationSource with
    | some .hash => row.confirmedTransactionHash.isSome &&
        row.candidateTransactionHash == row.confirmedTransactionHash
    | some .tree => row.confirmedTransactionHash.isNone
    | none => true)

/-- Every bound integer fits SQLite's signed 64 bits, and the blob of positions
its largest blob. -/
def binds (row : ChainSubmissionRow) : Bool :=
  decide (row.committedPostReservations ≤ i64Max) && decide (row.createdAt ≤ i64Max) &&
  decide (row.updatedAt ≤ i64Max) && (row.trackingStartedAt.all (decide <| · ≤ i64Max)) &&
  (row.finalVanPosition.all (decide <| · ≤ i64Max)) &&
  (row.voteCommitmentPositions.all fun positions =>
    decide (5 + 8 * positions.length ≤ sqliteMaxLength))

/-- A unique index on a hash column: no other row holds this row's hash. -/
def uniqueIn (hashColumn : ChainSubmissionRow → Option CandidateTransactionHash)
    (row : ChainSubmissionRow) (identity : ChainSubmissionIdentity)
    (table : Table ChainSubmissionIdentity ChainSubmissionRow) : Bool :=
  (hashColumn row).isNone ||
    !table.any fun key other => key ≠ identity && hashColumn other == hashColumn row

/-- The constraints every written row meets. -/
def constraints (row : ChainSubmissionRow) (identity : ChainSubmissionIdentity)
    (table : Table ChainSubmissionIdentity ChainSubmissionRow) :
    Except ChainSubmissionFailure Unit :=
  if !row.checks then .error (storageError "CHECK constraint failed: chain_submissions")
  else if !row.uniqueIn (·.candidateTransactionHash) identity table then
    .error (storageError "UNIQUE constraint failed: chain_submissions.candidate_transaction_hash")
  else if !row.uniqueIn (·.confirmedTransactionHash) identity table then
    .error (storageError "UNIQUE constraint failed: chain_submissions.confirmed_transaction_hash")
  else .ok ()

/-- The two triggers on the mutable columns of an `UPDATE`. -/
def triggers (old new : ChainSubmissionRow) : Except ChainSubmissionFailure Unit :=
  if new.committedPostReservations < old.committedPostReservations then
    .error (storageError "chain submission reservation count cannot decrease")
  else if old.trackingStartedAt.isSome && new.trackingStartedAt != old.trackingStartedAt then
    .error (storageError "chain submission tracking start is immutable")
  else .ok ()

/-- What the schema asks of an inserted row. -/
def insertable (row : ChainSubmissionRow) (identity : ChainSubmissionIdentity)
    (table : Table ChainSubmissionIdentity ChainSubmissionRow) :
    Except ChainSubmissionFailure Unit := do
  check identity.columnChecks (storageError "CHECK constraint failed: chain_submissions")
  check (!table.any fun key _ => decide (key.indexColumns = identity.indexColumns))
    (storageError "UNIQUE constraint failed: index 'chain_submissions_identity'")
  check (table.lookup identity).isNone
    (storageError "UNIQUE constraint failed: chain_submissions.identity_key")
  row.constraints identity table

/-- What the schema asks of a row that replaces another. -/
def replaceable (old new : ChainSubmissionRow) (identity : ChainSubmissionIdentity)
    (table : Table ChainSubmissionIdentity ChainSubmissionRow) :
    Except ChainSubmissionFailure Unit := do
  old.triggers new
  new.constraints identity table

end ChainSubmissionRow

/-- A check of the schema, where the schema is in force. -/
def enforcing (enforced : Bool) (schema : Except ChainSubmissionFailure Unit) :
    Except ChainSubmissionFailure Unit :=
  if enforced then schema else .ok ()

/-- The columns `persist_mutable` writes, with the immutable ones of the record. -/
def StoredChainSubmission.row (record : StoredChainSubmission) : ChainSubmissionRow :=
  let diagnostic := match record.state with
    | .submitting | .confirmed _ => none
    | .tracking _ => record.diagnostic
    | .recovering _ diagnostic | .submittedWithoutHash diagnostic | .rejected diagnostic =>
      some diagnostic
  let confirmation := match record.state with
    | .confirmed value => some value.confirmation
    | _ => none
  { generationDigest := record.generationDigest
    state := record.durableState
    candidateTransactionHash := record.state.heldHash
    committedPostReservations := record.committedPostReservations
    trackingStartedAt := record.trackingStartedAt
    diagnosticKind := diagnostic.map (·.kind)
    diagnostic := diagnostic.map (·.message)
    confirmationSource := confirmation.map (·.source)
    confirmedTransactionHash := confirmation.bind (·.transactionHash)
    finalVanPosition := confirmation.map (·.finalVanPosition)
    voteCommitmentPositions := confirmation.map (·.voteCommitmentPositions)
    createdAt := record.createdAt
    updatedAt := record.updatedAt }

/-- Replace the submissions table's row of one identity. -/
def Db.setSubmission (db : Db) (identity : ChainSubmissionIdentity) (row : ChainSubmissionRow) :
    Db :=
  { db with chainSubmissions := db.chainSubmissions.insert identity row }

/-- Delete the submissions table's row of one identity. -/
def Db.dropSubmission (db : Db) (identity : ChainSubmissionIdentity) : Db :=
  { db with chainSubmissions := db.chainSubmissions.erase identity }

/-- `load_submission`. -/
def loadSubmission (identity : ChainSubmissionIdentity) (db : Db) :
    Except ChainSubmissionFailure (Option StoredChainSubmission) :=
  match db.chainSubmissions.lookup identity with
  | some row => (row.load identity).map some
  | none => .ok none

/-- The record of an identity that must have one. -/
def requireSubmission (identity : ChainSubmissionIdentity) (missing : String) (db : Db) :
    Except ChainSubmissionFailure StoredChainSubmission := do
  match ← loadSubmission identity db with
  | some record => return record
  | none => throw (.withoutState .invariantViolation missing)

/-- A bound integer that does not fit SQLite's 64 bits. -/
def bindError : ChainSubmissionFailure :=
  storageError "out of range integral type conversion attempted"

/-- `INSERT INTO chain_submissions`. -/
def insertRow (identity : ChainSubmissionIdentity) (row : ChainSubmissionRow)
    (enforced : Bool := true) : Txn Db ChainSubmissionFailure Unit :=
  write fun db => do
    check row.binds bindError
    enforcing enforced (row.insertable identity db.chainSubmissions)
    return db.setSubmission identity row

/-- `UPDATE chain_submissions … WHERE identity_key = …`; without such a row the
statement changes nothing. -/
def updateRow (identity : ChainSubmissionIdentity) (row : ChainSubmissionRow)
    (enforced : Bool := true) : Txn Db ChainSubmissionFailure Unit :=
  write fun db => do
    check row.binds bindError
    match db.chainSubmissions.lookup identity with
    | none => return db
    | some old =>
      -- The statement does not name the digest and the creation time.
      let new := { row with generationDigest := old.generationDigest, createdAt := old.createdAt }
      enforcing enforced (old.replaceable new identity db.chainSubmissions)
      return db.setSubmission identity new

/-- `persist_mutable`. -/
def persistMutable (record : StoredChainSubmission) (enforced : Bool := true) :
    Txn Db ChainSubmissionFailure Unit :=
  updateRow record.identity record.row enforced

/-- `DELETE FROM chain_submissions WHERE identity_key = …`. -/
def deleteRow (identity : ChainSubmissionIdentity) : Txn Db ChainSubmissionFailure Unit :=
  write fun db => .ok (db.dropSubmission identity)

/-! ## Operations -/

/-- `insert_fresh`. -/
def insertFresh (record : StoredChainSubmission) (enforced : Bool := true) :
    Txn Db ChainSubmissionFailure Unit :=
  insertRow record.identity
    { generationDigest := record.generationDigest, state := .submitting
      candidateTransactionHash := none
      committedPostReservations := record.committedPostReservations, trackingStartedAt := none
      diagnosticKind := none, diagnostic := none, confirmationSource := none
      confirmedTransactionHash := none, finalVanPosition := none, voteCommitmentPositions := none
      createdAt := record.createdAt, updatedAt := record.createdAt } enforced

/-- `insert_imported_delegation`. -/
def insertImportedDelegation (record : StoredChainSubmission)
    (candidate : CandidateTransactionHash) (enforced : Bool := true) :
    Txn Db ChainSubmissionFailure Unit :=
  insertRow record.identity
    { generationDigest := record.generationDigest, state := .tracking
      candidateTransactionHash := some candidate, committedPostReservations := 0
      trackingStartedAt := some record.createdAt
      diagnosticKind := none, diagnostic := none, confirmationSource := none
      confirmedTransactionHash := none, finalVanPosition := none, voteCommitmentPositions := none
      createdAt := record.createdAt, updatedAt := record.createdAt } enforced

/-- One row of the transition table applied to a record's state; the row must
remain. -/
def applyTransition (record : StoredChainSubmission) (observation : SubmissionObservation)
    (removed : String) : Except ChainSubmissionFailure StoredChainSubmission :=
  match applySubmissionObservation (some record.state) observation with
  | .ok (some state) => .ok { record with state }
  | .ok none => .error (transitionFailure record.durableState removed)
  | .error error => .error (transitionFailure record.durableState error.display)

/-- `normalize_abandoned`. -/
def normalizeAbandoned (record : StoredChainSubmission) (now : Nat) (enforced : Bool := true) :
    Txn Db ChainSubmissionFailure StoredChainSubmission :=
  mapError possibleDispatchError do
    let settled ← read fun _ => applyTransition record (.abandonedSubmitting abandonedDiagnostic)
      "abandoned reservation normalization removed the durable row"
    let normalized := { settled with
      diagnostic := match settled.state with
        | .recovering _ diagnostic => some diagnostic
        | _ => none
      updatedAt := max now record.updatedAt }
    persistMutable normalized enforced
    return normalized

/-- Some other row of the table owns the hash, as candidate or as confirmation. -/
def ownedElsewhere (except : Option ChainSubmissionIdentity)
    (candidate : CandidateTransactionHash) (db : Db) : Bool :=
  db.chainSubmissions.any fun key row => some key ≠ except &&
    (row.candidateTransactionHash == some candidate ||
      row.confirmedTransactionHash == some candidate)

/-- An admission that the bundle's state refuses. -/
def refuseAdmission (message : String) : ChainSubmissionFailure :=
  .withoutState .invalidInput message

/-- The bundle of a combined batch already has a delegation or a submission. -/
def combinedOccupied (identity : ChainSubmissionIdentity) (db : Db) :
    Except ChainSubmissionFailure Bool :=
  if identity.target.isCombined then
    match db.bundles.lookup identity.bundleKey with
    | none => .error (storageError "Query returned no rows")
    | some row => .ok (row.delegationTxHash.isSome || row.vanLeafPosition.isSome ||
        db.chainSubmissions.any fun key _ => key.bundleKey = identity.bundleKey)
  else .ok false

/-- Some submission of the bundle is still unresolved. -/
def hasUnresolvedPredecessor (identity : ChainSubmissionIdentity) (db : Db) : Bool :=
  db.chainSubmissions.any fun key row => key.SameBundle identity && row.state.isUnresolved

/-- A confirmed vote already consumed the bundle's delegation output. -/
def delegationSuperseded (identity : ChainSubmissionIdentity) (db : Db) : Bool :=
  db.chainSubmissions.any fun key row =>
    key.SameBundle identity && key.target.castsVotes && row.state == .confirmed

/-- What a first admission checks of the bundle, in order. -/
def admissionGuards (identity : ChainSubmissionIdentity) (db : Db) :
    Except ChainSubmissionFailure Unit := do
  let occupied ← combinedOccupied identity db
  check (!occupied) (refuseAdmission "combined admission requires a fresh delegation")
  check (identity.target ≠ .delegation ||
      !db.delegateCastRecovery.any fun key _ => key.1 = identity.bundleKey)
    (refuseAdmission "persisted combined recovery owns this delegation")
  check (!hasUnresolvedPredecessor identity db) (refuseAdmission
    "another submission for this bundle has not established an authoritative successor")
  check (identity.target ≠ .delegation || !delegationSuperseded identity db)
    (refuseAdmission "a confirmed vote already succeeds this bundle's delegation")

section

variable (P : Primitives)

/-- Derive the request's generation and check its roster. -/
def deriveVerified (request : StoreAdvancementRequest) (record : Option StoredChainSubmission)
    (db : Db) : Except ChainSubmissionFailure DerivedChainSubmission :=
  (do
    let derived ← derive P request.derivation db
    request.verifyBatchRoster derived.orderedProposalIds
    return derived).mapError (preserveLoadedState record)

/-- Admission of an identity that has a row which is not `submitting`. -/
def admitExisting (request : StoreAdvancementRequest) (record : StoredChainSubmission) :
    Txn Db ChainSubmissionFailure StoreAdmission := do
  let derived ← read (deriveVerified P request (some record))
  read fun _ => ensureGeneration record derived.generation
  match record.state with
  | .confirmed _ | .rejected _ | .submittedWithoutHash _ => return .authoritative record
  | _ => return .ready derived record false

/-- First admission of an imported delegation: adopt its transaction. -/
def admitImported (request : StoreAdvancementRequest) (now : Nat) (enforced : Bool := true) :
    Txn Db ChainSubmissionFailure StoreAdmission := do
  let derived ← read (derive P request.derivation)
  let candidate ← read fun _ => match derived.importedCandidate with
    | some candidate => .ok candidate
    | none => .error (.withoutState .invariantViolation
        "imported delegation derivation omitted its transaction hash")
  let owned ← read fun db => .ok (ownedElsewhere none candidate db)
  require (!owned) (refuseAdmission
    "imported delegation transaction hash belongs to another submission")
  let record := StoredChainSubmission.adoptedImportedDelegation derived.generation candidate now
  insertImportedDelegation record candidate enforced
  return .ready derived record false

/-- First admission of any other request: reserve its first POST. -/
def admitFresh (request : StoreAdvancementRequest) (reservationOrdinal now : Nat)
    (enforced : Bool := true) : Txn Db ChainSubmissionFailure StoreAdmission := do
  let derived ← read (deriveVerified P request none)
  let record := StoredChainSubmission.fresh derived.generation reservationOrdinal now
  insertFresh record enforced
  return .ready derived record true

/-- `admit`. -/
def admitSubmission (request : StoreAdvancementRequest) (workAllowed : Bool)
    (reservationOrdinal now : Nat) (enforced : Bool := true) :
    Txn Db ChainSubmissionFailure StoreAdmission := do
  read fun _ => request.validateTarget
  match ← read (loadSubmission request.identity) with
  | some record =>
    if record.state = .submitting then do
      let normalized ← normalizeAbandoned record now enforced
      return if workAllowed then .abandonedReservation normalized else .authoritative normalized
    else if workAllowed then admitExisting P request record
    else return .authoritative record
  | none =>
    if workAllowed then do
      -- A batch is derived before the bundle's state is looked at.
      if request.isBatch then
        let _ ← read (deriveVerified P request none)
      read (admissionGuards request.identity)
      if request.isImportedDelegation then admitImported P request now enforced
      else admitFresh P request reservationOrdinal now enforced
    else return .noAuthoritativeState

/-- `remove_fresh_reservation`. -/
def removeFreshReservation (generation : ChainSubmissionGeneration) :
    Txn Db ChainSubmissionFailure Unit := do
  let record ← read (requireSubmission generation.identity "fresh reservation disappeared")
  read fun _ => ensureGeneration record generation
  require (record.state = .submitting) (.withDurableState .invariantViolation record.durableState
    "only a fresh Submitting reservation can be removed")
  deleteRow generation.identity

/-- A usable hash that another row owns is no usable hash. -/
def resolveOwnership (generation : ChainSubmissionGeneration)
    (observation : SubmissionObservation) (db : Db) : SubmissionObservation :=
  match observation with
  | .usableCandidateHash candidate =>
    if ownedElsewhere (some generation.identity) candidate db then
      .possiblyDispatched (.fromRedactedMessage .invalidProtocolResponse
        "vote-chain returned a transaction hash owned by another semantic generation")
    else .usableCandidateHash candidate
  | observation => observation

/-- `apply_observation`, which is `classify_post` and `reconcile`.  A combined
generation that becomes terminally rejected is retired and its row removed. -/
def applyObservation (generation : ChainSubmissionGeneration)
    (observation : SubmissionObservation) (diagnostic : Option ChainSubmissionDiagnostic)
    (now : Nat) (enforced : Bool := true) :
    Txn Db ChainSubmissionFailure StoredChainSubmission := do
  let record ← read (requireSubmission generation.identity
    "submission disappeared during lifecycle transition")
  read fun _ => ensureGeneration record generation
  let resolved ← read fun db => .ok (resolveOwnership generation observation db)
  let moved ← read fun _ => applyTransition record resolved
    "transition unexpectedly removed durable row"
  let settled := moved.settleAfterTransition record.durableState diagnostic now
  if settled.retiresCombinedGeneration record.durableState then
    let rejection ← read fun _ => match settled.diagnostic with
      | some rejection => .ok rejection
      | none => .error (transitionFailure record.durableState
          "a rejected row carries its diagnostic")
    mapError mapGenerationError
      (retireRejectedCombinedGeneration P generation.identity rejection settled.updatedAt)
    deleteRow generation.identity
  else
    persistMutable settled enforced
  return settled

/-- One more committed reservation on a record, within the column's range. -/
def reserveOne (record : StoredChainSubmission) (overflow : String) :
    Except ChainSubmissionFailure StoredChainSubmission :=
  if record.committedPostReservations + 1 ≤ i64Max then
    .ok { record with committedPostReservations := record.committedPostReservations + 1 }
  else .error (.withDurableState .invariantViolation .recovering overflow)

/-- `reserve_ambiguous_retry`. -/
def reserveAmbiguousRetry (generation : ChainSubmissionGeneration) (now : Nat)
    (enforced : Bool := true) : Txn Db ChainSubmissionFailure StoredChainSubmission := do
  let record ← read (requireSubmission generation.identity
    "submission disappeared before ambiguous retry reservation")
  read fun _ => ensureGeneration record generation
  require record.state.permitsAmbiguousRetry (.withDurableState .invariantViolation
    record.durableState "ambiguous retry requires a hashless possibly-dispatched recovery row")
  let reserved ← read fun _ => reserveOne record "submission reservation counter overflowed"
  let reserved := { reserved with updatedAt := max now record.updatedAt }
  persistMutable reserved enforced
  return reserved

/-- A complete no-match scan of the tree, as the retry it authorizes:
`RecoveryRetryAuthorization`. -/
structure RecoveryRetryAuthorization where
  identity : ChainSubmissionIdentity
  generationDigest : ChainSubmissionGenerationDigest
  candidate : Option CandidateTransactionHash
  deriving DecidableEq

/-- `reserve_recovery_retry`. -/
def reserveRecoveryRetry (request : StoreAdvancementRequest)
    (authorization : RecoveryRetryAuthorization) (now : Nat) (enforced : Bool := true) :
    Txn Db ChainSubmissionFailure StoredChainSubmission := do
  require (request.identity = authorization.identity) (refuseAdmission
    "recovery request does not match its authorization identity")
  let record ← read (requireSubmission authorization.identity
    "submission disappeared before recovery retry reservation")
  require (record.generationDigest = authorization.generationDigest)
    (.withDurableState .invalidInput record.durableState
      "recovery authorization belongs to a different generation")
  let derived ← read (deriveVerified P request (some record))
  read fun _ => ensureGeneration record derived.generation
  match record.state with
  | .recovering candidate diagnostic =>
    require (candidate = authorization.candidate)
      (.withDurableState .invariantViolation record.durableState
        "recovery authorization no longer matches durable state")
    let reserved ← read fun _ => reserveOne record "recovery reservation counter overflowed"
    let reserved := { reserved with
      state := .recovering none diagnostic, updatedAt := max now record.updatedAt }
    persistMutable reserved enforced
    return reserved
  | _ => abort (.withDurableState .invariantViolation record.durableState
      "recovery authorization no longer matches durable state")

/-- What both confirmations write once their evidence is validated. -/
def commitConfirmation (record : StoredChainSubmission) (derived : DerivedChainSubmission)
    (confirmation : ValidatedChainSubmissionConfirmation) (now : Nat)
    (enforced : Bool := true) : Txn Db ChainSubmissionFailure ConfirmationCommit := do
  let moved ← read fun _ => applyTransition record (.confirmed confirmation)
    "confirmation remains durable"
  let confirmed := { moved with diagnostic := none, updatedAt := max now record.updatedAt }
  mapError mapGenerationError (applyConfirmedGeneration P derived.bound confirmation)
  persistMutable confirmed enforced
  return .confirmed confirmed

/-- `confirm_committed`. -/
def confirmCommitted (request : StoreAdvancementRequest)
    (expectedGeneration : ChainSubmissionGeneration) (candidate : CandidateTransactionHash)
    (events : List TxEvent) (commitAllowed : Bool) (now : Nat) (enforced : Bool := true) :
    Txn Db ChainSubmissionFailure ConfirmationCommit := do
  let record ← read (requireSubmission expectedGeneration.identity
    "submission disappeared before confirmation")
  read fun _ => ensureGeneration record expectedGeneration
  let derived ← read fun db =>
    (derive P request.derivation db).mapError (preserveLoadedState (some record))
  require (derived.generation = expectedGeneration) (.withDurableState .invalidInput
    record.durableState "semantic generation changed before confirmation")
  if commitAllowed then do
    let confirmation ← read fun _ =>
      (validateHashConfirmation P derived candidate events).mapError fun error =>
        .withDurableState .protocol record.durableState error.display
    commitConfirmation P record derived confirmation now enforced
  else return .interrupted record

/-- `confirm_tree`. -/
def confirmTree (request : StoreAdvancementRequest)
    (expectedGeneration : ChainSubmissionGeneration) (finalVanPosition : Nat)
    (voteCommitmentPositions : List Nat) (commitAllowed : Bool) (now : Nat)
    (enforced : Bool := true) : Txn Db ChainSubmissionFailure ConfirmationCommit := do
  let record ← read (requireSubmission expectedGeneration.identity
    "submission disappeared before tree confirmation")
  read fun _ => ensureGeneration record expectedGeneration
  let derived ← read (deriveVerified P request (some record))
  require (derived.generation = expectedGeneration) (.withDurableState .invalidInput
    record.durableState "semantic generation changed before tree confirmation")
  if commitAllowed then do
    let confirmation ← read fun _ =>
      (ValidatedChainSubmissionConfirmation.fromTree finalVanPosition
        voteCommitmentPositions).mapError fun error =>
          .withDurableState .protocol record.durableState error
    commitConfirmation P record derived confirmation now enforced
  else return .interrupted record

end

end ZcashVoting
