import ZcashVoting.ChainSubmission.Store.Schema

/-!
# ZcashVoting.ChainSubmission.Store.Columns

The columns of `chain_submissions` as SQLite stores them — texts, blobs and
integers — with the two functions that cross the boundary: what a statement
binds, and what `load_one` makes of a stored row.

`load_columns` says that the typed rows of the model lose nothing: loading the
bound columns of a row that SQLite accepted is loading the row.
-/

namespace ZcashVoting

open Framing Transaction

/-! ## Stored names -/

/-- `ChainSubmissionDiagnosticKind::as_str`. -/
def ChainSubmissionDiagnosticKind.asStr : ChainSubmissionDiagnosticKind → String
  | .ambiguousDispatch => "ambiguous_dispatch"
  | .ambiguousAttemptsExhausted => "ambiguous_attempts_exhausted"
  | .nullifierAlreadySpent => "nullifier_already_spent"
  | .trackingWindowExpired => "tracking_window_expired"
  | .chainRejected => "chain_rejected"
  | .reconciliationPending => "reconciliation_pending"
  | .invalidProtocolResponse => "invalid_protocol_response"
  | .storageFailure => "storage_failure"
  | .endpointUnsupported => "endpoint_unsupported"
  | .routeAnswerReplaced => "route_answer_replaced"

/-- `ChainSubmissionDiagnosticKind::from_stable_name`. -/
def ChainSubmissionDiagnosticKind.fromStableName : String → Option ChainSubmissionDiagnosticKind
  | "ambiguous_dispatch" => some .ambiguousDispatch
  | "ambiguous_attempts_exhausted" => some .ambiguousAttemptsExhausted
  | "nullifier_already_spent" => some .nullifierAlreadySpent
  | "tracking_window_expired" => some .trackingWindowExpired
  | "chain_rejected" => some .chainRejected
  | "reconciliation_pending" => some .reconciliationPending
  | "invalid_protocol_response" => some .invalidProtocolResponse
  | "storage_failure" => some .storageFailure
  | "endpoint_unsupported" => some .endpointUnsupported
  | "route_answer_replaced" => some .routeAnswerReplaced
  | _ => none

@[simp] theorem ChainSubmissionDiagnosticKind.fromStableName_asStr
    (kind : ChainSubmissionDiagnosticKind) : fromStableName kind.asStr = some kind := by
  cases kind <;> rfl

/-- The text of the `state` column. -/
def ChainSubmissionState.stableName : ChainSubmissionState → String
  | .submitting => "submitting"
  | .tracking => "tracking"
  | .recovering => "recovering"
  | .submittedWithoutHash => "submitted_without_hash"
  | .confirmed => "confirmed"
  | .rejected => "rejected"

/-- The text of the `confirmation_source` column. -/
def ChainSubmissionConfirmationSource.stableName : ChainSubmissionConfirmationSource → String
  | .hash => "hash"
  | .tree => "tree"

/-! ## Blobs -/

/-- `bytes32`. -/
def bytes32 (value : Bytes) : Except ChainSubmissionFailure Bytes32 :=
  if h : value.length = 32 then .ok ⟨value, h⟩ else .error invalidQuery

@[simp] theorem bytes32_val (value : Bytes32) : bytes32 value.val = .ok value := by
  simp [bytes32, value.property]

/-- `encode_positions`: a version byte, the count and the positions. -/
def encodePositions (positions : List Nat) : Bytes :=
  1 :: beBytes 4 positions.length ++ positions.flatMap (beBytes 8)

/-- `decode_positions`. -/
def decodePositions (encoded : Bytes) : Except ChainSubmissionFailure (List Nat) :=
  if encoded.length < 5 ∨ encoded.head? ≠ some 1 then .error invalidQuery
  else
    let count := beValue ((encoded.drop 1).take 4)
    if encoded.length ≠ 5 + count * 8 then .error invalidQuery
    else .ok ((chunksExact 8 (encoded.drop 5)).map beValue)

theorem length_flatMap_beBytes (width : Nat) (values : List Nat) :
    (values.flatMap (beBytes width)).length = values.length * width := by
  induction values with
  | nil => simp
  | cons value values ih => rw [List.flatMap_cons, List.length_append, ih]; simp [Nat.succ_mul,
      Nat.add_comm]

theorem chunksExact_append {width : Nat} (hwidth : 0 < width) {chunk : Bytes}
    (hchunk : chunk.length = width) (rest : Bytes) :
    chunksExact width (chunk ++ rest) = chunk :: chunksExact width rest := by
  have hcount : (chunk ++ rest).length / width = rest.length / width + 1 := by
    rw [List.length_append, hchunk, Nat.add_div_left _ hwidth]
  simp only [chunksExact, hcount, List.range_succ_eq_map, List.map_cons, List.map_map]
  congr 1
  · simp [← hchunk]
  · refine List.map_congr_left fun i _ => ?_
    have hdrop : (i + 1) * width = chunk.length + i * width := by
      rw [hchunk, Nat.succ_mul, Nat.add_comm]
    simp only [Function.comp_apply, Nat.succ_eq_add_one, hdrop, List.drop_length_add_append]

/-- Cutting encoded integers at their width gives them back one by one. -/
theorem chunksExact_flatMap_beBytes {width : Nat} (hwidth : 0 < width) (values : List Nat) :
    chunksExact width (values.flatMap (beBytes width)) = values.map (beBytes width) := by
  induction values with
  | nil => simp [chunksExact]
  | cons value values ih =>
    rw [List.flatMap_cons, chunksExact_append hwidth (by simp), ih, List.map_cons]

/-- Positions of the tree come back from their blob. -/
theorem decodePositions_encodePositions {positions : List Nat} (hcount : positions.length < 256 ^ 4)
    (hvalues : ∀ position ∈ positions, position < 256 ^ 8) :
    decodePositions (encodePositions positions) = .ok positions := by
  have hlength : (encodePositions positions).length = 5 + positions.length * 8 := by
    simp only [encodePositions, List.cons_append, List.length_cons, List.length_append,
      length_beBytes, length_flatMap_beBytes]
    omega
  have hread : beValue (((encodePositions positions).drop 1).take 4) = positions.length := by
    simp only [encodePositions, List.cons_append, List.drop_succ_cons, List.drop_zero]
    rw [List.take_append_of_le_length (by simp), List.take_of_length_le (by simp)]
    exact beValue_beBytes hcount
  have hdrop : (encodePositions positions).drop 5 = positions.flatMap (beBytes 8) := by
    simp only [encodePositions, List.cons_append, List.drop_succ_cons]
    rw [List.drop_append_of_le_length (by simp), List.drop_of_length_le (by simp)]
    rfl
  have hback : positions.map (beValue ∘ beBytes 8) = positions := by
    conv_rhs => rw [← List.map_id positions]
    refine List.map_congr_left fun position hposition => ?_
    rw [Function.comp_apply, beValue_beBytes (hvalues position hposition), id_eq]
  simp only [decodePositions, hread, hlength, hdrop, chunksExact_flatMap_beBytes (by decide : 0 < 8),
    List.map_map, hback]
  rw [if_neg (by simp [encodePositions]), if_neg (by simp)]

/-! ## Stored columns -/

/-- The mutable columns of one row, as SQLite holds them. -/
structure ChainSubmissionColumns where
  generationDigest : Bytes
  state : String
  candidateTransactionHash : Option Bytes
  committedPostReservations : Nat
  trackingStartedAt : Option Nat
  diagnosticKind : Option String
  diagnostic : Option String
  confirmationSource : Option String
  confirmedTransactionHash : Option Bytes
  finalVanPosition : Option Nat
  voteCommitmentPositions : Option Bytes
  createdAt : Nat
  updatedAt : Nat
  deriving DecidableEq

/-- What the statements bind for a row. -/
def ChainSubmissionRow.columns (row : ChainSubmissionRow) : ChainSubmissionColumns where
  generationDigest := row.generationDigest.val
  state := row.state.stableName
  candidateTransactionHash := row.candidateTransactionHash.map (·.val)
  committedPostReservations := row.committedPostReservations
  trackingStartedAt := row.trackingStartedAt
  diagnosticKind := row.diagnosticKind.map (·.asStr)
  diagnostic := row.diagnostic
  confirmationSource := row.confirmationSource.map (·.stableName)
  confirmedTransactionHash := row.confirmedTransactionHash.map (·.val)
  finalVanPosition := row.finalVanPosition
  voteCommitmentPositions := row.voteCommitmentPositions.map encodePositions
  createdAt := row.createdAt
  updatedAt := row.updatedAt

namespace ChainSubmissionColumns

/-- `parse_diagnostic_kind`. -/
def parseDiagnosticKind (value : String) :
    Except ChainSubmissionFailure ChainSubmissionDiagnosticKind :=
  column (ChainSubmissionDiagnosticKind.fromStableName value)

/-- The two diagnostic columns. -/
def loadDiagnostic (columns : ChainSubmissionColumns) :
    Except ChainSubmissionFailure (Option ChainSubmissionDiagnostic) :=
  match columns.diagnosticKind, columns.diagnostic with
  | some kind, some message => (parseDiagnosticKind kind).map fun kind =>
      some (.fromRedactedMessage kind message)
  | none, none => .ok none
  | _, _ => .error invalidQuery

/-- A blob of 32 bytes that may be absent. -/
def loadHash : Option Bytes → Except ChainSubmissionFailure (Option Bytes32)
  | some value => (bytes32 value).map some
  | none => .ok none

/-- The confirmation columns, which are read wherever a source is stored. -/
def loadConfirmation (columns : ChainSubmissionColumns) : Except ChainSubmissionFailure
    (Option (String × Nat × List Nat × Option CandidateTransactionHash)) :=
  match columns.confirmationSource with
  | none => .ok none
  | some source => do
    let finalVan ← column columns.finalVanPosition
    let encoded ← column columns.voteCommitmentPositions
    let positions ← decodePositions encoded
    let hash ← loadHash columns.confirmedTransactionHash
    return some (source, finalVan, positions, hash)

/-- The confirmation of a `confirmed` row. -/
def confirmedState
    (confirmation : Option (String × Nat × List Nat × Option CandidateTransactionHash)) :
    Except ChainSubmissionFailure SubmissionRecordState := do
  let (source, finalVan, positions, hash) ← column confirmation
  let value ← match source with
    | "hash" => do
      let hash ← column hash
      pure (ValidatedChainSubmissionConfirmation.fromHash hash finalVan positions)
    | "tree" => pure (ValidatedChainSubmissionConfirmation.fromTree finalVan positions)
    | _ => throw invalidQuery
  match value with
  | .ok confirmation => return .confirmed confirmation
  | .error _ => throw invalidQuery

/-- `load_one`. -/
def load (identity : ChainSubmissionIdentity) (columns : ChainSubmissionColumns) :
    Except ChainSubmissionFailure StoredChainSubmission := do
  let diagnostic ← columns.loadDiagnostic
  let candidate ← loadHash columns.candidateTransactionHash
  let confirmation ← columns.loadConfirmation
  let state ← match columns.state with
    | "submitting" => pure .submitting
    | "tracking" => (column candidate).map .tracking
    | "recovering" => (column diagnostic).map (.recovering candidate)
    | "submitted_without_hash" => (column diagnostic).map .submittedWithoutHash
    | "confirmed" => confirmedState confirmation
    | "rejected" => (column diagnostic).map .rejected
    | _ => throw invalidQuery
  let generationDigest ← bytes32 columns.generationDigest
  return {
    identity, state, diagnostic, generationDigest
    committedPostReservations := columns.committedPostReservations
    trackingStartedAt := columns.trackingStartedAt
    createdAt := columns.createdAt
    updatedAt := columns.updatedAt }

end ChainSubmissionColumns

/-- The positions of a row can be counted in four bytes. -/
def ChainSubmissionRow.Countable (row : ChainSubmissionRow) : Prop :=
  ∀ positions, row.voteCommitmentPositions = some positions → positions.length < 256 ^ 4

/-- A blob that SQLite accepts is far shorter than what four bytes count. -/
theorem ChainSubmissionRow.countable_of_binds {row : ChainSubmissionRow}
    (hbinds : row.binds = true) : row.Countable := by
  intro positions hpositions
  simp only [binds, hpositions, Option.all_some, Bool.and_eq_true, sqliteMaxLength] at hbinds
  have hroom : 5 + 8 * positions.length ≤ 1000000000 := of_decide_eq_true hbinds.2
  omega

section

attribute [local simp] StoredChainSubmission.row ChainSubmissionRow.columns
  ChainSubmissionColumns.load ChainSubmissionColumns.loadDiagnostic
  ChainSubmissionColumns.parseDiagnosticKind ChainSubmissionColumns.loadConfirmation
  ChainSubmissionColumns.confirmedState ChainSubmissionColumns.loadHash column
  StoredChainSubmission.durableState SubmissionRecordState.durableState
  ChainSubmissionState.stableName ChainSubmissionConfirmationSource.stableName
  SubmissionRecordState.heldHash ValidatedChainSubmissionConfirmation.confirmation
  ValidatedChainSubmissionConfirmation.transactionHash StoredChainSubmission.reload
  SubmissionRecordState.reload StoredChainSubmission.persistedDiagnostic
  ChainSubmissionDiagnostic.reload bind Except.bind pure Except.pure Except.map

/-- Loading what was bound for a record is loading its row. -/
theorem load_columns {record : StoredChainSubmission} (hcount : record.row.Countable) :
    record.row.columns.load record.identity = record.row.load record.identity := by
  rw [load_row]
  obtain ⟨identity, digest, state, reservations, tracking, diagnostic, created, updated⟩ := record
  -- The positions of a confirmation are leaves of the tree.
  have decode : ∀ vcs : List TreePosition, (vcs.map (·.val)).length < 256 ^ 4 →
      decodePositions (encodePositions (vcs.map (·.val))) = .ok (vcs.map (·.val)) := by
    intro vcs hlength
    refine decodePositions_encodePositions hlength fun position hposition => ?_
    obtain ⟨leaf, -, rfl⟩ := List.mem_map.mp hposition
    exact leaf.isLt.trans (by decide)
  cases state with
  | confirmed confirmation =>
    cases confirmation with
    | hash hash van vcs =>
      have hdecode := decode vcs (hcount _ rfl)
      have hvalid := fromHash_val hash van vcs
      simp_all
    | tree van vcs =>
      have hdecode := decode vcs (hcount _ rfl)
      have hvalid := fromTree_val van vcs
      simp_all
  | submitting => simp
  | tracking candidate => cases diagnostic <;> simp
  | recovering candidate diagnostic => cases candidate <;> simp
  | submittedWithoutHash diagnostic | rejected diagnostic => simp

end

end ZcashVoting
