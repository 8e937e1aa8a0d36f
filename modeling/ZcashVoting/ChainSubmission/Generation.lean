import ZcashVoting.Lib.Transaction
import ZcashVoting.Primitives

/-!
# ZcashVoting.ChainSubmission.Generation

Derivation of a semantic generation from the durable delegation and vote inputs:
what a submission's digest is computed from, and the request it stands for.
-/

namespace ZcashVoting

open Framing Transaction

/-! ## The transcript -/

/-- The fields hashed into a generation digest, in order, under a domain. -/
structure GenerationTranscript where
  domain : String
  fields : List (String × Bytes)
  deriving DecidableEq

/-- The byte string fed to SHA-256: the domain, then every field as its tag and
its value, both length-prefixed. -/
def GenerationTranscript.bytes (transcript : GenerationTranscript) : Bytes :=
  utf8 transcript.domain ++ transcript.fields.flatMap fun (tag, value) =>
    framed 2 (utf8 tag) ++ framed 8 value

/-- `GENERATION_DOMAIN_V1`. -/
def generationDomainV1 : String := "zcash_voting.chain_submission.generation.v1\x00"

/-- `IMPORTED_DELEGATION_DOMAIN_V1`. -/
def importedDelegationDomainV1 : String :=
  "zcash_voting.chain_submission.imported_delegation.v1\x00"

/-- `sequence`: the count, then each element under its index. -/
def transcriptSequence {α : Type} (tag : String) (values : List α)
    (encode : Nat → α → List (String × Bytes)) : List (String × Bytes) :=
  (tag ++ ".count", beBytes 4 values.length) ::
    (values.zipIdx.flatMap fun (value, index) => encode index value)

/-- `hash_identity`. -/
def hashIdentity (identity : ChainSubmissionIdentity) : List (String × Bytes) :=
  [("identity.wallet_id", utf8 identity.walletId),
    ("identity.network", utf8 (networkName identity.network)),
    ("identity.vote_round_id", identity.voteRoundId.val.val),
    ("identity.bundle_index", beBytes 4 identity.bundleIndex)] ++
  match identity.target with
  | .delegation => [("identity.kind", utf8 "delegation")]
  | .vote proposalId =>
    [("identity.kind", utf8 "vote"), ("identity.proposal_id", beBytes 4 proposalId)]
  | .voteBatch digest =>
    [("identity.kind", utf8 "vote_batch"), ("identity.ordered_batch_digest", digest.val)]
  | .delegateAndVoteBatch digest =>
    [("identity.kind", utf8 "delegate_and_cast_vote_batch"),
      ("identity.ordered_batch_digest", digest.val)]

/-! ## Delegation inputs -/

/-- `BUNDLE_NOTE_SLOTS`. -/
def bundleNoteSlots : Nat := 5

structure DelegationGenerationInputs where
  notePositions : List Nat
  noteIdentityHashes : List Bytes32
  vanCommRand : Bytes32
  dummyNullifiers : List Bytes32
  rhoSigned : Bytes32
  paddedNoteData : List Bytes32
  nfSigned : Bytes32
  cmxNew : Bytes32
  alpha : Bytes32
  rseedSigned : Bytes32
  rseedOutput : Bytes32
  govComm : Bytes32
  totalNoteValue : Nat
  addressIndex : Nat
  rk : Bytes32
  govNullifiers : List Bytes32
  paddedNoteSecrets : List (Bytes32 × Bytes32)
  pcztSighash : Bytes32
  tx1Effects : Bytes
  proof : Bytes
  deriving DecidableEq

/-- The bytes in consecutive chunks of exactly `width` (`chunks_exact`). -/
def chunksExact (width : Nat) (bs : Bytes) : List Bytes :=
  (List.range (bs.length / width)).map fun i => (bs.drop (i * width)).take width

/-- `checked_blob32`. -/
def checkedBlob32 (value : Bytes) (field : String) : Except VotingError Bytes32 :=
  if h : value.length = 32 then .ok ⟨value, h⟩
  else
    let got := value.length
    .error (.internal s!"stored {field} must be 32 bytes, got {got}")

/-- A chunk of a longer blob, as 32 bytes. -/
def chunk32 (chunk : Bytes) (message : String) : Except VotingError Bytes32 :=
  if h : chunk.length = 32 then .ok ⟨chunk, h⟩ else .error (.internal message)

/-- `checked_blob32_sequence`. -/
def checkedBlob32Sequence (value : Bytes) (field : String) : Except VotingError (List Bytes32) :=
  let got := value.length
  if got % 32 ≠ 0 then
    .error (.internal s!"stored {field} length must be a multiple of 32, got {got}")
  else (chunksExact 32 value).mapM fun chunk =>
    chunk32 chunk s!"stored {field} element must be 32 bytes"

/-- `checked_note_positions`. -/
def checkedNotePositions (value : Bytes) : Except VotingError (List Nat) :=
  let got := value.length
  if got % 8 ≠ 0 then
    .error (.internal s!"stored note_positions length must be a multiple of 8, got {got}")
  else .ok ((chunksExact 8 value).map leValue)

/-- `checked_padded_note_secrets`. -/
def checkedPaddedNoteSecrets (value : Bytes) :
    Except VotingError (List (Bytes32 × Bytes32)) :=
  let got := value.length
  if got % 64 ≠ 0 then
    .error (.internal s!"stored padded_note_secrets length must be a multiple of 64, got {got}")
  else (chunksExact 64 value).mapM fun chunk => do
    let rho ← chunk32 (chunk.take 32) "stored padded note rho must be 32 bytes"
    let rseed ← chunk32 (chunk.drop 32) "stored padded note rseed must be 32 bytes"
    return (rho, rseed)

/-- A column that must not be NULL. -/
def requireColumn {α : Type} (column : Option α) : Except VotingError α :=
  match column with
  | some value => .ok value
  | none => .error (.internal "malformed stored delegation generation inputs: NULL column")

section

variable (P : Primitives)

/-- `address_index` must fit the code's `u32`. -/
def checkedAddressIndex (addressIndex : Nat) : Except VotingError Nat :=
  if addressIndex ≤ u32Max then .ok addressIndex
  else .error (.internal s!"stored address_index must fit u32, got {addressIndex}")

/-- The three padded columns hold one element per unused note slot. -/
def requirePaddedCount (field : String) (count expected : Nat) : Except VotingError Unit :=
  if count ≠ expected then
    .error (.internal
      s!"stored {field} count {count} does not match expected padded note count {expected}")
  else .ok ()

/-- The inputs of one bundle row and its successful proof. -/
def delegationInputsOfRow (row : BundleRow) (storedProof : Option Bytes) :
    Except VotingError DelegationGenerationInputs := do
  let notePositionsBlob ← requireColumn row.notePositionsBlob
  let noteIdentityHashesBlob ← requireColumn row.noteIdentityHashesBlob
  let vanCommRand ← requireColumn row.vanCommRand
  let dummyNullifiersBlob ← requireColumn row.dummyNullifiers
  let rhoSigned ← requireColumn row.rhoSigned
  let paddedNoteDataBlob ← requireColumn row.paddedNoteData
  let nfSigned ← requireColumn row.nfSigned
  let cmxNew ← requireColumn row.cmxNew
  let alpha ← requireColumn row.alpha
  let rseedSigned ← requireColumn row.rseedSigned
  let rseedOutput ← requireColumn row.rseedOutput
  let govComm ← requireColumn row.govComm
  let totalNoteValue ← requireColumn row.totalNoteValue
  let addressIndex ← requireColumn row.addressIndex
  let rk ← requireColumn row.rk
  let govNullifiersBlob ← requireColumn row.govNullifiersBlob
  let paddedNoteSecretsBlob ← requireColumn row.paddedNoteSecrets
  let pcztSighash ← requireColumn row.pcztSighash
  let tx1Effects ← requireColumn row.tx1Effects
  let proof ← requireColumn storedProof
  let notePositions ← checkedNotePositions notePositionsBlob
  let noteIdentityHashes ← checkedBlob32Sequence noteIdentityHashesBlob "note_identity_hashes"
  let positionCount := notePositions.length
  let hashCount := noteIdentityHashes.length
  check (hashCount = positionCount) (.internal
      s!"stored note identity count {hashCount} does not match note position count {positionCount}")
  check (positionCount ≤ bundleNoteSlots) (.internal
      s!"stored note position count {positionCount} exceeds bundle capacity {bundleNoteSlots}")
  let expected := bundleNoteSlots - positionCount
  let dummyNullifiers ← checkedBlob32Sequence dummyNullifiersBlob "dummy_nullifiers"
  let paddedNoteData ← checkedBlob32Sequence paddedNoteDataBlob "padded_note_data"
  let paddedNoteSecrets ← checkedPaddedNoteSecrets paddedNoteSecretsBlob
  requirePaddedCount "dummy_nullifiers" dummyNullifiers.length expected
  requirePaddedCount "padded_note_data" paddedNoteData.length expected
  requirePaddedCount "padded_note_secrets" paddedNoteSecrets.length expected
  let govNullifiers ← checkedBlob32Sequence govNullifiersBlob "gov_nullifiers"
  let nullifierCount := govNullifiers.length
  check (nullifierCount = bundleNoteSlots) (.internal
      s!"stored gov_nullifier count {nullifierCount} does not match bundle capacity {bundleNoteSlots}")
  P.validateTx1Effects tx1Effects
  return {
    notePositions, noteIdentityHashes, dummyNullifiers, paddedNoteData, govNullifiers,
    paddedNoteSecrets, totalNoteValue, tx1Effects, proof
    vanCommRand := ← checkedBlob32 vanCommRand "van_comm_rand"
    rhoSigned := ← checkedBlob32 rhoSigned "rho_signed"
    nfSigned := ← checkedBlob32 nfSigned "nf_signed"
    cmxNew := ← checkedBlob32 cmxNew "cmx_new"
    alpha := ← checkedBlob32 alpha "alpha"
    rseedSigned := ← checkedBlob32 rseedSigned "rseed_signed"
    rseedOutput := ← checkedBlob32 rseedOutput "rseed_output"
    govComm := ← checkedBlob32 govComm "gov_comm"
    addressIndex := ← checkedAddressIndex addressIndex
    rk := ← checkedBlob32 rk "rk"
    pcztSighash := ← checkedBlob32 pcztSighash "pczt_sighash" }

/-- `load_delegation_inputs`: absent without a bundle or a successful proof. -/
def loadDelegationInputs (db : Db) (bundle : BundleKey) :
    Except VotingError (Option DelegationGenerationInputs) :=
  match db.bundles.lookup bundle, db.proofs.lookup bundle with
  | some row, some proof =>
    if proof.success then (delegationInputsOfRow P row proof.proof).map some else .ok none
  | _, _ => .ok none

/-- `hash_delegation_inputs`. -/
def hashDelegationInputs (inputs : DelegationGenerationInputs) : List (String × Bytes) :=
  transcriptSequence "delegation.note_positions" inputs.notePositions
      (fun index position => [(s!"delegation.note_positions.{index}", beBytes 8 position)]) ++
  transcriptSequence "delegation.note_identity_hashes" inputs.noteIdentityHashes
      (fun index hash => [(s!"delegation.note_identity_hashes.{index}", hash.val)]) ++
  [("delegation.van_comm_rand", inputs.vanCommRand.val)] ++
  transcriptSequence "delegation.dummy_nullifiers" inputs.dummyNullifiers
      (fun index nullifier => [(s!"delegation.dummy_nullifiers.{index}", nullifier.val)]) ++
  [("delegation.rho_signed", inputs.rhoSigned.val)] ++
  transcriptSequence "delegation.padded_note_data" inputs.paddedNoteData
      (fun index commitment => [(s!"delegation.padded_note_data.{index}", commitment.val)]) ++
  [("delegation.nf_signed", inputs.nfSigned.val),
    ("delegation.cmx_new", inputs.cmxNew.val),
    ("delegation.alpha", inputs.alpha.val),
    ("delegation.rseed_signed", inputs.rseedSigned.val),
    ("delegation.rseed_output", inputs.rseedOutput.val),
    ("delegation.gov_comm", inputs.govComm.val),
    ("delegation.total_note_value", beBytes 8 inputs.totalNoteValue),
    ("delegation.address_index", beBytes 4 inputs.addressIndex),
    ("delegation.rk", inputs.rk.val)] ++
  transcriptSequence "delegation.gov_nullifiers" inputs.govNullifiers
      (fun index nullifier => [(s!"delegation.gov_nullifiers.{index}", nullifier.val)]) ++
  transcriptSequence "delegation.padded_note_secrets" inputs.paddedNoteSecrets
      (fun index (rho, rseed) =>
        [(s!"delegation.padded_note_secrets.{index}.rho", rho.val),
          (s!"delegation.padded_note_secrets.{index}.rseed", rseed.val)]) ++
  [("delegation.pczt_sighash", inputs.pcztSighash.val),
    ("delegation.tx1_effects", inputs.tx1Effects),
    ("delegation.proof", inputs.proof)]

/-! ## Vote inputs -/

/-- `hash_encrypted_share`. -/
def hashEncryptedShare (tag : String) (share : EncryptedShare) : List (String × Bytes) :=
  [(s!"{tag}.c1", share.c1), (s!"{tag}.c2", share.c2),
    (s!"{tag}.share_index", beBytes 4 share.shareIndex),
    (s!"{tag}.plaintext_value", beBytes 8 share.plaintextValue),
    (s!"{tag}.randomness", share.randomness)]

/-- `hash_vote_recovery`: every field of the recovery but the position it is
confirmed at and the initial VAN of a combined batch. -/
def hashVoteRecovery (tag : String) (recovery : VoteRecoveryBundle) : List (String × Bytes) :=
  [(s!"{tag}.vote_round_id", utf8 (hex recovery.voteRoundId.val.val)),
    (s!"{tag}.bundle_index", beBytes 4 recovery.bundleIndex),
    (s!"{tag}.proposal_id", beBytes 4 recovery.proposalId),
    (s!"{tag}.vote_decision", beBytes 4 recovery.voteDecision),
    (s!"{tag}.anchor_height", beBytes 4 recovery.anchorHeight),
    (s!"{tag}.single_share", [if recovery.singleShare then 1 else 0]),
    (s!"{tag}.num_options", beBytes 4 recovery.numOptions),
    (s!"{tag}.van_nullifier", recovery.vanNullifier.val),
    (s!"{tag}.vote_authority_note_new", recovery.voteAuthorityNoteNew.val),
    (s!"{tag}.vote_commitment", recovery.voteCommitment.val),
    (s!"{tag}.proof", recovery.proof),
    (s!"{tag}.shares_hash", recovery.sharesHash.val),
    (s!"{tag}.r_vpk", recovery.rVpk.val),
    (s!"{tag}.alpha_v", recovery.alphaV.val),
    (s!"{tag}.vote_auth_sig", recovery.voteAuthSig.val)] ++
  transcriptSequence s!"{tag}.encrypted_shares" recovery.encryptedShares
      (fun index share => hashEncryptedShare s!"{tag}.encrypted_shares.{index}" share) ++
  transcriptSequence s!"{tag}.share_blinds" recovery.shareBlinds
      (fun index blind => [(s!"{tag}.share_blinds.{index}", blind.val)]) ++
  transcriptSequence s!"{tag}.share_comms" recovery.shareComms
      (fun index commitment => [(s!"{tag}.share_comms.{index}", commitment.val)]) ++
  match recovery.batch with
  | none => [(s!"{tag}.batch", utf8 "singleton")]
  | some batch =>
    [(s!"{tag}.batch", utf8 "member"), (s!"{tag}.batch.digest", batch.digest.val),
      (s!"{tag}.batch.index", beBytes 4 batch.index),
      (s!"{tag}.batch.size", beBytes 4 batch.size)]

/-- The `votes` sequence of a transcript. -/
def hashVotes (recoveries : List VoteRecoveryBundle) : List (String × Bytes) :=
  transcriptSequence "votes" recoveries fun index recovery =>
    hashVoteRecovery s!"votes.{index}" recovery

/-! ## Generations -/

/-- `BoundGeneration`. -/
structure BoundGeneration where
  generation : ChainSubmissionGeneration
  expectedLayout : ExpectedTreeLayout
  orderedProposalIds : List Nat
  deriving DecidableEq

/-- What is posted for a generation. -/
inductive ChainSubmissionRequest where
  | delegation (body : Bytes)
  | importedDelegation (candidate : CandidateTransactionHash)
  | vote (body : Bytes)
  | voteBatch (bodies : List Bytes)
  | delegateAndVoteBatch (delegation : Bytes) (bodies : List Bytes)
  deriving DecidableEq

/-- `DerivedChainSubmission`. -/
structure DerivedChainSubmission where
  bound : BoundGeneration
  request : ChainSubmissionRequest
  deriving DecidableEq

namespace DerivedChainSubmission

def generation (derived : DerivedChainSubmission) : ChainSubmissionGeneration :=
  derived.bound.generation

def expectedLayout (derived : DerivedChainSubmission) : ExpectedTreeLayout :=
  derived.bound.expectedLayout

def orderedProposalIds (derived : DerivedChainSubmission) : List Nat :=
  derived.bound.orderedProposalIds

/-- `imported_candidate`. -/
def importedCandidate (derived : DerivedChainSubmission) : Option CandidateTransactionHash :=
  match derived.request with
  | .importedDelegation candidate => some candidate
  | _ => none

end DerivedChainSubmission

/-- The generation of an identity under a transcript of the main domain. -/
def generationOf (identity : ChainSubmissionIdentity) (fields : List (String × Bytes)) :
    ChainSubmissionGeneration :=
  ⟨identity, P.sha256 (GenerationTranscript.bytes ⟨generationDomainV1,
    hashIdentity identity ++ fields⟩)⟩

/-- `delegation_generation`. -/
def delegationGeneration (identity : ChainSubmissionIdentity)
    (inputs : DelegationGenerationInputs) : ChainSubmissionGeneration :=
  generationOf P identity (hashDelegationInputs inputs)

/-- `vote_generation`. -/
def voteGeneration (identity : ChainSubmissionIdentity) (recoveries : List VoteRecoveryBundle) :
    ChainSubmissionGeneration :=
  generationOf P identity (hashVotes recoveries)

/-- `validate_identity_context`. -/
def validateIdentityContext (db : Db) (identity : ChainSubmissionIdentity) :
    Except VotingError Unit := do
  let network ← db.loadRoundNetwork identity.bundleKey.round
  check (network = identity.network)
    (.invalidInput "chain submission identity network does not match the stored round")

/-- The columns of a bundle whose delegation was imported from another device:
no setup, no proof, only what a vote needs. -/
def isImportedCapability (db : Db) (bundle : BundleKey) (row : BundleRow) : Bool :=
  row.notePositionsBlob.isNone && row.noteIdentityHashesBlob.isNone &&
  row.dummyNullifiers.isNone && row.rhoSigned.isNone && row.paddedNoteData.isNone &&
  row.nfSigned.isNone && row.cmxNew.isNone && row.alpha.isNone && row.rseedSigned.isNone &&
  row.rseedOutput.isNone && row.rk.isNone && row.govNullifiersBlob.isNone &&
  row.paddedNoteSecrets.isNone && row.pcztSighash.isNone && row.tx1Effects.isNone &&
  row.vanCommRand.isSome && row.totalNoteValue.isSome && row.addressIndex == some 0 &&
  (db.proofs.lookup bundle).isNone

/-- `generation_for_imported_delegation`: the generation and the transaction hash
of the capability package. -/
def generationForImportedDelegation (db : Db) (identity : ChainSubmissionIdentity) :
    Except VotingError (BoundGeneration × CandidateTransactionHash) := do
  check (identity.target = .delegation)
    (.invalidInput "imported delegation generation requires a delegation identity")
  validateIdentityContext db identity
  let round := hex identity.voteRoundId.val.val
  let bundle := identity.bundleIndex
  let some row := db.bundles.lookup identity.bundleKey
    | throw (.invalidInput
        s!"imported delegation capability bundle not found for round={round}, bundle={bundle}")
  match isImportedCapability db identity.bundleKey row, row.govComm, row.delegationTxHash with
  | true, some govComm, some candidate =>
    let governanceCommitment ← checkedBlob32 govComm "imported gov_comm"
    let transcript : GenerationTranscript := ⟨importedDelegationDomainV1, hashIdentity identity ++
      [("imported_delegation.gov_comm", governanceCommitment.val),
        ("imported_delegation.transaction_hash", candidate.val)]⟩
    return (⟨⟨identity, P.sha256 transcript.bytes⟩, .delegation governanceCommitment, []⟩,
      candidate)
  | _, _, _ =>
    throw (.invalidInput
      s!"round={round}, bundle={bundle} is not an imported delegation capability bundle")

/-- `derive_imported_delegation`. -/
def deriveImportedDelegation (db : Db) (identity : ChainSubmissionIdentity) :
    Except VotingError DerivedChainSubmission := do
  let (bound, candidate) ← generationForImportedDelegation P db identity
  return ⟨bound, .importedDelegation candidate⟩

/-- `complete_generation_for_delegation`. -/
def completeGenerationForDelegation (db : Db) (identity : ChainSubmissionIdentity) :
    Except VotingError (Option BoundGeneration) := do
  check (identity.target = .delegation)
    (.invalidInput "delegation generation requires a delegation identity")
  validateIdentityContext db identity
  match ← loadDelegationInputs P db identity.bundleKey with
  | none => return none
  | some inputs =>
    return some ⟨delegationGeneration P identity inputs, .delegation inputs.govComm, []⟩

/-- `generation_for_delegation`. -/
def generationForDelegation (db : Db) (identity : ChainSubmissionIdentity) :
    Except VotingError BoundGeneration := do
  match ← completeGenerationForDelegation P db identity with
  | some bound => return bound
  | none =>
    let round := hex identity.voteRoundId.val.val
    let bundle := identity.bundleIndex
    throw (.invalidInput
      s!"complete delegation generation not found for round={round}, bundle={bundle}")

/-- `DelegationDbFields`: the raw columns of a delegation. -/
structure DelegationDbFields where
  proof : Bytes
  rk : Bytes
  nfSigned : Bytes
  cmxNew : Bytes
  govComm : Bytes
  govNullifiers : List Bytes
  alpha : Bytes
  tx1Effects : Bytes
  deriving DecidableEq

/-- The error of the query that loads them. -/
def delegationDataError (bundle : BundleKey) (reason : String) : VotingError :=
  let round := hex bundle.roundId.val.val
  let index := bundle.bundleIndex
  .invalidInput
    s!"failed to load delegation submission data for round={round}, bundle={index} ({reason})"

/-- `load_delegation_submission_data`.  Only a successful proof is joined. -/
def loadDelegationSubmissionData (db : Db) (bundle : BundleKey) :
    Except VotingError DelegationDbFields := do
  let column (value : Option Bytes) (index : Nat) (name : String) : Except VotingError Bytes :=
    match value with
    | some value => .ok value
    | none => .error (delegationDataError bundle
        s!"Invalid column type Null at index: {index}, name: {name}")
  match db.bundles.lookup bundle, (db.proofs.lookup bundle).filter (·.success) with
  | some row, some stored =>
    let proof ← column stored.proof 0 "proof"
    let rk ← column row.rk 1 "rk"
    let nfSigned ← column row.nfSigned 2 "nf_signed"
    let cmxNew ← column row.cmxNew 3 "cmx_new"
    let govComm ← column row.govComm 4 "gov_comm"
    let govNullifiersBlob ← column row.govNullifiersBlob 5 "gov_nullifiers_blob"
    let alpha ← column row.alpha 6 "alpha"
    let tx1Effects ← column row.tx1Effects 8 "tx1_effects"
    let length := govNullifiersBlob.length
    check (length % 32 = 0) (.internal
      s!"corrupt gov_nullifiers_blob: length {length} is not a multiple of 32")
    P.validateTx1Effects tx1Effects
    return ⟨proof, rk, nfSigned, cmxNew, govComm, chunksExact 32 govNullifiersBlob, alpha,
      tx1Effects⟩
  | _, _ => throw (delegationDataError bundle "Query returned no rows")

/-- `load_pczt_sighash`. -/
def loadPcztSighash (db : Db) (bundle : BundleKey) : Except VotingError Bytes :=
  let round := hex bundle.roundId.val.val
  let index := bundle.bundleIndex
  match db.bundles.lookup bundle with
  | some row => match row.pcztSighash with
    | some sighash => .ok sighash
    | none => .error (.invalidInput
        s!"no pczt_sighash for round={round}, bundle={index} (Invalid column type Null at index: 0, name: pczt_sighash)")
  | none => .error (.invalidInput
      s!"no pczt_sighash for round={round}, bundle={index} (Query returned no rows)")

/-- `array32`. -/
def array32 (label : String) (value : Bytes) : Except VotingError Bytes32 :=
  if h : value.length = 32 then .ok ⟨value, h⟩
  else
    let got := value.length
    .error (.internal s!"{label} must be 32 bytes, got {got}")

/-- `array32x_bundle_note_slots`. -/
def array32xBundleNoteSlots (label : String) (values : List Bytes) :
    Except VotingError (List Bytes32) := do
  let got := values.length
  check (got = bundleNoteSlots)
    (.internal s!"{label} must contain {bundleNoteSlots} entries, got {got}")
  values.zipIdx.mapM fun (value, idx) => array32 s!"{label}[{idx}]" value

/-- `submission_with_conn`: a bundle's delegation under a spend authorization. -/
def submissionWithConn (db : Db) (bundle : BundleKey) (spendAuthSignature : Bytes64) :
    Except VotingError DelegationSubmission := do
  let data ← loadDelegationSubmissionData P db bundle
  let storedSighash ← loadPcztSighash db bundle
  let sighash ← array32 "pczt_sighash" storedSighash
  P.verifyDelegationSpendAuthSignature data.rk storedSighash spendAuthSignature
  return {
    proof := data.proof
    rk := ← array32 "rk" data.rk
    nfSigned := ← array32 "nf_signed" data.nfSigned
    cmxNew := ← array32 "cmx_new" data.cmxNew
    govComm := ← array32 "gov_comm" data.govComm
    govNullifiers := ← array32xBundleNoteSlots "gov_nullifiers" data.govNullifiers
    alpha := ← array32 "alpha" data.alpha
    voteRoundId := bundle.roundId
    spendAuthSig := spendAuthSignature
    sighash
    tx1Effects := data.tx1Effects }

/-- The request body of a bundle's delegation under a spend authorization. -/
def delegationSubmission (db : Db) (bundle : BundleKey) (signature : Bytes64) :
    Except VotingError Bytes := do
  P.delegationWire (← submissionWithConn P db bundle signature)

/-- `derive_delegation`. -/
def deriveDelegation (db : Db) (identity : ChainSubmissionIdentity)
    (spendAuthSignature : Bytes64) : Except VotingError DerivedChainSubmission := do
  let bound ← generationForDelegation P db identity
  let body ← delegationSubmission P db identity.bundleKey spendAuthSignature
  return ⟨bound, .delegation body⟩

/-- `load_validated_vote`. -/
def loadValidatedVote (db : Db) (identity : ChainSubmissionIdentity) (proposalId : Nat) :
    Except VotingError VoteRecoveryBundle := do
  let round := hex identity.voteRoundId.val.val
  let bundle := identity.bundleIndex
  let row := db.votes.lookup ⟨identity.bundleKey, proposalId⟩
  let some recovery := row.bind (·.recovery)
    | throw (.invalidInput
        s!"vote recovery bundle not found for round={round}, bundle={bundle}, proposal={proposalId}")
  let some state := row
    | throw (.invalidInput s!"vote not found for round={round}, bundle={bundle}, proposal={proposalId}")
  validateRecoveryMatchesStoredVote recovery identity.voteRoundId identity.bundleIndex proposalId
    state.choice state.commitment
  return recovery

/-- `validated_singleton_vote`. -/
def validatedSingletonVote (db : Db) (identity : ChainSubmissionIdentity) :
    Except VotingError (BoundGeneration × VoteRecoveryBundle) := do
  let .vote proposalId := identity.target
    | throw (.invalidInput "singleton vote generation requires a vote identity")
  validateIdentityContext db identity
  let recovery ← loadValidatedVote db identity proposalId
  ensureSingletonVoteRecovery recovery
  return (⟨voteGeneration P identity [recovery],
    .vote recovery.voteAuthorityNoteNew recovery.voteCommitment, [proposalId]⟩, recovery)

/-- `derive_vote`. -/
def deriveVote (db : Db) (identity : ChainSubmissionIdentity) :
    Except VotingError DerivedChainSubmission := do
  let (bound, recovery) ← validatedSingletonVote P db identity
  return ⟨bound, .vote (← P.voteWire recovery.submission)⟩

/-- `load_vote_batch_recoveries_with_conn`. -/
def loadVoteBatchRecoveries (db : Db) (bundle : BundleKey) (batchDigest : Bytes32) :
    Except VotingError (List VoteRecoveryBundle) :=
  assembleVoteBatchRecoveries P.castVoteBatchSighash P.delegateAndVoteBatchSighash
    bundle.roundId bundle.bundleIndex batchDigest (db.bundleRecoveries bundle)

/-- The proposals of a batch's members, each of which must be the current
recovery of its vote. -/
def validatedMembers (db : Db) (identity : ChainSubmissionIdentity) (orderedBatchDigest : Bytes32)
    (expectedAnchor : Nat) (recoveries : List VoteRecoveryBundle) :
    Except VotingError (List Nat) :=
  recoveries.mapM fun recovery => do
    check (recovery.anchorHeight = expectedAnchor)
      (.invalidInput "persisted atomic vote batch has inconsistent anchor heights")
    let validated ← loadValidatedVote db identity recovery.proposalId
    check (validated.batchDigest? = some orderedBatchDigest) (.invalidInput
      "persisted atomic vote batch membership changed during derivation")
    return recovery.proposalId

/-- The generation of a validated batch.  A combined one also binds the
delegation it carries. -/
def batchGeneration (db : Db) (identity : ChainSubmissionIdentity) (combinedVan : Option Bytes32)
    (expectedAnchor : Nat) (recoveries : List VoteRecoveryBundle) :
    Except VotingError ChainSubmissionGeneration :=
  match combinedVan with
  | some initialVan => do
    let some inputs ← loadDelegationInputs P db identity.bundleKey
      | throw (.invalidInput "combined delegation setup is missing")
    check (initialVan = inputs.govComm ∧ expectedAnchor = 0)
      (.invalidInput "combined casts do not bind the persisted delegation VAN")
    return generationOf P identity (hashDelegationInputs inputs ++ hashVotes recoveries)
  | none => return voteGeneration P identity recoveries

/-- `validated_vote_batch`. -/
def validatedVoteBatch (db : Db) (identity : ChainSubmissionIdentity) :
    Except VotingError (BoundGeneration × List VoteRecoveryBundle) := do
  let some orderedBatchDigest := identity.target.batchDigest
    | throw (.invalidInput "vote batch generation requires a vote_batch identity")
  validateIdentityContext db identity
  let recoveries ← loadVoteBatchRecoveries P db identity.bundleKey orderedBatchDigest
  let combinedVan := recoveries.head?.bind (·.delegationVan?)
  check (combinedVan.isSome == identity.target.isCombined)
    (.invalidInput "batch authorization does not match submission kind")
  let expectedAnchor := (recoveries.head?.map (·.anchorHeight)).getD 0
  let proposalIds ← validatedMembers db identity orderedBatchDigest expectedAnchor recoveries
  check proposalIds.Nodup
    (.invalidInput "persisted atomic vote batch contains duplicate proposals")
  let some last := recoveries.getLast?
    | throw (.internal "validated vote batch is non-empty")
  let layout := ExpectedTreeLayout.voteBatch last.voteAuthorityNoteNew
    (recoveries.map (·.voteCommitment))
  let generation ← batchGeneration P db identity combinedVan expectedAnchor recoveries
  return (⟨generation, layout, proposalIds⟩, recoveries)

/-- The identity of a bundle's own delegation. -/
def ChainSubmissionIdentity.delegationOf (identity : ChainSubmissionIdentity) :
    ChainSubmissionIdentity :=
  { identity with target := .delegation, target_valid := trivial }

/-- `DelegationAuthorization::recover_submission`. -/
def recoverSubmission (db : Db) (identity : ChainSubmissionIdentity) (digest : Bytes32) :
    Except VotingError Bytes := do
  let some stored := db.delegateCastRecovery.lookup (identity.bundleKey, digest)
    | throw (.storage "recover combined authorization: Query returned no rows")
  let network ← db.loadRoundNetwork identity.bundleKey.round
  let generation ← generationForDelegation P db { identity.delegationOf with network }
  check (generation.generation.digest = stored.delegationGenerationDigest)
    (.invalidInput "stored combined delegation changed")
  delegationSubmission P db identity.bundleKey stored.spendAuthSignature

/-- `derive_vote_batch`. -/
def deriveVoteBatch (db : Db) (identity : ChainSubmissionIdentity) :
    Except VotingError DerivedChainSubmission := do
  let (bound, recoveries) ← validatedVoteBatch P db identity
  let bodies ← recoveries.mapM fun recovery => P.voteWire recovery.submission
  match identity.target with
  | .delegateAndVoteBatch digest =>
    let delegation ← recoverSubmission P db identity digest
    let authorized ← P.authorizationDigest delegation bodies
    check (authorized = digest)
      (.invalidInput "combined authorization digest mismatch")
    return ⟨bound, .delegateAndVoteBatch delegation bodies⟩
  | _ => return ⟨bound, .voteBatch bodies⟩

/-! ## What a derivation hashes

Every derived generation is the digest of the identity it was asked for and of
inputs of that identity's kind. -/

/-- The inputs of a generation, by kind. -/
inductive GenerationInputs where
  | delegation (inputs : DelegationGenerationInputs)
  | importedDelegation (govComm : Bytes32) (transactionHash : CandidateTransactionHash)
  | vote (recovery : VoteRecoveryBundle)
  | voteBatch (recoveries : List VoteRecoveryBundle)
  | delegateAndVoteBatch (inputs : DelegationGenerationInputs) (recoveries : List VoteRecoveryBundle)
  deriving DecidableEq

namespace GenerationInputs

/-- The domain a kind of inputs is hashed under. -/
def domain : GenerationInputs → String
  | .importedDelegation .. => importedDelegationDomainV1
  | _ => generationDomainV1

/-- The fields of the inputs. -/
def fields : GenerationInputs → List (String × Bytes)
  | .delegation inputs => hashDelegationInputs inputs
  | .importedDelegation govComm transactionHash =>
    [("imported_delegation.gov_comm", govComm.val),
      ("imported_delegation.transaction_hash", transactionHash.val)]
  | .vote recovery => hashVotes [recovery]
  | .voteBatch recoveries => hashVotes recoveries
  | .delegateAndVoteBatch inputs recoveries => hashDelegationInputs inputs ++ hashVotes recoveries

/-- Inputs of the kind a target has. -/
def Matches : GenerationInputs → ChainSubmissionTarget → Prop
  | .delegation _, .delegation | .importedDelegation .., .delegation | .vote _, .vote _
  | .voteBatch _, .voteBatch _ | .delegateAndVoteBatch .., .delegateAndVoteBatch _ => True
  | _, _ => False

/-- The byte string hashed for an identity and its inputs. -/
def bytes (inputs : GenerationInputs) (identity : ChainSubmissionIdentity) : Bytes :=
  GenerationTranscript.bytes ⟨inputs.domain, hashIdentity identity ++ inputs.fields⟩

end GenerationInputs

/-- The generation of an identity and inputs of its kind. -/
def GeneratedFrom (identity : ChainSubmissionIdentity) (generation : ChainSubmissionGeneration) :
    Prop :=
  ∃ inputs : GenerationInputs, inputs.Matches identity.target ∧
    generation = ⟨identity, P.sha256 (inputs.bytes identity)⟩

section

variable {P}

theorem GeneratedFrom.identity_eq {identity : ChainSubmissionIdentity}
    {generation : ChainSubmissionGeneration} (h : GeneratedFrom P identity generation) :
    generation.identity = identity := by
  obtain ⟨inputs, -, rfl⟩ := h
  rfl

end

section

variable {db : Db} {identity : ChainSubmissionIdentity} {derived : DerivedChainSubmission}

variable {P} in
/-- What a derived delegation is made from. -/
theorem generationForDelegation_eq_ok {bound : BoundGeneration} :
    generationForDelegation P db identity = .ok bound ↔
      identity.target = .delegation ∧ validateIdentityContext db identity = .ok () ∧
      ∃ inputs, loadDelegationInputs P db identity.bundleKey = .ok (some inputs) ∧
        bound = ⟨delegationGeneration P identity inputs, .delegation inputs.govComm, []⟩ := by
  unfold generationForDelegation completeGenerationForDelegation
  constructor
  · intro h
    obtain ⟨result, hresult, h⟩ := except_bind_eq_ok.mp h
    obtain ⟨_, htarget, hresult⟩ := except_bind_eq_ok.mp hresult
    obtain ⟨_, hcontext, hresult⟩ := except_bind_eq_ok.mp hresult
    obtain ⟨inputs, hinputs, hresult⟩ := except_bind_eq_ok.mp hresult
    cases inputs with
    | none => cases except_pure_eq_ok.mp hresult; simp at h
    | some inputs =>
      cases except_pure_eq_ok.mp hresult
      cases except_pure_eq_ok.mp h
      exact ⟨of_decide_eq_true (check_eq_ok.mp htarget), hcontext, inputs, hinputs, rfl⟩
  · rintro ⟨htarget, hcontext, inputs, hinputs, rfl⟩
    simp only [htarget, hcontext, hinputs]
    rfl

theorem generatedFrom_delegation {bound : BoundGeneration}
    (h : generationForDelegation P db identity = .ok bound) :
    GeneratedFrom P identity bound.generation := by
  obtain ⟨htarget, -, inputs, -, rfl⟩ := generationForDelegation_eq_ok.mp h
  exact ⟨.delegation inputs, by rw [htarget]; trivial, rfl⟩

theorem generatedFrom_importedDelegation {imported : BoundGeneration × CandidateTransactionHash}
    (h : generationForImportedDelegation P db identity = .ok imported) :
    GeneratedFrom P identity imported.1.generation := by
  unfold generationForImportedDelegation at h
  obtain ⟨_, htarget, h⟩ := except_bind_eq_ok.mp h
  obtain ⟨_, -, h⟩ := except_bind_eq_ok.mp h
  dsimp only at h
  split at h
  · split at h
    · next govComm candidate _ _ _ =>
      obtain ⟨commitment, -, h⟩ := except_bind_eq_ok.mp h
      cases except_pure_eq_ok.mp h
      exact ⟨.importedDelegation commitment candidate,
        by rw [of_decide_eq_true (check_eq_ok.mp htarget)]; trivial, rfl⟩
    · simp at h
  · simp at h

theorem generatedFrom_singletonVote {validated : BoundGeneration × VoteRecoveryBundle}
    (h : validatedSingletonVote P db identity = .ok validated) :
    GeneratedFrom P identity validated.1.generation := by
  unfold validatedSingletonVote at h
  split at h
  · next proposalId htarget =>
    obtain ⟨_, -, h⟩ := except_bind_eq_ok.mp h
    obtain ⟨recovery, -, h⟩ := except_bind_eq_ok.mp h
    obtain ⟨_, -, h⟩ := except_bind_eq_ok.mp h
    cases except_pure_eq_ok.mp h
    exact ⟨.vote recovery, by rw [htarget]; trivial, rfl⟩
  · simp at h

/-- A batch is hashed with its delegation exactly when it carries one. -/
theorem generatedFrom_batchGeneration {combinedVan : Option Bytes32} {expectedAnchor : Nat}
    {recoveries : List VoteRecoveryBundle} {generation : ChainSubmissionGeneration}
    {digest : Bytes32} (hbatch : identity.target.batchDigest = some digest)
    (hkind : combinedVan.isSome = identity.target.isCombined)
    (h : batchGeneration P db identity combinedVan expectedAnchor recoveries = .ok generation) :
    GeneratedFrom P identity generation := by
  unfold batchGeneration at h
  split at h
  · obtain ⟨inputs, -, h⟩ := except_bind_eq_ok.mp h
    split at h
    · next inputs =>
      obtain ⟨_, -, h⟩ := except_bind_eq_ok.mp h
      cases except_pure_eq_ok.mp h
      refine ⟨.delegateAndVoteBatch inputs recoveries, ?_, rfl⟩
      cases htarget : identity.target <;>
        simp_all [GenerationInputs.Matches, ChainSubmissionTarget.isCombined]
    · simp at h
  · cases except_pure_eq_ok.mp h
    refine ⟨.voteBatch recoveries, ?_, rfl⟩
    cases htarget : identity.target <;>
      simp_all [GenerationInputs.Matches, ChainSubmissionTarget.isCombined,
        ChainSubmissionTarget.batchDigest]

theorem generatedFrom_voteBatch {validated : BoundGeneration × List VoteRecoveryBundle}
    (h : validatedVoteBatch P db identity = .ok validated) :
    GeneratedFrom P identity validated.1.generation := by
  unfold validatedVoteBatch at h
  split at h
  · next digest hdigest =>
    obtain ⟨_, -, h⟩ := except_bind_eq_ok.mp h
    obtain ⟨recoveries, -, h⟩ := except_bind_eq_ok.mp h
    obtain ⟨_, hkind, h⟩ := except_bind_eq_ok.mp h
    obtain ⟨proposalIds, -, h⟩ := except_bind_eq_ok.mp h
    obtain ⟨_, -, h⟩ := except_bind_eq_ok.mp h
    split at h
    · obtain ⟨generation, hgeneration, h⟩ := except_bind_eq_ok.mp h
      cases except_pure_eq_ok.mp h
      exact generatedFrom_batchGeneration P hdigest (by simpa using check_eq_ok.mp hkind)
        hgeneration
    · simp at h
  · simp at h

theorem generatedFrom_deriveDelegation {signature : Bytes64}
    (h : deriveDelegation P db identity signature = .ok derived) :
    GeneratedFrom P identity derived.generation := by
  unfold deriveDelegation at h
  obtain ⟨bound, hbound, h⟩ := except_bind_eq_ok.mp h
  obtain ⟨body, -, h⟩ := except_bind_eq_ok.mp h
  cases except_pure_eq_ok.mp h
  exact generatedFrom_delegation P hbound

theorem generatedFrom_deriveImportedDelegation
    (h : deriveImportedDelegation P db identity = .ok derived) :
    GeneratedFrom P identity derived.generation := by
  unfold deriveImportedDelegation at h
  obtain ⟨imported, himported, h⟩ := except_bind_eq_ok.mp h
  cases except_pure_eq_ok.mp h
  exact generatedFrom_importedDelegation P himported

theorem generatedFrom_deriveVote (h : deriveVote P db identity = .ok derived) :
    GeneratedFrom P identity derived.generation := by
  unfold deriveVote at h
  obtain ⟨validated, hvalidated, h⟩ := except_bind_eq_ok.mp h
  obtain ⟨body, -, h⟩ := except_bind_eq_ok.mp h
  cases except_pure_eq_ok.mp h
  exact generatedFrom_singletonVote P hvalidated

theorem generatedFrom_deriveVoteBatch (h : deriveVoteBatch P db identity = .ok derived) :
    GeneratedFrom P identity derived.generation := by
  unfold deriveVoteBatch at h
  obtain ⟨validated, hvalidated, h⟩ := except_bind_eq_ok.mp h
  obtain ⟨bodies, -, h⟩ := except_bind_eq_ok.mp h
  split at h
  · obtain ⟨delegation, -, h⟩ := except_bind_eq_ok.mp h
    obtain ⟨authorized, -, h⟩ := except_bind_eq_ok.mp h
    obtain ⟨_, -, h⟩ := except_bind_eq_ok.mp h
    cases except_pure_eq_ok.mp h
    exact generatedFrom_voteBatch P hvalidated
  · cases except_pure_eq_ok.mp h
    exact generatedFrom_voteBatch P hvalidated

end

end

end ZcashVoting
