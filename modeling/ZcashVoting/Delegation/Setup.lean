import ZcashVoting.ChainSubmission.Confirmation

/-!
# ZcashVoting.Delegation.Setup

The delegation setup of a bundle: the columns that reproduce its voting weight, the
evidence that the delegation may already be on chain, and the statements that write,
replace, clear or delete the setup.
-/

namespace ZcashVoting

open Transaction

/-! ## Broadcast evidence -/

/-- `DelegationBroadcastEvidence`. -/
inductive DelegationBroadcastEvidence where
  | delegationTxHash
  | vanLeafPosition
  | chainSubmission
  | vote
  | shareDelegation
  deriving DecidableEq

def DelegationBroadcastEvidence.asStr : DelegationBroadcastEvidence → String
  | .delegationTxHash => "a delegation transaction hash"
  | .vanLeafPosition => "a VAN leaf position"
  | .chainSubmission => "a chain submission"
  | .vote => "a vote"
  | .shareDelegation => "a delivered helper share"

/-- `BundleScope`: which bundles of a round an evidence check covers. -/
inductive BundleScope where
  | round
  | one (bundleIndex : Nat)
  | suffix (fromIndex : Nat)
  deriving DecidableEq

/-- `BundleScope::filter`. -/
def BundleScope.covers : BundleScope → Nat → Bool
  | .round, _ => true
  | .one index, bundleIndex => bundleIndex = index
  | .suffix index, bundleIndex => index ≤ bundleIndex

/-- The key is of the round and in the scope. -/
def BundleScope.filter (scope : BundleScope) (round : RoundKey) (key : BundleKey) : Bool :=
  key.round = round && scope.covers key.bundleIndex

/-- `first_broadcast_evidence`: the ordered checks, each the first row it finds. -/
def firstBroadcastEvidence (db : Db) (round : RoundKey) (scope : BundleScope) :
    Option (Nat × DelegationBroadcastEvidence) :=
  let checks : List (Option BundleKey × DelegationBroadcastEvidence) := [
    ((db.bundles.rows.find? fun (key, row) =>
      scope.filter round key && row.delegationTxHash.isSome).map (·.1), .delegationTxHash),
    ((db.bundles.rows.find? fun (key, row) =>
      scope.filter round key && row.vanLeafPosition.isSome).map (·.1), .vanLeafPosition),
    ((db.chainSubmissions.rows.find? fun (key, _) =>
      scope.filter round key.bundleKey).map (·.1.bundleKey), .chainSubmission),
    ((db.votes.rows.find? fun (key, _) => scope.filter round key.bundle).map (·.1.bundle), .vote),
    ((db.shareDelegations.rows.find? fun (key, _) =>
      scope.filter round key.vote.bundle).map (·.1.vote.bundle), .shareDelegation)]
  checks.findSome? fun (found, evidence) => found.map fun key => (key.bundleIndex, evidence)

/-- `already_broadcast`. -/
def alreadyBroadcast (round : RoundKey) (bundleIndex : Nat)
    (evidence : DelegationBroadcastEvidence) (action : String) : VotingError :=
  let name := hex round.roundId.val.val
  let found := evidence.asStr
  .delegationAlreadyBroadcast bundleIndex s!"{found} for round {name}, refusing to {action}"

/-- Refuse the action where the scope shows evidence. -/
def refuseIfBroadcast (round : RoundKey) (scope : BundleScope) (action : String) (db : Db) :
    Except VotingError Unit :=
  match firstBroadcastEvidence db round scope with
  | some (index, evidence) => .error (alreadyBroadcast round index evidence action)
  | none => .ok ()

/-! ## Writing the setup -/

/-- `TX1_EFFECTS_LEN`. -/
def tx1EffectsLen : Nat := 1 + 1 * (5 * 32 + 580 + 80)

/-- `validate_tx1_effects`; the version is 1. -/
def validateTx1Effects (effects : Bytes) : Except VotingError Unit := do
  let length := effects.length
  let version := effects.headD 0
  check (length = tx1EffectsLen)
    (.invalidInput s!"tx1_effects must be {tx1EffectsLen} bytes, got {length}")
  check (version = 1)
    (.invalidInput s!"unsupported tx1_effects version: expected 1, got {version}")

/-- What a setup call is given. -/
structure DelegationSetup where
  vanCommRand : Bytes
  dummyNullifiers : List Bytes
  rhoSigned : Bytes
  paddedCmx : List Bytes
  nfSigned : Bytes
  cmxNew : Bytes
  alpha : Bytes
  rseedSigned : Bytes
  rseedOutput : Bytes
  govComm : Bytes
  totalNoteValue : Nat
  addressIndex : Nat
  paddedNoteSecrets : List (Bytes × Bytes)
  pcztSighash : Bytes
  tx1Effects : Bytes

/-- The exact transaction and the public inputs derived from it. -/
structure DelegationPcztFields where
  delegationPczt : Bytes
  rk : Bytes
  govNullifiers : List Bytes

/-- The arguments of `store_delegation_setup_within`, with the blobs encoded. -/
structure EncodedSetup where
  vanCommRand : Bytes
  dummyBlob : Bytes
  rhoSigned : Bytes
  paddedBlob : Bytes
  nfSigned : Bytes
  cmxNew : Bytes
  alpha : Bytes
  rseedSigned : Bytes
  rseedOutput : Bytes
  govComm : Bytes
  totalNoteValue : Nat
  addressIndex : Nat
  secretsBlob : Bytes
  pcztSighash : Bytes
  tx1Effects : Option Bytes
  delegationPczt : Option Bytes
  rk : Option Bytes
  govNullifiersBlob : Option Bytes

/-- `encode_padded_note_secrets`. -/
def encodePaddedNoteSecrets (paddedNoteSecrets : List (Bytes × Bytes)) : Bytes :=
  paddedNoteSecrets.flatMap fun (rho, rseed) => rho ++ rseed

/-- The blobs of a setup, with the transaction fields if the caller has them. -/
def DelegationSetup.encode (setup : DelegationSetup) (pczt : Option DelegationPcztFields) :
    EncodedSetup where
  vanCommRand := setup.vanCommRand
  dummyBlob := setup.dummyNullifiers.flatten
  rhoSigned := setup.rhoSigned
  paddedBlob := setup.paddedCmx.flatten
  nfSigned := setup.nfSigned
  cmxNew := setup.cmxNew
  alpha := setup.alpha
  rseedSigned := setup.rseedSigned
  rseedOutput := setup.rseedOutput
  govComm := setup.govComm
  totalNoteValue := setup.totalNoteValue
  addressIndex := setup.addressIndex
  secretsBlob := encodePaddedNoteSecrets setup.paddedNoteSecrets
  pcztSighash := setup.pcztSighash
  tx1Effects := some setup.tx1Effects
  delegationPczt := pczt.map (·.delegationPczt)
  rk := pczt.map (·.rk)
  govNullifiersBlob := pczt.map (·.govNullifiers.flatten)

/-- The `UPDATE` of a setup write: the binding is replaced, the secrets, the sighash, the
effects and the transaction are only filled in, and the public inputs are replaced when
given. -/
def BundleRow.withSetup (row : BundleRow) (setup : EncodedSetup) : BundleRow :=
  { row with
    vanCommRand := some setup.vanCommRand
    dummyNullifiers := some setup.dummyBlob
    rhoSigned := some setup.rhoSigned
    paddedNoteData := some setup.paddedBlob
    nfSigned := some setup.nfSigned
    cmxNew := some setup.cmxNew
    alpha := some setup.alpha
    rseedSigned := some setup.rseedSigned
    rseedOutput := some setup.rseedOutput
    govComm := some setup.govComm
    totalNoteValue := some setup.totalNoteValue
    addressIndex := some setup.addressIndex
    paddedNoteSecrets := row.paddedNoteSecrets.or (some setup.secretsBlob)
    pcztSighash := row.pcztSighash.or (some setup.pcztSighash)
    tx1Effects := row.tx1Effects.or setup.tx1Effects
    delegationPczt := row.delegationPczt.or setup.delegationPczt
    rk := setup.rk.or row.rk
    govNullifiersBlob := setup.govNullifiersBlob.or row.govNullifiersBlob }

/-- `write_changes_nothing`: the columns the code compares before a write.  The secrets,
the sighash and the effects are not among them. -/
def writeChangesNothing (row : BundleRow) (setup : EncodedSetup) : Bool :=
  row.vanCommRand = some setup.vanCommRand ∧
  row.dummyNullifiers = some setup.dummyBlob ∧
  row.rhoSigned = some setup.rhoSigned ∧
  row.paddedNoteData = some setup.paddedBlob ∧
  row.nfSigned = some setup.nfSigned ∧
  row.cmxNew = some setup.cmxNew ∧
  row.alpha = some setup.alpha ∧
  row.rseedSigned = some setup.rseedSigned ∧
  row.rseedOutput = some setup.rseedOutput ∧
  row.govComm = some setup.govComm ∧
  row.totalNoteValue = some setup.totalNoteValue ∧
  row.addressIndex = some setup.addressIndex ∧
  row.delegationPczt = setup.delegationPczt.or row.delegationPczt ∧
  (setup.rk.isNone ∨ row.rk = setup.rk) ∧
  (setup.govNullifiersBlob.isNone ∨ row.govNullifiersBlob = setup.govNullifiersBlob)

/-- The bundle a setup is written to. -/
def loadSetupRow (bundle : BundleKey) (db : Db) : Except VotingError BundleRow :=
  let round := hex bundle.roundId.val.val
  let index := bundle.bundleIndex
  match db.bundles.lookup bundle with
  | some row => .ok row
  | none => .error (.invalidInput s!"bundle not found: round={round}, bundle={index}")

/-- The write-once checks: a stored value may only be offered again. -/
def checkSetupWriteOnce (bundle : BundleKey) (row : BundleRow) (setup : EncodedSetup) :
    Except VotingError Unit := do
  let persisted := VotingError.setupAlreadyPersisted (hex bundle.roundId.val.val) bundle.bundleIndex
  check (row.paddedNoteSecrets.all (· = setup.secretsBlob)) (persisted .paddedNoteSecrets)
  check (row.pcztSighash.all (· = setup.pcztSighash)) (persisted .pcztSighash)
  check (row.tx1Effects.all fun stored => setup.tx1Effects.all (stored = ·)) (persisted .tx1Effects)
  check (row.delegationPczt.isNone || setup.delegationPczt.isSome) (persisted .delegationPczt)
  check (row.delegationPczt.all fun stored => setup.delegationPczt.all (stored = ·))
    (persisted .delegationPczt)

/-- `store_delegation_setup_within`.  Where the exact transaction is already stored the
whole setup is, and nothing is written. -/
def storeDelegationSetupWithin (bundle : BundleKey) (setup : EncodedSetup) :
    Txn Db VotingError Unit := do
  let row ← read (loadSetupRow bundle)
  read fun _ => checkSetupWriteOnce bundle row setup
  if row.delegationPczt.isSome then return ()
  else if writeChangesNothing row setup then
    write fun db => .ok { db with bundles := db.bundles.insert bundle (row.withSetup setup) }
  else do
    read (refuseIfBroadcast bundle.round (.one bundle.bundleIndex) "replace delegation setup")
    write fun db => .ok { db with bundles := db.bundles.insert bundle (row.withSetup setup) }
    clearCombinedRejectionLedger bundle

/-- `store_delegation_data_inner`. -/
def storeDelegationDataInner (bundle : BundleKey) (setup : DelegationSetup)
    (pczt : Option DelegationPcztFields) : Txn Db VotingError Unit := do
  read fun _ => validateTx1Effects setup.tx1Effects
  storeDelegationSetupWithin bundle (setup.encode pczt)

/-- `store_delegation_data`. -/
def storeDelegationData (bundle : BundleKey) (setup : DelegationSetup) : Txn Db VotingError Unit :=
  storeDelegationDataInner bundle setup none

/-- `store_delegation_data_with_pczt_fields`. -/
def storeDelegationDataWithPcztFields (bundle : BundleKey) (setup : DelegationSetup)
    (pczt : DelegationPcztFields) : Txn Db VotingError Unit :=
  storeDelegationDataInner bundle setup (some pczt)

/-! ## Clearing the setup -/

/-- The setup columns set to `NULL`. -/
def BundleRow.withoutSetup (row : BundleRow) : BundleRow :=
  { row with
    vanCommRand := none
    dummyNullifiers := none
    rhoSigned := none
    paddedNoteData := none
    nfSigned := none
    cmxNew := none
    alpha := none
    rseedSigned := none
    rseedOutput := none
    govComm := none
    totalNoteValue := none
    addressIndex := none
    rk := none
    govNullifiersBlob := none
    paddedNoteSecrets := none
    pcztSighash := none
    delegationPczt := none
    tx1Effects := none }

/-- Some submission of the bundle exists. -/
def Db.hasSubmission (db : Db) (bundle : BundleKey) : Bool :=
  db.chainSubmissions.any fun key _ => key.bundleKey = bundle

/-- Some vote of the bundle exists. -/
def Db.hasVote (db : Db) (bundle : BundleKey) : Bool :=
  db.votes.any fun key _ => key.bundle = bundle

/-- Some helper share of the bundle exists. -/
def Db.hasShare (db : Db) (bundle : BundleKey) : Bool :=
  db.shareDelegations.any fun key _ => key.vote.bundle = bundle

/-- `unbroadcast_guard`: the row is in the scope and shows no evidence. -/
def unbroadcastGuard (round : RoundKey) (bundleIndex : Option Nat) (db : Db) (bundle : BundleKey) :
    Bool :=
  bundle.round = round && bundleIndex.all (bundle.bundleIndex = ·) &&
    (db.bundles.lookup bundle).any fun row =>
      row.delegationTxHash.isNone && row.vanLeafPosition.isNone &&
        !db.hasSubmission bundle && !db.hasVote bundle && !db.hasShare bundle

/-- `discard_unbroadcast_delegation_setup_within`: five statements under one guard; the
number of bundles cleared. -/
def discardUnbroadcastDelegationSetupWithin (round : RoundKey) (bundleIndex : Option Nat) :
    Txn Db VotingError Nat := do
  let unbroadcast := unbroadcastGuard round bundleIndex
  let cleared ← read fun db =>
    .ok (db.bundles.rows.countP fun (key, _) => unbroadcast db key)
  write fun db => .ok { db with
    bundles := db.bundles.mapRows fun key row =>
      if unbroadcast db key then row.withoutSetup else row }
  write fun db => .ok { db with
    proofs := db.proofs.retain fun key _ => !unbroadcast db key }
  write fun db => .ok { db with
    keystoneSignatures := db.keystoneSignatures.retain fun key _ => !unbroadcast db key }
  write fun db => .ok { db with
    witnesses := db.witnesses.retain fun key _ => !unbroadcast db key.1 }
  write fun db => .ok { db with
    combinedCastRejections := db.combinedCastRejections.retain fun key _ => !unbroadcast db key }
  return cleared

/-- `discard_unbroadcast_delegation_setup`. -/
def discardUnbroadcastDelegationSetup (round : RoundKey) (bundleIndex : Option Nat) :
    Txn Db VotingError Nat :=
  discardUnbroadcastDelegationSetupWithin round bundleIndex

/-- `replace_unbroadcast_delegation_setup`: the check, the discard and the replacement in
one transaction. -/
def replaceUnbroadcastDelegationSetup (bundle : BundleKey) (setup : DelegationSetup)
    (pczt : DelegationPcztFields) : Txn Db VotingError Unit := do
  read fun _ => validateTx1Effects setup.tx1Effects
  read (refuseIfBroadcast bundle.round (.one bundle.bundleIndex) "replace delegation setup")
  let _ ← discardUnbroadcastDelegationSetupWithin bundle.round (some bundle.bundleIndex)
  storeDelegationSetupWithin bundle (setup.encode (some pczt))

/-- The rows that `clear_unsigned_delegation_setup_fields` clears: locally prepared, not
submitted, neither proved nor signed.  Votes and shares are not asked about. -/
def unsignedGuard (round : RoundKey) (db : Db) (bundle : BundleKey) (row : BundleRow) : Bool :=
  bundle.round = round && row.notePositionsBlob.isSome && row.delegationTxHash.isNone &&
    row.vanLeafPosition.isNone && !(db.proofs.lookup bundle).any (·.success) &&
    (db.keystoneSignatures.lookup bundle).isNone && !db.hasSubmission bundle

/-- `clear_unsigned_delegation_setup_fields`. -/
def clearUnsignedDelegationSetupFields (round : RoundKey) : Txn Db VotingError Unit :=
  write fun db => .ok { db with
    bundles := db.bundles.mapRows fun key row =>
      if unsignedGuard round db key row then row.withoutSetup else row }

/-! ## Deleting bundles and rounds -/

/-- Delete bundles, with the rows that reference them. -/
def Db.deleteBundles (db : Db) (condition : BundleKey → Bool) : Db :=
  { db with
    bundles := db.bundles.retain fun key _ => !condition key
    proofs := db.proofs.retain fun key _ => !condition key
    witnesses := db.witnesses.retain fun key _ => !condition key.1
    votes := db.votes.retain fun key _ => !condition key.bundle
    keystoneSignatures := db.keystoneSignatures.retain fun key _ => !condition key
    shareDelegations := db.shareDelegations.retain fun key _ => !condition key.vote.bundle
    helperSharePlans := db.helperSharePlans.retain fun key _ => !condition key.bundle
    roundImmediateShare := db.roundImmediateShare.retain fun round key =>
      !condition ⟨round.roundId, round.walletId, key.bundleIndex⟩ }

/-- Delete a round, with everything that references it. -/
def Db.deleteRound (db : Db) (round : RoundKey) : Db :=
  let db := db.deleteBundles fun key => key.round = round
  { db with
    rounds := db.rounds.erase round
    ballotIntent := db.ballotIntent.retain fun key _ => key.1 ≠ round
    chainSubmissions := db.chainSubmissions.retain fun key _ => key.bundleKey.round ≠ round
    delegateCastRecovery := db.delegateCastRecovery.retain fun key _ => key.1.round ≠ round
    combinedCastRejections := db.combinedCastRejections.retain fun key _ => key.round ≠ round }

/-- `round_has_imported_capability_bundles`. -/
def roundHasImportedCapabilityBundles (db : Db) (round : RoundKey) : Bool :=
  db.bundles.any fun key row => key.round = round && row.notePositionsBlob.isNone

/-- `delete_bundles_from`: the number of bundles deleted.  A round left without bundles
forgets its bundle policy. -/
def deleteBundlesFrom (round : RoundKey) (fromIndex : Nat) : Txn Db VotingError Nat := do
  let name := hex round.roundId.val.val
  read fun db => check (!roundHasImportedCapabilityBundles db round) (.invalidInput
    s!"imported capability round {name} cannot delete bundles independently; clear the round before importing a complete replacement capability")
  read (refuseIfBroadcast round (.suffix fromIndex) "prune bundles")
  let deleted := (BundleScope.suffix fromIndex).filter round
  let rows ← read fun db => .ok (db.bundles.rows.countP fun (key, _) => deleted key)
  write fun db => .ok (db.deleteBundles deleted)
  write fun db => .ok (
    if db.bundles.any fun key _ => key.round = round then db
    else { db with
      rounds := db.rounds.mapRows fun key row =>
        if key = round then { row with bundlePolicyJson := none } else row })
  return rows

/-- `clear_round`: the raw delete. -/
def clearRound (round : RoundKey) : Txn Db VotingError Unit :=
  write fun db => .ok (if (db.rounds.lookup round).isSome then db.deleteRound round else db)

/-- `clear_round_if_unbroadcast`: the evidence that refused the delete, if any. -/
def clearRoundIfUnbroadcast (round : RoundKey) :
    Txn Db VotingError (Option (Nat × DelegationBroadcastEvidence)) := do
  let evidence ← read fun db => .ok (firstBroadcastEvidence db round .round)
  if evidence.isSome then return evidence
  else do
    clearRound round
    return none

end ZcashVoting
