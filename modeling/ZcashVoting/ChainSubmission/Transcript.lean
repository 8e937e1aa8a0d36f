import ZcashVoting.ChainSubmission.Store.Runs

/-!
# ZcashVoting.ChainSubmission.Transcript

The byte string that is hashed into a generation digest, taken apart again.

A field is a tag and a value, each behind its length; a sequence is a count and
its elements.  Whoever reads a transcript from the front knows at every field
which tag comes next, so every part delimits itself (`Framing.Determines`) and the
whole string determines the identity and the inputs it was made of — all of them
but the two that are left out of it: the position a vote is confirmed at and the
initial VAN of a combined batch.
-/

namespace ZcashVoting

open Framing Transaction

/-! ## Texts -/

theorem utf8_injective : Function.Injective utf8 := by
  intro a b h
  have hdata : a.toUTF8.data = b.toUTF8.data := Array.toList_inj.mp h
  exact String.toByteArray_inj.mp (ByteArray.ext hdata)

theorem utf8_ofList (cs : List Char) :
    utf8 (String.ofList cs) = cs.flatMap String.utf8EncodeChar := by
  simp [utf8, List.utf8Encode]

/-- A character takes at most four bytes. -/
theorem length_utf8_ofList_le (cs : List Char) :
    (utf8 (String.ofList cs)).length ≤ 4 * cs.length := by
  simp only [utf8_ofList]
  induction cs with
  | nil => rfl
  | cons c cs ih =>
    have hc := Char.utf8Size_le_four c
    simp only [List.flatMap_cons, List.length_append, String.length_utf8EncodeChar,
      List.length_cons]
    omega

theorem digitChar_inj : ∀ a < 16, ∀ b < 16, Nat.digitChar a = Nat.digitChar b → a = b := by decide

/-- Lowercase hex tells byte strings of one length apart. -/
theorem hex_inj {a b : Bytes} (hlength : a.length = b.length) (h : hex a = hex b) : a = b := by
  have hchars := String.ofList_injective h
  refine (flatMap_append_inj (fun _ => True) (fun _ => ()) ?_ a b ?_ (by simp) (by simp) [] []
    (by simpa using hchars)).1
  · intro x y _ _ _ s t h
    simp only [List.cons_append, List.nil_append, List.cons.injEq] at h
    obtain ⟨hhigh, hlow, hrest⟩ := h
    have hx := x.toNat_lt
    have hy := y.toNat_lt
    have := digitChar_inj (x.toNat / 16) (by omega) (y.toNat / 16) (by omega) hhigh
    have := digitChar_inj (x.toNat % 16) (by omega) (y.toNat % 16) (by omega) hlow
    exact ⟨UInt8.toNat_inj.mp (by omega), hrest⟩
  · simp [hlength]

/-! ## Fields -/

/-- `field`: one field as it is hashed. -/
def fieldBytes (field : String × Bytes) : Bytes := framed 2 (utf8 field.1) ++ framed 8 field.2

/-- Fields one after the other. -/
def fieldsBytes (fields : List (String × Bytes)) : Bytes := fields.flatMap fieldBytes

/-- A value whose length fits its eight bytes. -/
def FitsField (value : Bytes) : Prop := value.length < 256 ^ 8

instance (value : Bytes) : Decidable (FitsField value) :=
  inferInstanceAs (Decidable (value.length < 256 ^ 8))

@[simp] theorem fieldsBytes_append (a b : List (String × Bytes)) :
    fieldsBytes (a ++ b) = fieldsBytes a ++ fieldsBytes b := List.flatMap_append

theorem GenerationTranscript.bytes_eq (transcript : GenerationTranscript) :
    transcript.bytes = utf8 transcript.domain ++ fieldsBytes transcript.fields := rfl

/-- Fields with the same tags are read back value by value. -/
theorem fieldsBytes_inj {xs ys : List (String × Bytes)} {s t : Bytes}
    (h : fieldsBytes xs ++ s = fieldsBytes ys ++ t) (htags : xs.map (·.1) = ys.map (·.1))
    (hxs : ∀ field ∈ xs, FitsField field.2) (hys : ∀ field ∈ ys, FitsField field.2) :
    xs = ys ∧ s = t := by
  refine flatMap_append_inj (fun field => FitsField field.2) (·.1) ?_ xs ys htags hxs hys s t h
  rintro ⟨tag, v⟩ ⟨tag', w⟩ htag hv hw s t h
  cases htag
  simp only [fieldBytes, List.append_assoc, List.append_cancel_left_eq] at h
  obtain ⟨rfl, hrest⟩ := determines_framed 8 hv hw h
  exact ⟨rfl, hrest⟩

/-- A fixed-width integer fits a field. -/
@[simp] theorem fitsField_beBytes (width n : Nat) (h : width ≤ 8) :
    FitsField (beBytes width n) := by
  rw [FitsField, length_beBytes]
  exact h.trans_lt (by decide)

@[simp] theorem fitsField_bytes32 (value : Bytes32) : FitsField value.val := by
  rw [FitsField, value.property]
  decide

@[simp] theorem fitsField_bytes64 (value : Bytes64) : FitsField value.val := by
  rw [FitsField, value.property]
  decide

@[simp] theorem fitsField_byte (byte : UInt8) : FitsField [byte] := by
  rw [FitsField, List.length_singleton]
  decide

@[simp] theorem fitsField_hex (value : Bytes32) : FitsField (utf8 (hex value.val)) := by
  have hchars := length_utf8_ofList_le (value.val.flatMap fun b =>
    [Nat.digitChar (b.toNat / 16), Nat.digitChar (b.toNat % 16)])
  rw [FitsField, hex]
  simp [List.length_flatMap, value.property] at hchars
  exact hchars.trans_lt (by decide)

/-- A counted sequence of self-delimiting elements delimits itself. -/
theorem determines_sequence {α γ : Type} (tag : String) {ok : α → Prop}
    {encode : Nat → α → List (String × Bytes)} {key : α → γ}
    (helement : ∀ index, Determines ok (fun x => fieldsBytes (encode index x)) key) :
    Determines (fun xs => xs.length < 256 ^ 4 ∧ ∀ x ∈ xs, ok x)
      (fun xs => fieldsBytes (transcriptSequence tag xs encode)) (List.map key) := by
  intro xs ys hxs hys s t h
  have hcons : ∀ xs : List α, fieldsBytes (transcriptSequence tag xs encode) =
      fieldsBytes [(tag ++ ".count", beBytes 4 xs.length)] ++
        xs.zipIdx.flatMap fun entry => fieldsBytes (encode entry.2 entry.1) := by
    intro xs
    simp [transcriptSequence, fieldsBytes, List.flatMap_assoc]
  simp only [hcons, List.append_assoc] at h
  obtain ⟨hcount, hrest⟩ := fieldsBytes_inj h rfl
    (by simp) (by simp)
  have hlength : xs.length = ys.length := by
    simp only [List.cons.injEq, Prod.mk.injEq, true_and, and_true] at hcount
    exact beBytes_inj hxs.1 hys.1 hcount
  exact Determines.zipIdx helement xs ys 0 hlength hxs.2 hys.2 s t hrest

/-- Elements that are one field each. -/
theorem determines_field {α γ : Type} (ok : α → Prop) (tag : String) {value : α → Bytes}
    {key : α → γ} (hfits : ∀ x, ok x → FitsField (value x))
    (hkey : ∀ x y, ok x → ok y → value x = value y → key x = key y) :
    Determines ok (fun x => fieldsBytes [(tag, value x)]) key := by
  intro x y hx hy s t h
  have h : fieldsBytes [(tag, value x)] ++ s = fieldsBytes [(tag, value y)] ++ t := h
  obtain ⟨hvalue, hrest⟩ := fieldsBytes_inj h rfl (by simpa using hfits x hx)
    (by simpa using hfits y hy)
  simp only [List.cons.injEq, Prod.mk.injEq, true_and, and_true] at hvalue
  exact ⟨hkey x y hx hy hvalue, hrest⟩

theorem determines_field_bytes32 (tag : String) :
    Determines (fun _ : Bytes32 => True) (fun x => fieldsBytes [(tag, x.val)]) id :=
  determines_field _ tag (fun x _ => fitsField_bytes32 x) fun _ _ _ _ h => Subtype.ext h

theorem determines_field_nat (width : Nat) (hwidth : width ≤ 8) (tag : String) :
    Determines (· < 256 ^ width) (fun n => fieldsBytes [(tag, beBytes width n)]) id :=
  determines_field _ tag (fun n _ => fitsField_beBytes width n hwidth) fun _ _ hx hy h =>
    beBytes_inj hx hy h

/-! ## Identities -/

/-- The wallet's name fits a field. -/
def ChainSubmissionIdentity.Fits (identity : ChainSubmissionIdentity) : Prop :=
  FitsField (utf8 identity.walletId)

/-- The value of the `identity.kind` field. -/
def ChainSubmissionTarget.kindName : ChainSubmissionTarget → String
  | .delegation => "delegation"
  | .vote _ => "vote"
  | .voteBatch _ => "vote_batch"
  | .delegateAndVoteBatch _ => "delegate_and_cast_vote_batch"

/-- The fields that follow the kind. -/
def ChainSubmissionTarget.tailFields : ChainSubmissionTarget → List (String × Bytes)
  | .delegation => []
  | .vote proposalId => [("identity.proposal_id", beBytes 4 proposalId)]
  | .voteBatch digest | .delegateAndVoteBatch digest =>
    [("identity.ordered_batch_digest", digest.val)]

theorem hashIdentity_eq (identity : ChainSubmissionIdentity) :
    hashIdentity identity =
      [("identity.wallet_id", utf8 identity.walletId),
        ("identity.network", utf8 (networkName identity.network)),
        ("identity.vote_round_id", identity.voteRoundId.val.val),
        ("identity.bundle_index", beBytes 4 identity.bundleIndex),
        ("identity.kind", utf8 identity.target.kindName)] ++ identity.target.tailFields := by
  unfold hashIdentity
  cases identity.target <;> rfl

/-- Short texts fit a field. -/
@[simp] theorem fitsField_kindName (target : ChainSubmissionTarget) :
    FitsField (utf8 target.kindName) := by
  have hnames : ∀ name ∈ ["delegation", "vote", "vote_batch", "delegate_and_cast_vote_batch"],
      FitsField (utf8 name) := by decide +kernel
  exact hnames _ (by cases target <;> simp [ChainSubmissionTarget.kindName])

@[simp] theorem fitsField_networkName (network : Network) :
    FitsField (utf8 (networkName network)) := by
  cases network <;> decide +kernel

/-- Targets of one kind are told apart by the fields that follow it. -/
theorem tailFields_inj {a b : ChainSubmissionTarget} (ha : a.Valid) (hb : b.Valid)
    (hkind : a.kindName = b.kindName) {s t : Bytes}
    (h : fieldsBytes a.tailFields ++ s = fieldsBytes b.tailFields ++ t) : a = b ∧ s = t := by
  have digest_inj : ∀ {x y : Bytes32},
      fieldsBytes [("identity.ordered_batch_digest", x.val)] ++ s =
        fieldsBytes [("identity.ordered_batch_digest", y.val)] ++ t → x = y ∧ s = t :=
    fun {x y} h => determines_field_bytes32 _ trivial trivial h
  cases a <;> cases b <;>
    simp only [ChainSubmissionTarget.kindName, String.reduceEq] at hkind
  · exact ⟨rfl, by simpa [ChainSubmissionTarget.tailFields, fieldsBytes] using h⟩
  · next p q =>
    have small : ∀ {n : Nat}, n ≤ maxProposalId → n < 256 ^ 4 := fun h =>
      h.trans_lt (by decide)
    obtain ⟨rfl, hrest⟩ := determines_field_nat 4 (by decide) "identity.proposal_id" (small ha.2)
      (small hb.2) h
    exact ⟨rfl, hrest⟩
  · obtain ⟨rfl, hrest⟩ := digest_inj h
    exact ⟨rfl, hrest⟩
  · obtain ⟨rfl, hrest⟩ := digest_inj h
    exact ⟨rfl, hrest⟩

theorem determines_identity :
    Determines ChainSubmissionIdentity.Fits (fun identity => fieldsBytes (hashIdentity identity))
      id := by
  intro a b ha hb s t h
  simp only [hashIdentity_eq, fieldsBytes_append, List.append_assoc] at h
  obtain ⟨hfields, h⟩ := fieldsBytes_inj h rfl (by simpa [ChainSubmissionIdentity.Fits] using ha)
    (by simpa [ChainSubmissionIdentity.Fits] using hb)
  simp only [List.cons.injEq, Prod.mk.injEq, true_and, and_true] at hfields
  obtain ⟨hwallet, hnetwork, hround, hbundle, hkind⟩ := hfields
  obtain ⟨htarget, hrest⟩ := tailFields_inj a.target_valid b.target_valid (utf8_injective hkind) h
  have hindex := beBytes_inj (a.bundleIndex_le.trans_lt (by decide))
    (b.bundleIndex_le.trans_lt (by decide)) hbundle
  refine ⟨?_, hrest⟩
  obtain ⟨walletA, networkA, roundA, indexA, targetA, _, _, _⟩ := a
  obtain ⟨walletB, networkB, roundB, indexB, targetB, _, _, _⟩ := b
  cases utf8_injective hwallet
  cases networkName_injective (utf8_injective hnetwork)
  cases Subtype.ext (Subtype.ext hround)
  cases hindex
  cases htarget
  rfl

/-! ## Delegations -/

/-- The inputs of a delegation within the ranges of the code's types: counts and
`u32` values in four bytes, `u64` values and lengths in eight. -/
structure DelegationGenerationInputs.Fits (inputs : DelegationGenerationInputs) : Prop where
  notePositions : inputs.notePositions.length < 256 ^ 4 ∧
    ∀ position ∈ inputs.notePositions, position < 256 ^ 8
  noteIdentityHashes : inputs.noteIdentityHashes.length < 256 ^ 4
  dummyNullifiers : inputs.dummyNullifiers.length < 256 ^ 4
  paddedNoteData : inputs.paddedNoteData.length < 256 ^ 4
  totalNoteValue : inputs.totalNoteValue < 256 ^ 8
  addressIndex : inputs.addressIndex < 256 ^ 4
  govNullifiers : inputs.govNullifiers.length < 256 ^ 4
  paddedNoteSecrets : inputs.paddedNoteSecrets.length < 256 ^ 4
  tx1Effects : FitsField inputs.tx1Effects
  proof : FitsField inputs.proof

/-- A sequence of 32-byte values. -/
theorem determines_sequence_bytes32 (tag : String) (elementTag : Nat → String) :
    Determines (fun xs : List Bytes32 => xs.length < 256 ^ 4)
      (fun xs => fieldsBytes (transcriptSequence tag xs fun index x => [(elementTag index, x.val)]))
      id := by
  intro xs ys hxs hys s t h
  have hsequence := determines_sequence tag
    (fun index => determines_field_bytes32 (elementTag index))
    ⟨hxs, fun _ _ => trivial⟩ ⟨hys, fun _ _ => trivial⟩ h
  simpa using hsequence

theorem determines_paddedNoteSecret (index : Nat) :
    Determines (fun _ : Bytes32 × Bytes32 => True)
      (fun secret => fieldsBytes [(s!"delegation.padded_note_secrets.{index}.rho", secret.1.val),
        (s!"delegation.padded_note_secrets.{index}.rseed", secret.2.val)]) id := by
  rintro ⟨rho, rseed⟩ ⟨rho', rseed'⟩ _ _ s t h
  obtain ⟨hfields, hrest⟩ := fieldsBytes_inj h rfl (by simp) (by simp)
  simp only [List.cons.injEq, Prod.mk.injEq, true_and, and_true] at hfields
  obtain ⟨hrho, hrseed⟩ := hfields
  exact ⟨Prod.ext (Subtype.ext hrho) (Subtype.ext hrseed), hrest⟩

theorem determines_delegationInputs :
    Determines DelegationGenerationInputs.Fits
      (fun inputs => fieldsBytes (hashDelegationInputs inputs)) id := by
  intro a b ha hb s t h
  simp only [hashDelegationInputs, fieldsBytes_append, List.append_assoc] at h
  obtain ⟨hpositions, h⟩ := determines_sequence "delegation.note_positions"
    (fun index => determines_field_nat 8 (by decide) s!"delegation.note_positions.{index}")
    ha.notePositions hb.notePositions h
  obtain ⟨hhashes, h⟩ := determines_sequence_bytes32 _ _ ha.noteIdentityHashes
    hb.noteIdentityHashes h
  obtain ⟨hvanCommRand, h⟩ := determines_field_bytes32 _ trivial trivial h
  obtain ⟨hdummies, h⟩ := determines_sequence_bytes32 _ _ ha.dummyNullifiers hb.dummyNullifiers h
  obtain ⟨hrho, h⟩ := determines_field_bytes32 _ trivial trivial h
  obtain ⟨hpadded, h⟩ := determines_sequence_bytes32 _ _ ha.paddedNoteData hb.paddedNoteData h
  obtain ⟨hmiddle, h⟩ := fieldsBytes_inj h rfl (by simp) (by simp)
  obtain ⟨hnullifiers, h⟩ := determines_sequence_bytes32 _ _ ha.govNullifiers hb.govNullifiers h
  obtain ⟨hsecrets, h⟩ := determines_sequence "delegation.padded_note_secrets"
    determines_paddedNoteSecret ⟨ha.paddedNoteSecrets, fun _ _ => trivial⟩
    ⟨hb.paddedNoteSecrets, fun _ _ => trivial⟩ h
  obtain ⟨hlast, h⟩ := fieldsBytes_inj h rfl (by simp [ha.tx1Effects, ha.proof])
    (by simp [hb.tx1Effects, hb.proof])
  refine ⟨?_, h⟩
  simp only [List.cons.injEq, Prod.mk.injEq, true_and, and_true, List.map_id] at *
  obtain ⟨hnf, hcmx, halpha, hrseedSigned, hrseedOutput, hgovComm, hvalue, haddress, hrk⟩ := hmiddle
  obtain ⟨hsighash, heffects, hproof⟩ := hlast
  have hvalue := beBytes_inj ha.totalNoteValue hb.totalNoteValue hvalue
  have haddress := beBytes_inj ha.addressIndex hb.addressIndex haddress
  obtain ⟨⟩ := a
  obtain ⟨⟩ := b
  simp_all [Subtype.ext_iff]

/-! ## Votes -/

/-- An encrypted share within the ranges of the code's types. -/
structure EncryptedShare.Fits (share : EncryptedShare) : Prop where
  c1 : FitsField share.c1
  c2 : FitsField share.c2
  shareIndex : share.shareIndex < 256 ^ 4
  plaintextValue : share.plaintextValue < 256 ^ 8
  randomness : FitsField share.randomness

/-- A recovery within the ranges of the code's types. -/
structure VoteRecoveryBundle.Fits (recovery : VoteRecoveryBundle) : Prop where
  bundleIndex : recovery.bundleIndex < 256 ^ 4
  proposalId : recovery.proposalId < 256 ^ 4
  voteDecision : recovery.voteDecision < 256 ^ 4
  anchorHeight : recovery.anchorHeight < 256 ^ 4
  numOptions : recovery.numOptions < 256 ^ 4
  proof : FitsField recovery.proof
  encryptedShares : recovery.encryptedShares.length < 256 ^ 4 ∧
    ∀ share ∈ recovery.encryptedShares, share.Fits
  shareBlinds : recovery.shareBlinds.length < 256 ^ 4
  shareComms : recovery.shareComms.length < 256 ^ 4
  batch : ∀ batch, recovery.batch = some batch → batch.index < 256 ^ 4 ∧ batch.size < 256 ^ 4

/-- What a generation binds of a recovery: everything but the position the vote is
confirmed at and the initial VAN of a combined batch. -/
def VoteRecoveryBundle.semantic (recovery : VoteRecoveryBundle) : VoteRecoveryBundle :=
  { recovery with
    vcTreePosition := 0
    batch := recovery.batch.map fun batch => { batch with delegationVan := none } }

theorem determines_encryptedShare (tag : String) :
    Determines EncryptedShare.Fits (fun share => fieldsBytes (hashEncryptedShare tag share)) id := by
  rintro ⟨c1, c2, index, value, randomness⟩ ⟨c1', c2', index', value', randomness'⟩ ha hb s t h
  obtain ⟨hfields, hrest⟩ := fieldsBytes_inj h rfl
    (by simp [hashEncryptedShare, ha.c1, ha.c2, ha.randomness])
    (by simp [hashEncryptedShare, hb.c1, hb.c2, hb.randomness])
  simp only [hashEncryptedShare, List.cons.injEq, Prod.mk.injEq, true_and, and_true] at hfields
  obtain ⟨rfl, rfl, hindex, hvalue, rfl⟩ := hfields
  cases beBytes_inj ha.shareIndex hb.shareIndex hindex
  cases beBytes_inj ha.plaintextValue hb.plaintextValue hvalue
  exact ⟨rfl, hrest⟩

/-- The fields of a recovery's batch membership. -/
def batchFields (tag : String) : Option VoteBatchRecovery → List (String × Bytes)
  | none => [(s!"{tag}.batch", utf8 "singleton")]
  | some batch =>
    [(s!"{tag}.batch", utf8 "member"), (s!"{tag}.batch.digest", batch.digest.val),
      (s!"{tag}.batch.index", beBytes 4 batch.index),
      (s!"{tag}.batch.size", beBytes 4 batch.size)]

/-- A singleton is not read as a member. -/
theorem singleton_ne_member (tag : String) (batch : VoteBatchRecovery) (s t : Bytes) :
    fieldsBytes (batchFields tag none) ++ s ≠ fieldsBytes (batchFields tag (some batch)) ++ t := by
  intro h
  have hsingleton : FitsField (utf8 "singleton") := by decide +kernel
  have hmember : FitsField (utf8 "member") := by decide +kernel
  have hhead : batchFields tag (some batch) =
      [(s!"{tag}.batch", utf8 "member")] ++ (batchFields tag (some batch)).tail := rfl
  rw [batchFields, hhead, fieldsBytes_append, List.append_assoc] at h
  obtain ⟨hkind, -⟩ := fieldsBytes_inj h rfl (by simp [hsingleton]) (by simp [hmember])
  simp only [List.cons.injEq, Prod.mk.injEq, true_and, and_true] at hkind
  simp [utf8_injective.eq_iff] at hkind

/-- Batch membership: the kind, then what a member has. -/
theorem determines_batch (tag : String) :
    Determines (fun batch : Option VoteBatchRecovery =>
        ∀ b, batch = some b → b.index < 256 ^ 4 ∧ b.size < 256 ^ 4)
      (fun batch => fieldsBytes (batchFields tag batch))
      (Option.map fun b => { b with delegationVan := none }) := by
  intro a b ha hb s t h
  have hmember : FitsField (utf8 "member") := by decide +kernel
  cases a with
  | none =>
    cases b with
    | none => exact ⟨rfl, List.append_cancel_left h⟩
    | some b => exact absurd h (singleton_ne_member tag b s t)
  | some a =>
    cases b with
    | none => exact absurd h.symm (singleton_ne_member tag a t s)
    | some b =>
      obtain ⟨hfields, hrest⟩ := fieldsBytes_inj h rfl (by simp [batchFields, hmember])
        (by simp [batchFields, hmember])
      simp only [batchFields, List.cons.injEq, Prod.mk.injEq, true_and, and_true] at hfields
      obtain ⟨hdigest, hindex, hsize⟩ := hfields
      have hindex := beBytes_inj (ha a rfl).1 (hb b rfl).1 hindex
      have hsize := beBytes_inj (ha a rfl).2 (hb b rfl).2 hsize
      exact ⟨by simp [Subtype.ext hdigest, hindex, hsize], hrest⟩

/-- The fields of a recovery before its sequences. -/
def recoveryFields (tag : String) (recovery : VoteRecoveryBundle) : List (String × Bytes) :=
  [(s!"{tag}.vote_round_id", utf8 (hex recovery.voteRoundId.val.val)),
    (s!"{tag}.bundle_index", beBytes 4 recovery.bundleIndex),
    (s!"{tag}.proposal_id", beBytes 4 recovery.proposalId),
    (s!"{tag}.vote_decision", beBytes 4 recovery.voteDecision),
    (s!"{tag}.anchor_height", beBytes 4 recovery.anchorHeight),
    (s!"{tag}.single_share", [if recovery.singleShare then 1 else 0]),
    (s!"{tag}.num_options", beBytes 4 recovery.numOptions),
    (s!"{tag}.van_nullifier", recovery.vanNullifier.val),
    (s!"{tag}.vote_authority_note_new", recovery.voteAuthorityNoteNew.val),
    (s!"{tag}.vote_commitment", recovery.voteCommitment.val),
    (s!"{tag}.proof", recovery.proof),
    (s!"{tag}.shares_hash", recovery.sharesHash.val),
    (s!"{tag}.r_vpk", recovery.rVpk.val),
    (s!"{tag}.alpha_v", recovery.alphaV.val),
    (s!"{tag}.vote_auth_sig", recovery.voteAuthSig.val)]

theorem hashVoteRecovery_eq (tag : String) (recovery : VoteRecoveryBundle) :
    hashVoteRecovery tag recovery = recoveryFields tag recovery ++
      transcriptSequence s!"{tag}.encrypted_shares" recovery.encryptedShares
        (fun index share => hashEncryptedShare s!"{tag}.encrypted_shares.{index}" share) ++
      transcriptSequence s!"{tag}.share_blinds" recovery.shareBlinds
        (fun index blind => [(s!"{tag}.share_blinds.{index}", blind.val)]) ++
      transcriptSequence s!"{tag}.share_comms" recovery.shareComms
        (fun index commitment => [(s!"{tag}.share_comms.{index}", commitment.val)]) ++
      batchFields tag recovery.batch := by
  unfold hashVoteRecovery
  cases recovery.batch <;> rfl

theorem semantic_ext {tag : String} {a b : VoteRecoveryBundle} (ha : a.Fits) (hb : b.Fits)
    (hfields : recoveryFields tag a = recoveryFields tag b)
    (hshares : a.encryptedShares = b.encryptedShares) (hblinds : a.shareBlinds = b.shareBlinds)
    (hcomms : a.shareComms = b.shareComms)
    (hbatch : a.semantic.batch = b.semantic.batch) : a.semantic = b.semantic := by
  simp only [recoveryFields, List.cons.injEq, Prod.mk.injEq, true_and, and_true] at hfields
  obtain ⟨hround, hbundle, hproposal, hdecision, hanchor, hsingle, hoptions, hnullifier, hnote,
    hcommitment, hproof, hhash, hvpk, halpha, hsig⟩ := hfields
  have hround := hex_inj (by rw [a.voteRoundId.val.property, b.voteRoundId.val.property])
    (utf8_injective hround)
  have hbundle := beBytes_inj ha.bundleIndex hb.bundleIndex hbundle
  have hproposal := beBytes_inj ha.proposalId hb.proposalId hproposal
  have hdecision := beBytes_inj ha.voteDecision hb.voteDecision hdecision
  have hanchor := beBytes_inj ha.anchorHeight hb.anchorHeight hanchor
  have hoptions := beBytes_inj ha.numOptions hb.numOptions hoptions
  have hsingle : a.singleShare = b.singleShare := by
    cases ha : a.singleShare <;> cases hb : b.singleShare <;> simp_all
  obtain ⟨⟩ := a
  obtain ⟨⟩ := b
  simp_all [VoteRecoveryBundle.semantic, Subtype.ext_iff]

/-- A recovery determines everything a generation binds of it. -/
theorem determines_voteRecovery (tag : String) :
    Determines VoteRecoveryBundle.Fits (fun recovery => fieldsBytes (hashVoteRecovery tag recovery))
      VoteRecoveryBundle.semantic := by
  intro a b ha hb s t h
  have h : fieldsBytes (hashVoteRecovery tag a) ++ s = fieldsBytes (hashVoteRecovery tag b) ++ t := h
  simp only [hashVoteRecovery_eq, fieldsBytes_append, List.append_assoc] at h
  obtain ⟨hfields, h⟩ := fieldsBytes_inj h rfl (by simp [recoveryFields, ha.proof])
    (by simp [recoveryFields, hb.proof])
  obtain ⟨hshares, h⟩ := determines_sequence s!"{tag}.encrypted_shares"
    (fun index => determines_encryptedShare s!"{tag}.encrypted_shares.{index}")
    ha.encryptedShares hb.encryptedShares h
  obtain ⟨hblinds, h⟩ := determines_sequence_bytes32 _ _ ha.shareBlinds hb.shareBlinds h
  obtain ⟨hcomms, h⟩ := determines_sequence_bytes32 _ _ ha.shareComms hb.shareComms h
  obtain ⟨hbatch, h⟩ := determines_batch tag ha.batch hb.batch h
  refine ⟨?_, h⟩
  rw [List.map_id, List.map_id] at hshares
  exact semantic_ext ha hb hfields hshares hblinds hcomms hbatch

/-! ## Generations -/

namespace GenerationInputs

/-- Inputs within the ranges of the code's types. -/
def Fits : GenerationInputs → Prop
  | .delegation inputs => inputs.Fits
  | .importedDelegation .. => True
  | .vote recovery => recovery.Fits
  | .voteBatch recoveries => recoveries.length < 256 ^ 4 ∧ ∀ recovery ∈ recoveries, recovery.Fits
  | .delegateAndVoteBatch inputs recoveries =>
    inputs.Fits ∧ recoveries.length < 256 ^ 4 ∧ ∀ recovery ∈ recoveries, recovery.Fits

/-- What a generation binds of its inputs. -/
def semantic : GenerationInputs → GenerationInputs
  | .vote recovery => .vote recovery.semantic
  | .voteBatch recoveries => .voteBatch (recoveries.map (·.semantic))
  | .delegateAndVoteBatch inputs recoveries =>
    .delegateAndVoteBatch inputs (recoveries.map (·.semantic))
  | inputs => inputs

end GenerationInputs

/-- What a generation digest is computed from: an identity and inputs of its kind,
within the ranges of the code's types. -/
structure GenerationSource where
  identity : ChainSubmissionIdentity
  inputs : GenerationInputs
  kinds_match : inputs.Matches identity.target
  identity_fits : identity.Fits
  inputs_fit : inputs.Fits

/-- The byte string that is hashed. -/
def GenerationSource.bytes (source : GenerationSource) : Bytes :=
  source.inputs.bytes source.identity

theorem determines_votes :
    Determines (fun recoveries : List VoteRecoveryBundle => recoveries.length < 256 ^ 4 ∧
        ∀ recovery ∈ recoveries, recovery.Fits)
      (fun recoveries => fieldsBytes (hashVotes recoveries)) (List.map (·.semantic)) :=
  determines_sequence "votes" fun index => determines_voteRecovery s!"votes.{index}"

/-- The fields of a recovery do not show what a generation leaves out. -/
theorem hashVoteRecovery_semantic (tag : String) (recovery : VoteRecoveryBundle) :
    hashVoteRecovery tag recovery.semantic = hashVoteRecovery tag recovery := by
  simp only [hashVoteRecovery_eq]
  cases h : recovery.batch <;> simp [VoteRecoveryBundle.semantic, recoveryFields, batchFields, h]

theorem hashVotes_semantic (recoveries : List VoteRecoveryBundle) :
    hashVotes (recoveries.map (·.semantic)) = hashVotes recoveries := by
  simp [hashVotes, transcriptSequence, List.zipIdx_map, List.flatMap_map, hashVoteRecovery_semantic]

theorem GenerationInputs.fields_semantic (inputs : GenerationInputs) :
    inputs.semantic.fields = inputs.fields := by
  cases inputs with
  | delegation | importedDelegation => rfl
  | vote recovery => exact hashVotes_semantic [recovery]
  | voteBatch recoveries => exact hashVotes_semantic recoveries
  | delegateAndVoteBatch inputs recoveries =>
    simp [semantic, fields, hashVotes_semantic recoveries]

theorem GenerationInputs.domain_semantic (inputs : GenerationInputs) :
    inputs.semantic.domain = inputs.domain := by
  cases inputs <;> rfl

/-- The two domains differ before either ends. -/
theorem domains_ne (s t : Bytes) :
    utf8 generationDomainV1 ++ s ≠ utf8 importedDelegationDomainV1 ++ t := by
  intro h
  have htake := congrArg (List.take 31) h
  rw [List.take_append_of_le_length (by decide +kernel),
    List.take_append_of_le_length (by decide +kernel)] at htake
  exact absurd htake (by decide +kernel)

theorem GenerationSource.domain_eq {a b : GenerationSource} (h : a.bytes = b.bytes) :
    a.inputs.domain = b.inputs.domain := by
  have two : ∀ inputs : GenerationInputs, inputs.domain = generationDomainV1 ∨
      inputs.domain = importedDelegationDomainV1 := by
    intro inputs
    cases inputs <;> simp [GenerationInputs.domain]
  simp only [bytes, GenerationInputs.bytes, GenerationTranscript.bytes_eq] at h
  rcases two a.inputs with ha | ha <;> rcases two b.inputs with hb | hb <;> rw [ha, hb] at h ⊢
  · exact absurd h (domains_ne _ _)
  · exact absurd h.symm (domains_ne _ _)

theorem matches_delegation {inputs : GenerationInputs} (h : inputs.Matches .delegation) :
    (∃ d, inputs = .delegation d) ∨ ∃ govComm hash, inputs = .importedDelegation govComm hash := by
  cases inputs <;> simp_all [GenerationInputs.Matches]

theorem matches_vote {inputs : GenerationInputs} {proposalId : Nat}
    (h : inputs.Matches (.vote proposalId)) : ∃ recovery, inputs = .vote recovery := by
  cases inputs <;> simp_all [GenerationInputs.Matches]

theorem matches_voteBatch {inputs : GenerationInputs} {digest : Bytes32}
    (h : inputs.Matches (.voteBatch digest)) : ∃ recoveries, inputs = .voteBatch recoveries := by
  cases inputs <;> simp_all [GenerationInputs.Matches]

theorem matches_delegateAndVoteBatch {inputs : GenerationInputs} {digest : Bytes32}
    (h : inputs.Matches (.delegateAndVoteBatch digest)) :
    ∃ d recoveries, inputs = .delegateAndVoteBatch d recoveries := by
  cases inputs <;> simp_all [GenerationInputs.Matches]

/-- Inputs of one kind and domain with the same fields are bound alike. -/
theorem GenerationInputs.semantic_eq {target : ChainSubmissionTarget} {a b : GenerationInputs}
    (ha : a.Matches target) (hb : b.Matches target) (hdomain : a.domain = b.domain)
    (hfitsA : a.Fits) (hfitsB : b.Fits) (h : fieldsBytes a.fields ++ [] = fieldsBytes b.fields ++ []) :
    a.semantic = b.semantic := by
  have domain_ne : generationDomainV1 ≠ importedDelegationDomainV1 := by decide +kernel
  cases target with
  | delegation =>
    rcases matches_delegation ha with ⟨d, rfl⟩ | ⟨govComm, hash, rfl⟩ <;>
      rcases matches_delegation hb with ⟨e, rfl⟩ | ⟨govComm', hash', rfl⟩
    · exact congrArg delegation (determines_delegationInputs hfitsA hfitsB h).1
    · exact absurd hdomain domain_ne
    · exact absurd hdomain.symm domain_ne
    · obtain ⟨hfields, -⟩ := fieldsBytes_inj h rfl (by simp [fields]) (by simp [fields])
      simp only [fields, List.cons.injEq, Prod.mk.injEq, true_and, and_true] at hfields
      rw [Subtype.ext hfields.1, Subtype.ext hfields.2]
  | vote proposalId =>
    obtain ⟨r, rfl⟩ := matches_vote ha
    obtain ⟨q, rfl⟩ := matches_vote hb
    have hr : r.Fits := hfitsA
    have hq : q.Fits := hfitsB
    have hvotes := (determines_votes ⟨by simp, by simp [hr]⟩ ⟨by simp, by simp [hq]⟩ h).1
    simpa [semantic] using hvotes
  | voteBatch digest =>
    obtain ⟨rs, rfl⟩ := matches_voteBatch ha
    obtain ⟨qs, rfl⟩ := matches_voteBatch hb
    rw [semantic, semantic, (determines_votes hfitsA hfitsB h).1]
  | delegateAndVoteBatch digest =>
    obtain ⟨d, rs, rfl⟩ := matches_delegateAndVoteBatch ha
    obtain ⟨e, qs, rfl⟩ := matches_delegateAndVoteBatch hb
    simp only [fields, fieldsBytes_append, List.append_assoc] at h
    obtain ⟨hinputs, h⟩ := determines_delegationInputs hfitsA.1 hfitsB.1 h
    rw [semantic, semantic, (determines_votes hfitsA.2 hfitsB.2 h).1, show d = e from hinputs]

/-- The transcript of a generation is a faithful record of it.  Every digest that
is derived is the hash of the transcript of the identity asked for and of inputs of
its kind; and two transcripts are equal only if they are of one identity and of
inputs that differ at most in the positions votes are confirmed at and in the
initial VANs of combined batches. -/
theorem transcript_injective :
    (∀ (P : Primitives) (request : SubmissionDerivationRequest) (db : Db)
        (derived : DerivedChainSubmission), derive P request db = .ok derived →
      ∃ inputs : GenerationInputs, inputs.Matches request.identity.target ∧
        derived.generation = ⟨request.identity, P.sha256 (inputs.bytes request.identity)⟩) ∧
    ∀ a b : GenerationSource, a.bytes = b.bytes ↔
      a.identity = b.identity ∧ a.inputs.semantic = b.inputs.semantic := by
  refine ⟨fun P request db derived h => generatedFrom_derive h, fun a b => ⟨fun h => ?_, ?_⟩⟩
  · have hdomain := GenerationSource.domain_eq h
    simp only [GenerationSource.bytes, GenerationInputs.bytes, GenerationTranscript.bytes_eq,
      hdomain, fieldsBytes_append, List.append_cancel_left_eq] at h
    obtain ⟨hidentity, h⟩ := determines_identity a.identity_fits b.identity_fits h
    exact ⟨hidentity, GenerationInputs.semantic_eq a.kinds_match
      (by have := b.kinds_match; rwa [← show a.identity = b.identity from hidentity] at this)
      hdomain a.inputs_fit b.inputs_fit (by simpa using h)⟩
  · rintro ⟨hidentity, hsemantic⟩
    simp only [GenerationSource.bytes, GenerationInputs.bytes, hidentity]
    rw [← a.inputs.domain_semantic, ← a.inputs.fields_semantic, hsemantic,
      b.inputs.domain_semantic, b.inputs.fields_semantic]

/-- An imported delegation of the sample. -/
def importedSource (hash : CandidateTransactionHash) : GenerationSource where
  identity := sampleIdentity 0
  inputs := .importedDelegation (Bytes32.fill 4) hash
  kinds_match := trivial
  identity_fits := by unfold ChainSubmissionIdentity.Fits FitsField; decide +kernel
  inputs_fit := trivial

/-- The imported delegation of the sample is derived, from a transcript that determines the
transaction. -/
theorem transcript_injective_imported :
    (derive samplePrimitives (sampleRequest 0).derivation sampleDb).isOk = true ∧
      (∀ derived, derive samplePrimitives (sampleRequest 0).derivation sampleDb = .ok derived →
        ∃ inputs : GenerationInputs, inputs.Matches (sampleRequest 0).derivation.identity.target ∧
          derived.generation = ⟨(sampleRequest 0).derivation.identity,
            samplePrimitives.sha256 (inputs.bytes (sampleRequest 0).derivation.identity)⟩) ∧
      ∀ hash, (importedSource hash).bytes = (importedSource sampleHash).bytes ↔
        hash = sampleHash := by
  refine ⟨by decide +kernel, transcript_injective.1 _ _ _, fun hash => ?_⟩
  rw [transcript_injective.2]
  simp [importedSource, GenerationInputs.semantic]

end ZcashVoting
