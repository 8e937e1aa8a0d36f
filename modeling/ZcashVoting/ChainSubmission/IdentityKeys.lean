import ZcashVoting.ChainSubmission.Coordination
import ZcashVoting.ChainSubmission.Transcript

/-!
# ZcashVoting.ChainSubmission.IdentityKeys

The two keys of an identity tell identities apart: the primary key of its row, and the key of
its process-local lock.  What follows the wallet's name in a primary key has a few known
lengths, so that the name's length can be read off the key's, however long the name is.
-/

namespace ZcashVoting

open Framing

/-! ## The parts of a primary key -/

/-- The target's part. -/
def ChainSubmissionTarget.keyBytes : ChainSubmissionTarget → Bytes
  | .delegation => [0]
  | .vote proposalId => 1 :: beBytes 4 proposalId
  | .voteBatch digest => 2 :: digest.val
  | .delegateAndVoteBatch digest => 3 :: digest.val

theorem ChainSubmissionTarget.length_keyBytes (target : ChainSubmissionTarget) :
    1 ≤ target.keyBytes.length ∧ target.keyBytes.length ≤ 33 := by
  cases target with
  | delegation => decide
  | vote proposalId => simp [keyBytes]
  | voteBatch digest => simp [keyBytes, digest.property]
  | delegateAndVoteBatch digest => simp [keyBytes, digest.property]

theorem ChainSubmissionTarget.keyBytes_inj {a b : ChainSubmissionTarget} (ha : a.Valid)
    (hb : b.Valid) (h : a.keyBytes = b.keyBytes) : a = b := by
  have hbyte : ∀ {p}, (ChainSubmissionTarget.vote p).Valid → p < 256 ^ 4 := by
    intro p hp
    exact hp.2.trans_lt (by decide)
  cases a <;> cases b <;> simp_all [keyBytes]
  · exact beBytes_inj (hbyte ha) (hbyte hb) h
  · exact Subtype.ext h
  · exact Subtype.ext h

/-- What stands behind the wallet's name. -/
def ChainSubmissionIdentity.keyTail (identity : ChainSubmissionIdentity) : Bytes :=
  framed 8 (utf8 (networkName identity.network)) ++ (framed 8 identity.voteRoundId.val.val ++
    (beBytes 4 identity.bundleIndex ++ identity.target.keyBytes))

theorem submissionIdentityKey_eq (identity : ChainSubmissionIdentity) :
    submissionIdentityKey identity = utf8 "zcash_voting.chain_submission.identity.v1\x00" ++
      (framed 8 (utf8 identity.walletId) ++ identity.keyTail) := by
  unfold submissionIdentityKey ChainSubmissionIdentity.keyTail
  cases identity.target <;> simp [ChainSubmissionTarget.keyBytes]

theorem ChainSubmissionIdentity.length_keyTail (identity : ChainSubmissionIdentity) :
    60 ≤ identity.keyTail.length ∧ identity.keyTail.length ≤ 92 := by
  have hnetwork : (utf8 (networkName identity.network)).length = 7 := by
    cases identity.network <;> decide +kernel
  have htarget := identity.target.length_keyBytes
  simp only [keyTail, framed, List.length_append, length_beBytes, hnetwork,
    identity.voteRoundId.val.property]
  omega

/-! ## Keys tell identities apart -/

theorem submissionIdentityKey_injective : Function.Injective submissionIdentityKey := by
  intro a b h
  rw [submissionIdentityKey_eq, submissionIdentityKey_eq, List.append_cancel_left_eq] at h
  have ha := a.length_keyTail
  have hb := b.length_keyTail
  obtain ⟨hwallet, htail⟩ := framed_append_inj h (by omega) (by omega)
  unfold ChainSubmissionIdentity.keyTail at htail
  have hsmall : ∀ network : Network, (utf8 (networkName network)).length < 256 ^ 8 := by
    intro network
    cases network <;> decide +kernel
  have hround : ∀ round : VoteRoundId, round.val.val.length < 256 ^ 8 := by
    intro round
    rw [round.val.property]
    decide
  have hindex : ∀ identity : ChainSubmissionIdentity, identity.bundleIndex < 256 ^ 4 :=
    fun identity => identity.bundleIndex_le.trans_lt (by decide)
  obtain ⟨hnetwork, htail⟩ := determines_framed 8 (hsmall _) (hsmall _) htail
  obtain ⟨hround, htail⟩ := determines_framed 8 (hround _) (hround _) htail
  obtain ⟨hindex, htarget⟩ := determines_beBytes 4 (hindex a) (hindex b) htail
  have htarget := ChainSubmissionTarget.keyBytes_inj a.target_valid b.target_valid htarget
  have hwallet := utf8_injective hwallet
  have hnetwork := networkName_injective (utf8_injective hnetwork)
  have hround : a.voteRoundId = b.voteRoundId := Subtype.ext (Subtype.ext hround)
  cases a
  cases b
  simp_all

theorem networkRank_injective : Function.Injective networkRank := by
  intro a b h
  cases a <;> cases b <;> simp_all [networkRank]

/-- The kind and the value of an operation key are the target's part of a primary key. -/
theorem SubmissionOperationKey.fromIdentity_target (identity : ChainSubmissionIdentity) :
    identity.target.keyBytes = UInt8.ofNat (fromIdentity identity).targetKind ::
      (fromIdentity identity).targetValue := by
  unfold fromIdentity
  cases identity.target <;> rfl

theorem SubmissionOperationKey.fromIdentity_injective :
    Function.Injective SubmissionOperationKey.fromIdentity := by
  intro a b h
  have hbundle : (fromIdentity a).bundle = (fromIdentity b).bundle := by rw [h]
  have htarget : a.target = b.target := by
    refine ChainSubmissionTarget.keyBytes_inj a.target_valid b.target_valid ?_
    rw [fromIdentity_target, fromIdentity_target, h]
  simp only [fromIdentity, roundKey, BundleOperationKey.mk.injEq, RoundOperationKey.mk.injEq]
    at hbundle
  obtain ⟨⟨hwallet, hnetwork, hround⟩, hindex⟩ := hbundle
  have hnetwork := networkRank_injective hnetwork
  have hround : a.voteRoundId = b.voteRoundId := Subtype.ext (Subtype.ext hround)
  cases a
  cases b
  simp_all

/-- Identities with one primary key, or with one lock, are one identity. -/
theorem identity_keys_injective :
    Function.Injective submissionIdentityKey ∧
      Function.Injective SubmissionOperationKey.fromIdentity :=
  ⟨submissionIdentityKey_injective, SubmissionOperationKey.fromIdentity_injective⟩

end ZcashVoting
