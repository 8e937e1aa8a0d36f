import ZcashVoting.Lib.Framing
import ZcashVoting.Texts
import ZcashVoting.Vote.Preparation

/-!
# ZcashVoting.VoteCommitment.Sighash

The digests that cast signatures sign: `cast_vote_sighash` for one vote,
`cast_vote_batch_sighash` for an atomic batch and `delegate_and_vote_batch_sighash` for a
batch that also delegates.  Each hashes a domain tag and blocks of 32 bytes.

The tags differ in length, and the blocks stand one after the other with no lengths between
them.  `authorization_eq_of_hashed` says that the hashed string still determines what is
authorized: the tags part before the shortest of them ends, and behind its tag every kind has
one layout for each number of actions.
-/

namespace ZcashVoting

open Framing Transaction

/-! ## Blocks -/

/-- What `extend_padded32` appends. -/
def padded32 (b : Bytes) : Bytes := b.take 32 ++ List.replicate (32 - b.length) 0

/-- What `extend_u32_padded32` and `append_integer` append.  A larger number is cast to `u32`. -/
def u32Padded32 (value : Nat) : Bytes := leBytes 4 value ++ List.replicate 28 0

/-- What `extend_u64_padded32` appends. -/
def u64Padded32 (value : Nat) : Bytes := leBytes 8 value ++ List.replicate 24 0

@[simp] theorem padded32_val (b : Bytes32) : padded32 b.val = b.val := by
  simp [padded32, b.property, List.take_of_length_le]

@[simp] theorem length_u32Padded32 (value : Nat) : (u32Padded32 value).length = 32 := by
  simp [u32Padded32]

@[simp] theorem length_u64Padded32 (value : Nat) : (u64Padded32 value).length = 32 := by
  simp [u64Padded32]

theorem leBytes_inj {width a b : Nat} (ha : a < 256 ^ width) (hb : b < 256 ^ width)
    (h : leBytes width a = leBytes width b) : a = b := by
  rw [← leValue_leBytes ha, h, leValue_leBytes hb]

theorem u32Padded32_inj {a b : Nat} (ha : a ≤ u32Max) (hb : b ≤ u32Max)
    (h : u32Padded32 a = u32Padded32 b) : a = b :=
  leBytes_inj (Nat.lt_succ_of_le ha) (Nat.lt_succ_of_le hb) (List.append_cancel_right h)

theorem u64Padded32_inj {a b : Nat} (ha : a ≤ u64Max) (hb : b ≤ u64Max)
    (h : u64Padded32 a = u64Padded32 b) : a = b :=
  leBytes_inj (Nat.lt_succ_of_le ha) (Nat.lt_succ_of_le hb) (List.append_cancel_right h)

/-! ## The hashed strings -/

/-- `CAST_VOTE_SIGHASH_DOMAIN`. -/
def castVoteSighashDomain : Bytes := utf8 "SVOTE_CAST_VOTE_SIGHASH_V0"

/-- `DOMAIN` of `cast_vote_batch_sighash`. -/
def castVoteBatchSighashDomain : Bytes := utf8 "SVOTE_CAST_VOTE_BATCH_SIGHASH_V1"

/-- `DOMAIN` of `delegate_and_vote_batch_sighash`. -/
def delegateAndVoteBatchSighashDomain : Bytes :=
  utf8 "SVOTE_DELEGATE_AND_CAST_VOTE_BATCH_SIGHASH_V1"

/-- `hex::decode` of a round id, with the crate's own account of a text it refuses. -/
def decodeVoteRoundId (hexError : String → String) (voteRoundIdHex : String) :
    Except VotingError Bytes :=
  match hexBytes voteRoundIdHex.toList with
  | some bytes => .ok bytes
  | none =>
    let error := hexError voteRoundIdHex
    .error (.internal s!"invalid vote_round_id hex: {error}")

/-- `canonical` of `cast_vote_sighash`.  The key is not padded. -/
def castVoteCanonical (hexError : String → String) (voteRoundIdHex : String)
    (rVpk vanNullifier voteAuthorityNoteNew voteCommitment : Bytes) (proposalId anchorHeight : U32) :
    Except VotingError Bytes := do
  let voteRoundId ← decodeVoteRoundId hexError voteRoundIdHex
  return castVoteSighashDomain ++ (padded32 voteRoundId ++ (rVpk ++ (padded32 vanNullifier ++
    (padded32 voteAuthorityNoteNew ++ (padded32 voteCommitment ++
      (u32Padded32 proposalId ++ u64Padded32 anchorHeight))))))

/-- One action of `cast_vote_batch_sighash`. -/
def batchActionBytes (index : Nat) (action : CastVoteBatchSighashAction) : Bytes :=
  u32Padded32 index ++ (padded32 action.rVpk ++ (padded32 action.vanNullifier ++
    (padded32 action.voteAuthorityNoteNew ++ (padded32 action.voteCommitment ++
      u32Padded32 action.proposalId))))

/-- `canonical` of `cast_vote_batch_sighash`. -/
def castVoteBatchCanonical (hexError : String → String) (voteRoundIdHex : String)
    (anchorHeight : U64) (actions : List CastVoteBatchSighashAction) : Except VotingError Bytes := do
  let voteRoundId ← decodeVoteRoundId hexError voteRoundIdHex
  return castVoteBatchSighashDomain ++ (padded32 voteRoundId ++ (u64Padded32 anchorHeight ++
    (u32Padded32 actions.length ++
      actions.zipIdx.flatMap fun (action, index) => batchActionBytes index action)))

/-- The loop of `delegate_and_vote_batch_sighash`.  That a field has 32 bytes is its type. -/
def combinedActionsBytes (proposals : List Nat) (index : Nat) :
    List CastVoteBatchSighashAction → Except VotingError Bytes
  | [] => .ok []
  | action :: actions => do
    validateProposalId action.proposalId
    check (action.proposalId ∉ proposals)
      (.invalidInput "combined batch contains duplicate proposals")
    let rest ← combinedActionsBytes (action.proposalId :: proposals) (index + 1) actions
    return u32Padded32 index ++ (action.rVpk ++ (action.vanNullifier ++
      (action.voteAuthorityNoteNew ++ (action.voteCommitment ++
        u32Padded32 action.proposalId)))) ++ rest

/-- `transcript` of `delegate_and_vote_batch_sighash`. -/
def delegateAndVoteBatchTranscript (roundId delegationVan : Bytes32)
    (actions : List CastVoteBatchSighashAction) : Except VotingError Bytes := do
  check (actions ≠ [] ∧ actions.length ≤ maxVoteBatchActions)
    (.invalidInput "combined batch action count is outside the protocol bounds")
  let bytes ← combinedActionsBytes [] 0 actions
  return delegateAndVoteBatchSighashDomain ++ (roundId ++ (delegationVan ++
    (u32Padded32 actions.length ++ bytes)))

/-- An action of a combined batch is laid out as one of a plain batch. -/
theorem combinedActionsBytes_eq_ok {proposals : List Nat} {index : Nat}
    {actions : List CastVoteBatchSighashAction} {s : Bytes}
    (h : combinedActionsBytes proposals index actions = .ok s) :
    s = (actions.zipIdx index).flatMap fun (action, index) => batchActionBytes index action := by
  induction actions generalizing proposals index s with
  | nil =>
    cases h
    rfl
  | cons action actions ih =>
    rw [combinedActionsBytes] at h
    obtain ⟨_, -, h⟩ := except_bind_eq_ok.mp h
    obtain ⟨_, -, h⟩ := except_bind_eq_ok.mp h
    obtain ⟨rest, hrest, h⟩ := except_bind_eq_ok.mp h
    rw [← except_pure_eq_ok.mp h, ih hrest]
    simp [batchActionBytes, List.zipIdx_cons]

/-! ## What they determine -/

/-- What a signature authorizes, whichever digest it is for. -/
inductive CastAuthorization where
  | vote (round : Bytes32) (anchorHeight : U32) (action : CastVoteBatchSighashAction)
  | batch (round : Bytes32) (anchorHeight : U64) (actions : List CastVoteBatchSighashAction)
  | delegateAndVote (round delegationVan : Bytes32) (actions : List CastVoteBatchSighashAction)

/-- The string is hashed for the authorization: some spelling of the round and the fields of
the actions are handed to the function of its kind. -/
inductive Hashed (hexError : String → String) : CastAuthorization → Bytes → Prop where
  | vote {voteRoundIdHex : String} {round : Bytes32} {anchorHeight : U32}
      {action : CastVoteBatchSighashAction} {s : Bytes}
      (hround : hexBytes voteRoundIdHex.toList = some round.val)
      (hproposal : action.proposalId ≤ u32Max)
      (hs : castVoteCanonical hexError voteRoundIdHex action.rVpk action.vanNullifier
        action.voteAuthorityNoteNew action.voteCommitment ⟨action.proposalId, hproposal⟩
        anchorHeight = .ok s) :
      Hashed hexError (.vote round anchorHeight action) s
  | batch {voteRoundIdHex : String} {round : Bytes32} {anchorHeight : U64}
      {actions : List CastVoteBatchSighashAction} {s : Bytes}
      (hround : hexBytes voteRoundIdHex.toList = some round.val)
      (hproposals : ∀ action ∈ actions, action.proposalId ≤ u32Max)
      (hs : castVoteBatchCanonical hexError voteRoundIdHex anchorHeight actions = .ok s) :
      Hashed hexError (.batch round anchorHeight actions) s
  | delegateAndVote {round delegationVan : Bytes32} {actions : List CastVoteBatchSighashAction}
      {s : Bytes} (hproposals : ∀ action ∈ actions, action.proposalId ≤ u32Max)
      (hs : delegateAndVoteBatchTranscript round delegationVan actions = .ok s) :
      Hashed hexError (.delegateAndVote round delegationVan actions) s

namespace CastAuthorization

/-- The tag of a kind. -/
def domain : CastAuthorization → Bytes
  | .vote .. => castVoteSighashDomain
  | .batch .. => castVoteBatchSighashDomain
  | .delegateAndVote .. => delegateAndVoteBatchSighashDomain

/-- The blocks behind the tag. -/
def blocks : CastAuthorization → Bytes
  | .vote round anchorHeight action =>
    round ++ (action.rVpk ++ (action.vanNullifier ++ (action.voteAuthorityNoteNew ++
      (action.voteCommitment ++ (u32Padded32 action.proposalId ++ u64Padded32 anchorHeight)))))
  | .batch round anchorHeight actions =>
    round ++ (u64Padded32 anchorHeight ++ (u32Padded32 actions.length ++
      actions.zipIdx.flatMap fun (action, index) => batchActionBytes index action))
  | .delegateAndVote round delegationVan actions =>
    round ++ (delegationVan ++ (u32Padded32 actions.length ++
      actions.zipIdx.flatMap fun (action, index) => batchActionBytes index action))

/-- The actions of an authorization. -/
def actions : CastAuthorization → List CastVoteBatchSighashAction
  | .vote _ _ action => [action]
  | .batch _ _ actions | .delegateAndVote _ _ actions => actions

end CastAuthorization

open CastAuthorization

variable {hexError : String → String} {a b : CastAuthorization} {s : Bytes}

theorem decodeVoteRoundId_eq {voteRoundIdHex : String} {round : Bytes32}
    (h : hexBytes voteRoundIdHex.toList = some round.val) :
    decodeVoteRoundId hexError voteRoundIdHex = .ok round.val := by
  rw [decodeVoteRoundId, h]

theorem Hashed.eq_append (h : Hashed hexError a s) : s = a.domain ++ a.blocks := by
  cases h with
  | vote hround hproposal hs =>
    rw [castVoteCanonical, decodeVoteRoundId_eq hround] at hs
    simpa [domain, blocks] using (except_pure_eq_ok.mp hs).symm
  | batch hround hproposals hs =>
    rw [castVoteBatchCanonical, decodeVoteRoundId_eq hround] at hs
    simpa [domain, blocks] using (except_pure_eq_ok.mp hs).symm
  | delegateAndVote hproposals hs =>
    obtain ⟨_, -, hs⟩ := except_bind_eq_ok.mp hs
    obtain ⟨bytes, hbytes, hs⟩ := except_bind_eq_ok.mp hs
    rw [← except_pure_eq_ok.mp hs, combinedActionsBytes_eq_ok hbytes]
    rfl

theorem Hashed.proposalId_le (h : Hashed hexError a s) :
    ∀ action ∈ a.actions, action.proposalId ≤ u32Max := by
  cases h with
  | vote hround hproposal hs => simpa [actions] using hproposal
  | batch hround hproposals hs => exact hproposals
  | delegateAndVote hproposals hs => exact hproposals

/-- The tags part within the length of the shortest. -/
theorem take_domain : castVoteSighashDomain.take 26 ≠ castVoteBatchSighashDomain.take 26 ∧
    castVoteSighashDomain.take 26 ≠ delegateAndVoteBatchSighashDomain.take 26 ∧
    castVoteBatchSighashDomain.take 26 ≠ delegateAndVoteBatchSighashDomain.take 26 := by
  decide +kernel

theorem length_domain : 26 ≤ a.domain.length := by
  cases a <;> exact Nat.le_of_ble_eq_true rfl

/-- Two strings that agree have one tag. -/
theorem take_domain_eq (h : a.domain ++ a.blocks = b.domain ++ b.blocks) :
    a.domain.take 26 = b.domain.take 26 := by
  have htake := congrArg (List.take 26) h
  rwa [List.take_append_of_le_length length_domain, List.take_append_of_le_length length_domain]
    at htake

@[simp] theorem length_batchActionBytes (index : Nat) (action : CastVoteBatchSighashAction) :
    (batchActionBytes index action).length = 192 := by
  simp [batchActionBytes, action.rVpk.property, action.vanNullifier.property,
    action.voteAuthorityNoteNew.property, action.voteCommitment.property]

theorem length_actionsBytes (actions : List CastVoteBatchSighashAction) (start : Nat) :
    ((actions.zipIdx start).flatMap fun (action, index) => batchActionBytes index action).length =
      192 * actions.length := by
  induction actions generalizing start with
  | nil => rfl
  | cons action actions ih =>
    simp only [List.zipIdx_cons, List.flatMap_cons, List.length_append, ih, List.length_cons,
      length_batchActionBytes]
    omega

/-- Blocks of 32 bytes are taken apart one by one. -/
theorem append_inj_val {x y : Bytes32} {s t : Bytes} (h : x.val ++ s = y.val ++ t) :
    x = y ∧ s = t := by
  obtain ⟨hhead, htail⟩ := List.append_inj h (x.property.trans y.property.symm)
  exact ⟨Subtype.ext hhead, htail⟩

/-- One action's bytes determine it. -/
theorem determines_batchActionBytes (index : Nat) :
    Determines (fun action => action.proposalId ≤ u32Max) (batchActionBytes index) id := by
  refine .of_length (by simp) fun a b ha hb h => ?_
  simp only [batchActionBytes, padded32_val] at h
  obtain ⟨hrVpk, h⟩ := append_inj_val (List.append_cancel_left h)
  obtain ⟨hnullifier, h⟩ := append_inj_val h
  obtain ⟨hnote, h⟩ := append_inj_val h
  obtain ⟨hcommitment, h⟩ := append_inj_val h
  have hproposal := u32Padded32_inj ha hb h
  cases a
  cases b
  simp_all

/-- A counted list of actions is determined by its bytes, and so is its length. -/
theorem actions_eq_of_bytes {xs ys : List CastVoteBatchSighashAction}
    (hxs : ∀ action ∈ xs, action.proposalId ≤ u32Max)
    (hys : ∀ action ∈ ys, action.proposalId ≤ u32Max)
    (h : u32Padded32 xs.length ++
        (xs.zipIdx.flatMap fun (action, index) => batchActionBytes index action) =
      u32Padded32 ys.length ++
        ys.zipIdx.flatMap fun (action, index) => batchActionBytes index action) : xs = ys := by
  -- The count is only there modulo `2 ^ 32`, but the bytes themselves are as many as it says.
  obtain ⟨-, hbytes⟩ := List.append_inj h (by simp)
  have hlength := congrArg List.length hbytes
  rw [length_actionsBytes, length_actionsBytes] at hlength
  have hmap := (Determines.zipIdx determines_batchActionBytes xs ys 0 (by omega) hxs hys [] []
    (by simpa using hbytes)).1
  simpa using hmap

theorem vote_eq_of_blocks {round round' : Bytes32} {anchorHeight anchorHeight' : U32}
    {action action' : CastVoteBatchSighashAction} (haction : action.proposalId ≤ u32Max)
    (haction' : action'.proposalId ≤ u32Max)
    (h : (vote round anchorHeight action).blocks = (vote round' anchorHeight' action').blocks) :
    vote round anchorHeight action = vote round' anchorHeight' action' := by
  obtain ⟨hround, h⟩ := append_inj_val h
  obtain ⟨hrVpk, h⟩ := append_inj_val h
  obtain ⟨hnullifier, h⟩ := append_inj_val h
  obtain ⟨hnote, h⟩ := append_inj_val h
  obtain ⟨hcommitment, h⟩ := append_inj_val h
  obtain ⟨hproposal, hanchor⟩ := List.append_inj h (by simp)
  have hproposal := u32Padded32_inj haction haction' hproposal
  have hle : ∀ n : U32, n.val ≤ u64Max := fun n => n.property.trans (by decide)
  have hanchor := Subtype.ext (u64Padded32_inj (hle _) (hle _) hanchor)
  cases action
  cases action'
  simp_all

/-- The hashed string determines the kind of authorization, its round, the anchor height or
the delegation VAN, and the actions in their order. -/
theorem authorization_eq_of_hashed (ha : Hashed hexError a s) (hb : Hashed hexError b s) :
    a = b := by
  have heq := ha.eq_append.symm.trans hb.eq_append
  have hids := ha.proposalId_le
  have hids' := hb.proposalId_le
  have htag := take_domain_eq heq
  obtain ⟨hvoteBatch, hvoteCombined, hbatchCombined⟩ := take_domain
  cases a <;> cases b
  case vote.vote =>
    exact vote_eq_of_blocks (hids _ (by simp [actions])) (hids' _ (by simp [actions]))
      (List.append_cancel_left heq)
  case batch.batch round anchorHeight xs round' anchorHeight' ys =>
    obtain ⟨hround, h⟩ := append_inj_val (List.append_cancel_left heq)
    obtain ⟨hanchor, h⟩ := List.append_inj h (by simp)
    have hanchor := u64Padded32_inj anchorHeight.property anchorHeight'.property hanchor
    have hactions : xs = ys := actions_eq_of_bytes hids hids' h
    rw [hround, Subtype.ext hanchor, hactions]
  case delegateAndVote.delegateAndVote round van xs round' van' ys =>
    obtain ⟨hround, h⟩ := append_inj_val (List.append_cancel_left heq)
    obtain ⟨hvan, h⟩ := append_inj_val h
    have hactions : xs = ys := actions_eq_of_bytes hids hids' h
    rw [hround, hvan, hactions]
  all_goals simp_all [domain]

/-- An authorization to delegate and cast one vote. -/
def sampleDelegateAndVote : CastAuthorization :=
  let zeros : Bytes32 := ⟨List.replicate 32 0, rfl⟩
  .delegateAndVote zeros zeros [⟨zeros, zeros, zeros, zeros, 1⟩]

theorem hashed_sampleDelegateAndVote_unique :
    ∃ s, Hashed (fun _ => "") sampleDelegateAndVote s ∧
      ∀ b, Hashed (fun _ => "") b s → b = sampleDelegateAndVote := by
  have ha : Hashed (fun _ => "") sampleDelegateAndVote _ := .delegateAndVote (by decide) rfl
  exact ⟨_, ha, fun b hb => authorization_eq_of_hashed hb ha⟩

end ZcashVoting
