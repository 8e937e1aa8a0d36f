import ZcashVoting.TreeSync
import ZcashVoting.VoteCommitmentTree.Client.Hostile

/-!
# ZcashVoting.TreeSync.Verified

Witnesses are made at checkpoints whose root a server has served, over any run of syncs and
resets, as long as the client of a round is dropped after a sync of it that met a root that
differs: that sync has recorded the checkpoint before it compared the roots.
-/

namespace ZcashVoting.TreeSync

open Stateful VoteCommitmentTree VoteCommitmentTree.TreeClient

variable {τ σ ε : Type} {tree : ShardTree τ} {hash : VoteHash} {view : τ → TreeView}
  {served : U32 → MerkleHashVote → Prop} {client : TreeClient τ} {mismatched : Prop}

/-! ## Verified checkpoints -/

/-- A page served the root for the height. -/
def AnsweredRoot (log : List PageRequest) (height : U32) (root : MerkleHashVote) : Prop :=
  ∃ request block, Served log request block ∧ block.height = height ∧ block.root = root

/-- Every checkpoint of the client has a root that was served for it. -/
def Verified (hash : VoteHash) (view : τ → TreeView) (served : U32 → MerkleHashVote → Prop)
    (client : TreeClient τ) : Prop :=
  ∀ checkpoint ∈ (view client.inner).checkpoints,
    checkpoint.2 ≤ (view client.inner).leaves.length ∧
      served checkpoint.1 (hash.treeRoot ((view client.inner).leaves.take checkpoint.2))

theorem Verified.mono {served' : U32 → MerkleHashVote → Prop}
    (h : Verified hash view served client) (hle : ∀ height root, served height root →
      served' height root) : Verified hash view served' client :=
  fun checkpoint hmem => ⟨(h checkpoint hmem).1, hle _ _ (h checkpoint hmem).2⟩

theorem Verified.of_empty (lawful : tree.Lawful hash view) (served : U32 → MerkleHashVote → Prop) :
    Verified hash view served (TreeClient.empty tree) := by
  intro checkpoint hmem
  rw [TreeClient.empty, lawful.view_empty] at hmem
  cases hmem

/-- A block whose root is that of the leaves keeps the checkpoints verified. -/
theorem Verified.applied {client' : TreeClient τ}
    {block : SyncApi.BlockCommitments} (h : Verified hash view served client)
    (hcoherent : Coherent view client') (happlied : TreeClient.Applied view client block client')
    (hserved : served block.height (hash.treeRoot (view client'.inner).leaves)) :
    Verified hash view served client' := by
  intro checkpoint hmem
  rcases happlied.checkpoint checkpoint hmem with hold | rfl
  · obtain ⟨hle, hroot⟩ := h checkpoint hold
    rw [happlied.leaves, List.take_append_of_le_length hle, List.length_append]
    exact ⟨by omega, hroot⟩
  · rw [← hcoherent.size, List.take_length]
    exact ⟨le_refl _, hserved⟩

/-- A sync keeps the checkpoints verified, up to a root that differs. -/
theorem verifiedRule (hash : VoteHash) (view : τ → TreeView)
    (served : U32 → MerkleHashVote → Prop) :
    SyncRule hash view
      (fun client log => Verified hash view
        (fun height root => served height root ∨ AnsweredRoot log height root) client)
      (fun _ _ => True) where
  asked client log request h := h.mono fun height root hserved => hserved.imp id <| by
    rintro ⟨request', block, ⟨hmem, hpage⟩, heq⟩
    exact ⟨request', block, ⟨List.mem_append_left _ hmem, hpage⟩, heq⟩
  verified client log request block client' h hblock hcoherent happlied hroot :=
    h.applied hcoherent happlied (.inr ⟨request, block, hblock, rfl, hroot.symm⟩)
  mismatched _ _ _ _ _ _ _ _ _ _ := trivial

/-! ## Rounds -/

/-- The client of a round: coherent, and verified if no sync of it met a root that differs. -/
structure Sound (hash : VoteHash) (view : τ → TreeView) (served : U32 → MerkleHashVote → Prop)
    (mismatched : Prop) (client : TreeClient τ) : Prop where
  coherent : Coherent view client
  verified : ¬mismatched → Verified hash view served client

theorem Sound.mono {served' : U32 → MerkleHashVote → Prop} {mismatched' : Prop}
    (h : Sound hash view served mismatched client)
    (hserved : ∀ height root, served height root → served' height root)
    (hmismatched : mismatched → mismatched') : Sound hash view served' mismatched' client :=
  ⟨h.coherent, fun hclean => (h.verified fun hmet => hclean (hmismatched hmet)).mono hserved⟩

theorem Sound.of_empty (lawful : tree.Lawful hash view) : Sound hash view served mismatched
    (TreeClient.empty tree) :=
  ⟨Coherent.of_empty lawful, fun _ => Verified.of_empty lawful served⟩

theorem Sound.markPositions (h : Sound hash view served mismatched client) (positions : List Nat) :
    Sound hash view served mismatched (positions.foldl TreeClient.markPosition client) := by
  induction positions generalizing client with
  | nil => exact h
  | cons position positions ih => exact ih ⟨h.coherent.markPosition position, h.verified⟩

theorem sound_clientFor (lawful : tree.Lawful hash view) {round : Option (RoundTreeClient τ)}
    (positions : List Nat) (h : ∀ client ∈ round, Sound hash view served mismatched client.client) :
    Sound hash view served mismatched (clientFor tree round positions).client := by
  refine Sound.markPositions ?_ positions
  split
  · exact Sound.of_empty lawful
  · cases round with
    | none => exact Sound.of_empty lawful
    | some client => exact h client rfl

/-- What a sync leaves behind of a round. -/
theorem sound_syncRound (lawful : tree.Lawful hash view) (overflowChecks : Bool)
    (attempt : SyncAttempt σ ε) (entries : List VanTreeEntry) {round : RoundTreeClient τ}
    (h : Sound hash view served mismatched round.client) :
    Sound hash view
      (fun height root => served height root ∨ AnsweredRoot (attempt.log (syncRound tree hash
        overflowChecks attempt.api entries round attempt.server).2.2) height root)
      (mismatched ∨ ∃ failure : Failure ε, (syncRound tree hash overflowChecks attempt.api entries
        round attempt.server).1 = .error failure ∧ failure.isRootMismatch = true)
      (syncRound tree hash overflowChecks attempt.api entries round attempt.server).2.1.client := by
  have hcoherent := syncWithLimits_kept lawful SyncRule.trivial overflowChecks attempt.logs
    SyncLimits.default ⟨round.client, attempt.server⟩ h.coherent True.intro
  have hverified : ¬mismatched → _ := fun hclean =>
    syncWithLimits_kept lawful (verifiedRule hash view served) overflowChecks attempt.logs
      SyncLimits.default ⟨round.client, attempt.server⟩ h.coherent
      ((h.verified hclean).mono fun _ _ => .inl)
  unfold syncRound TreeClient.sync
  cases hsync : syncWithLimits tree hash overflowChecks attempt.api SyncLimits.default
      ⟨round.client, attempt.server⟩ with
  | error fault s =>
    refine ⟨(hcoherent.of_error hsync).coherent, fun hclean => ?_⟩
    rcases ((hverified fun h => hclean (.inl h)).of_error hsync).property with hgood | ⟨hmismatch, -⟩
    · exact hgood
    · -- the root that differs is what the sync returns
      refine absurd (.inr ⟨_, rfl, ?_⟩) hclean
      cases fault with
      | panicked => cases hmismatch
      | failed error => cases error <;> first | rfl | cases hmismatch
  | ok _ s =>
    have hkept : Sound hash view (fun height root => served height root ∨
        AnsweredRoot (attempt.log s.server) height root) mismatched s.client :=
      ⟨(hcoherent.of_ok hsync).coherent, fun hclean => ((hverified hclean).of_ok hsync).property⟩
    dsimp only
    split
    · exact Sound.of_empty lawful
    · exact hkept.mono (fun _ _ h => h) Or.inl
    · exact hkept.mono (fun _ _ h => h) Or.inl

/-! ## Runs -/

/-- The result of a sync is a root that differs. -/
def MetMismatch (result : Except (Failure ε) U32) : Prop :=
  ∃ failure : Failure ε, result = .error failure ∧ failure.isRootMismatch = true

/-- The states that syncs and resets lead to, with the roots that were served for each round, and
the rounds with a sync that met a root that differs and whose client was not dropped since. -/
inductive Run (tree : ShardTree τ) (hash : VoteHash) (overflowChecks : Bool) (σ ε : Type) :
    VoteTreeSync τ → (String → U32 → MerkleHashVote → Prop) → (String → Prop) → Prop
  | start : Run tree hash overflowChecks σ ε {} (fun _ _ _ => False) (fun _ => False)
  | sync {state : VoteTreeSync τ} {served : String → U32 → MerkleHashVote → Prop}
      {mismatched : String → Prop} (roundId : String)
      (entries : Except VotingError (List VanTreeEntry)) (attempt : SyncAttempt σ ε) :
    Run tree hash overflowChecks σ ε state served mismatched →
    Run tree hash overflowChecks σ ε
      (sync tree hash overflowChecks state roundId entries attempt.api attempt.server).2.1
      (fun other height root => served other height root ∨ (other = roundId ∧ AnsweredRoot
        (attempt.log (sync tree hash overflowChecks state roundId entries attempt.api
          attempt.server).2.2) height root))
      (fun other => mismatched other ∨ (other = roundId ∧ MetMismatch
        (sync tree hash overflowChecks state roundId entries attempt.api attempt.server).1))
  | reset {state : VoteTreeSync τ} {served : String → U32 → MerkleHashVote → Prop}
      {mismatched : String → Prop} (roundId : String) :
    Run tree hash overflowChecks σ ε state served mismatched →
    Run tree hash overflowChecks σ ε (reset (ε := ε) state roundId).2 served
      (fun other => mismatched other ∧ (reset (ε := ε) state roundId).2.clients.lookup other ≠ none)

/-- The clients of all rounds are sound. -/
theorem Run.sound (lawful : tree.Lawful hash view) {overflowChecks : Bool} {state : VoteTreeSync τ}
    {served : String → U32 → MerkleHashVote → Prop} {mismatched : String → Prop}
    (h : Run tree hash overflowChecks σ ε state served mismatched) :
    ∀ roundId, ∀ round ∈ state.clients.lookup roundId,
      Sound hash view (served roundId) (mismatched roundId) round.client := by
  induction h with
  | start =>
    intro roundId round hround
    simp at hround
  | @sync state served mismatched roundId entries attempt _ ih =>
    intro other round hround
    unfold TreeSync.sync at hround ⊢
    split at hround
    · next hpoisoned =>
      rw [if_pos hpoisoned]
      exact (ih other round hround).mono (fun _ _ => Or.inl) Or.inl
    · next hpoisoned =>
      rw [if_neg hpoisoned]
      cases entries with
      | error error => exact (ih other round hround).mono (fun _ _ => Or.inl) Or.inl
      | ok entries =>
        dsimp only at hround ⊢
        by_cases hother : other = roundId
        · subst hother
          rw [AList.lookup_insert, Option.mem_some_iff] at hround
          subst hround
          have hround := sound_syncRound lawful overflowChecks attempt entries
            (sound_clientFor lawful (entries.map (·.position)) (ih other))
          exact hround.mono (fun _ _ h => h.imp id fun h => ⟨rfl, h⟩) fun h => h.imp id fun h =>
            ⟨rfl, h⟩
        · rw [AList.lookup_insert_ne hother] at hround
          exact (ih other round hround).mono (fun _ _ => Or.inl) Or.inl
  | @reset state served mismatched roundId _ ih =>
    intro other round hround
    have hbefore : round ∈ state.clients.lookup other := by
      unfold TreeSync.reset at hround
      split at hround
      · simp at hround
      · split at hround
        · exact hround
        · dsimp only at hround
          by_cases hother : other = roundId
          · subst hother
            simp at hround
          · rwa [AList.lookup_erase_ne hother] at hround
    refine (ih other round hbefore).mono (fun _ _ h => h) fun h => ⟨h, ?_⟩
    rw [Option.mem_def.mp hround]
    simp

/-- A VAN witness is made at a checkpoint whose root a server has served for it, in every state
that syncs and resets lead to, unless a sync of the round met a root that differs and the client
has not been dropped since. -/
theorem witness_root_served [FieldRepr] (tree : ShardTree τ) (hash : VoteHash) (view : τ → TreeView)
    (lawful : tree.Lawful hash view) (overflowChecks : Bool) (state : VoteTreeSync τ)
    (served : String → U32 → MerkleHashVote → Prop) (mismatched : String → Prop)
    (hrun : Run tree hash overflowChecks σ ε state served mismatched) (roundId : String)
    (hclean : ¬mismatched roundId) (vanPosition : Except VotingError Nat) (anchorHeight : U32)
    (witness : VanWitness)
    (hwitness : (generateVanWitness tree state roundId vanPosition anchorHeight :
      Except (Failure ε) VanWitness) = .ok witness) :
    ∃ round root, state.clients.lookup roundId = some round ∧
      round.client.rootAtHeight tree anchorHeight = some root ∧ served roundId anchorHeight root := by
  unfold generateVanWitness at hwitness
  split at hwitness
  · cases hwitness
  · cases vanPosition with
    | error error => cases hwitness
    | ok position =>
      dsimp only at hwitness
      cases hround : state.clients.lookup roundId with
      | none => simp [hround] at hwitness
      | some round =>
        simp only [hround] at hwitness
        cases hpath : round.client.witness tree position anchorHeight with
        | none => simp [hpath] at hwitness
        | some path =>
          obtain ⟨leaves, -, hleaves, -, -⟩ := lawful.witness _ _ _ _ hpath
          obtain ⟨checkpoint, hfound, rfl⟩ := Option.map_eq_some_iff.mp hleaves
          have hheight : checkpoint.1 = anchorHeight := by simpa using List.find?_some hfound
          have hsound := hrun.sound lawful roundId round hround
          have hserved := (hsound.verified hclean checkpoint (List.mem_of_find?_eq_some hfound)).2
          rw [hheight] at hserved
          refine ⟨round, _, rfl, ?_, hserved⟩
          rw [TreeClient.rootAtHeight, lawful.root, hleaves, Option.map_some]

/-! ## One block -/

/-- The state after a sync of the first block, whose root is served as the leaf. -/
def syncedFirst (root : MerkleHashVote) :
    Except (Failure Empty) U32 × VoteTreeSync ListTree × List PageRequest :=
  let attempt := recordingAttempt (firstState 5) fun _ => ⟨[{ firstBlock 5 with root }], 0⟩
  sync (listTree leftHash) leftHash true {} "round" (.ok [⟨0, 0, some (sampleLeaf 1)⟩]) attempt.api
    attempt.server

/-- A witness after a sync that ended well: the root at its checkpoint was served. -/
theorem witness_root_served_first_block :
    letI := littleEndian
    (generateVanWitness (listTree leftHash) (syncedFirst (sampleLeaf 1)).2.1 "round" (.ok 0) 5 :
      Except (Failure Empty) VanWitness).isOk = true ∧
    ∃ round root, (syncedFirst (sampleLeaf 1)).2.1.clients.lookup "round" = some round ∧
      round.client.rootAtHeight (listTree leftHash) 5 = some root ∧
      AnsweredRoot (syncedFirst (sampleLeaf 1)).2.2 5 root := by
  let _ := littleEndian
  have hok : (generateVanWitness (listTree leftHash) (syncedFirst (sampleLeaf 1)).2.1 "round" (.ok 0)
      5 : Except (Failure Empty) VanWitness).isOk = true := by decide +kernel
  refine ⟨hok, ?_⟩
  cases hwitness : (generateVanWitness (listTree leftHash) (syncedFirst (sampleLeaf 1)).2.1 "round"
      (.ok 0) 5 : Except (Failure Empty) VanWitness) with
  | error failure =>
    rw [hwitness] at hok
    cases hok
  | ok witness =>
    have hresult : (syncedFirst (sampleLeaf 1)).1.isOk = true := by decide +kernel
    obtain ⟨round, root, hround, hroot, hserved⟩ := witness_root_served (listTree leftHash) leftHash
      ListTree.view (listTree_lawful leftHash) true (syncedFirst (sampleLeaf 1)).2.1 _ _
      (.sync "round" (.ok [⟨0, 0, some (sampleLeaf 1)⟩]) (recordingAttempt _ _) .start) "round"
      (by
        rintro (hfalse | ⟨-, failure, hfailure, -⟩)
        · exact hfalse
        · change (syncedFirst (sampleLeaf 1)).1 = _ at hfailure
          rw [hfailure] at hresult
          cases hresult)
      (.ok 0) 5 witness hwitness
    exact ⟨round, root, hround, hroot, (hserved.resolve_left id).2⟩

/-- After a sync that failed because the served root was 9, a witness is made at the checkpoint
of that block, whose root is 1. -/
theorem witness_at_unverified_checkpoint :
    letI := littleEndian
    (syncedFirst (sampleLeaf 9)).1 = .error (.syncFailed
      (.rootMismatch 5 (some (sampleLeaf 1)) (sampleLeaf 9))) ∧
    (generateVanWitness (listTree leftHash) (syncedFirst (sampleLeaf 9)).2.1 "round" (.ok 0)
      5 : Except (Failure Empty) VanWitness).isOk = true ∧
    ((syncedFirst (sampleLeaf 9)).2.1.clients.lookup "round").map (fun round =>
      round.client.rootAtHeight (listTree leftHash) 5) = some (some (sampleLeaf 1)) := by
  refine ⟨by rfl, by decide +kernel, by decide +kernel⟩

end ZcashVoting.TreeSync
