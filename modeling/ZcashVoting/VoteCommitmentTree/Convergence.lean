import ZcashVoting.VoteCommitmentTree.Server

/-!
# ZcashVoting.VoteCommitmentTree.Convergence

A client that syncs with a syncable server, now and then, while the server goes on: each sync
at a checkpointed state succeeds, and brings the client the size and the root of the server and
witnesses for the positions that were marked in time.

The trees of both sides are `ShardTree`s that keep their contract.  What is added to the
contract here is that a full tree refuses leaves, that a checkpoint changes no leaves, and that
marked leaves keep their witnesses.
-/

namespace ZcashVoting.VoteCommitmentTree

open SyncApi Stateful TreeClient

/-! ## Retention -/

/-- The documented behaviour of `ShardTree` at its limits: `view` is what a tree stands for and
`marked` says which positions it retains for witnesses. -/
structure ShardTree.Retains {τ : Type} (tree : ShardTree τ) (view : τ → TreeView)
    (marked : τ → Nat → Prop) : Prop where
  /-- A full tree refuses leaves. -/
  full : ∀ t leaf retention, treeCapacity ≤ (view t).leaves.length →
    (∃ error, (tree.append t leaf retention).1 = .error error) ∧
      view (tree.append t leaf retention).2 = view t
  checkpoint : ∀ t checkpointId,
    (view (tree.checkpoint t checkpointId).2).leaves = (view t).leaves
  mark : ∀ t leaf, (view t).leaves.length < treeCapacity →
    marked (tree.append t leaf .marked).2 (view t).leaves.length
  keep_append : ∀ t leaf retention position, marked t position →
    marked (tree.append t leaf retention).2 position
  keep_checkpoint : ∀ t checkpointId position, marked t position →
    marked (tree.checkpoint t checkpointId).2 position
  /-- A marked leaf has a witness at the newest checkpoint, when no leaf came after it. -/
  witness : ∀ t position checkpointId, marked t position →
    (view t).leaves.length ≤ treeCapacity → position < (view t).leaves.length →
    (view t).leavesAt checkpointId = some (view t).leaves →
    (view t).checkpoints.getLast? = some (checkpointId, (view t).leaves.length) →
      ∃ path, tree.witnessAtCheckpointId t position checkpointId = some path

theorem listTree_retains (hash : VoteHash) :
    (listTree hash).Retains ListTree.view fun t position => position ∈ t.marked where
  full t leaf retention h := by
    have hfull : (listTree hash).append t leaf retention = (.error .treeFull, t) :=
      if_neg (Nat.not_lt.mpr h)
    rw [hfull]
    exact ⟨⟨_, rfl⟩, rfl⟩
  checkpoint t checkpointId := by
    simp only [listTree]
    split
    · rw [TreeView.mark]
    · rfl
  mark t leaf h := by simp [listTree, h]
  keep_append t leaf retention position h := by
    simp only [listTree]
    split
    · dsimp only
      split <;> simp [h]
    · exact h
  keep_checkpoint t checkpointId position h := by
    simp only [listTree]
    split <;> exact h
  witness t position checkpointId hmarked hcapacity hposition hleaves _ := by
    simp [listTree, hleaves, hmarked, hposition, lt_of_lt_of_le hposition hcapacity]

/-! ## The server -/

section Server

variable {τ : Type} {tree : ShardTree τ} {hash : VoteHash} {view : τ → TreeView}
  {marked : τ → Nat → Prop} {log : List AppendedLeaf} {server : SyncableServer τ}

/-- A server whose tree, blocks and checkpoints agree with the leaves that were appended. -/
structure Honest (hash : VoteHash) (view : τ → TreeView) (log : List AppendedLeaf)
    (server : SyncableServer τ) : Prop where
  described : Described 0 log server
  leaves : (view server.tree.inner).leaves = log.map (·.2)
  capacity : log.length ≤ treeCapacity
  ascending : (view server.tree.inner).checkpoints.Pairwise (·.1 < ·.1)
  newest : (view server.tree.inner).checkpoints.getLast? =
    server.tree.latestCheckpoint.map fun height => (height, (leavesOf server.blocks).length)
  tip : server.blocks.getLast?.map (·.height) = server.tree.latestCheckpoint
  placed : TreeClient.Placed hash [] server.blocks

theorem TreeClient.Placed.concat {before : List MerkleHashVote} {blocks : List BlockCommitments}
    {block : BlockCommitments} (h : TreeClient.Placed hash before blocks)
    (hstart : block.startIndex.val = (before ++ leavesOf blocks).length)
    (hroot : block.root = hash.treeRoot (before ++ leavesOf blocks ++ block.leaves)) :
    TreeClient.Placed hash before (blocks ++ [block]) := by
  induction blocks generalizing before with
  | nil => exact ⟨by simpa [leavesOf] using hstart, by simpa [leavesOf] using hroot, trivial⟩
  | cons first blocks ih =>
    obtain ⟨hfirst, hfirstRoot, hrest⟩ := h
    rw [leavesOf, List.flatMap_cons, ← List.append_assoc] at hstart hroot
    exact ⟨hfirst, hfirstRoot, ih hrest hstart hroot⟩

namespace Honest

theorem empty (lawful : tree.Lawful hash view) : Honest hash view [] (SyncableServer.empty tree) where
  described := Described.new ⟨tree.empty, none, ⟨0, Nat.zero_le _⟩⟩
  leaves := by simp [SyncableServer.empty, lawful.view_empty]
  capacity := Nat.zero_le _
  ascending := by simp [SyncableServer.empty, lawful.view_empty]
  newest := by simp [SyncableServer.empty, lawful.view_empty]
  tip := rfl
  placed := trivial

/-- An append to a full tree changes nothing that the tree stands for. -/
theorem withInner (h : Honest hash view log server) {inner : τ}
    (hview : view inner = view server.tree.inner) : Honest hash view log (server.withInner inner) where
  described := h.described.withInner inner
  leaves := by rw [← h.leaves, ← hview]; rfl
  capacity := h.capacity
  ascending := by rw [show view (server.withInner inner).tree.inner = _ from hview]; exact h.ascending
  newest := by rw [show view (server.withInner inner).tree.inner = _ from hview]; exact h.newest
  tip := h.tip
  placed := h.placed

theorem append (lawful : tree.Lawful hash view) (retains : tree.Retains view marked)
    (h : Honest hash view log server) (leaf : MerkleHashVote) :
    Honest hash view (log ++ appendedBy tree server leaf)
      (after (SyncableServer.append tree leaf) server) := by
  have hdescribed := h.described.append tree leaf
  have hlength : (view server.tree.inner).leaves.length = log.length := by
    rw [h.leaves, List.length_map]
  unfold appendedBy after at hdescribed ⊢
  by_cases hfull : treeCapacity ≤ log.length
  · obtain ⟨⟨refusal, hrefused⟩, hview⟩ :=
      retains.full server.tree.inner leaf .marked (by rwa [hlength])
    obtain ⟨error, -, heq⟩ | ⟨hok, -⟩ := append_cases tree server leaf
    · rw [heq, List.append_nil]
      exact h.withInner hview
    · rw [hrefused] at hok
      cases hok
  · obtain ⟨hresult, hview⟩ := lawful.append server.tree.inner leaf .marked (by omega)
    obtain ⟨error, herror, -⟩ | ⟨-, heq⟩ := append_cases tree server leaf
    · rw [hresult] at herror
      cases herror
    rw [heq] at hdescribed ⊢
    refine ⟨hdescribed, ?_, ?_, ?_, ?_, h.tip, h.placed⟩
    · rw [hview, TreeView.push, h.leaves, List.map_append]
      rfl
    · rw [List.length_append, List.length_singleton]
      omega
    · rw [hview]
      exact h.ascending
    · rw [hview]
      exact h.newest

theorem checkpoint (lawful : tree.Lawful hash view) (h : Honest hash view log server) (height : U32) :
    Honest hash view log (after (SyncableServer.checkpoint tree hash height) server) := by
  have hdescribed := h.described.checkpoint tree hash height
  unfold after at hdescribed ⊢
  obtain ⟨error, heq⟩ | ⟨habove, hresult⟩ := checkpoint_cases tree hash server height
  · rw [heq]
    exact h
  have hcheckpoints : ∀ other ∈ (view server.tree.inner).checkpoints, other.1 < height := by
    intro other hother
    obtain ⟨newest, hnewest, hle⟩ := TreeView.le_newest h.ascending hother
    rw [h.newest] at hnewest
    obtain ⟨latest, hlatest, rfl⟩ := Option.map_eq_some_iff.mp hnewest
    exact lt_of_le_of_lt hle (habove latest hlatest)
  obtain ⟨hadded, hview⟩ := lawful.checkpoint server.tree.inner height hcheckpoints
  obtain ⟨error, herror, -⟩ | ⟨inner, root, hinner, hroot, heq⟩ := hresult
  · rw [hadded] at herror
    cases herror
  subst hinner
  rw [heq] at hdescribed ⊢
  -- the block goes behind the others and has the leaves that were pending
  have hbelow : ∀ other ∈ server.blocks, other.height < height := by
    intro other hother
    obtain ⟨latest, hlatest, hle⟩ := h.described.latest other hother
    exact lt_of_le_of_lt hle (habove latest hlatest)
  rw [insertBlock_of_above hbelow] at hdescribed ⊢
  generalize hblock : (⟨height, server.pendingStart, server.pendingLeaves, root⟩ :
    BlockCommitments) = block at hdescribed ⊢
  have hblockLeaves : block.leaves = server.pendingLeaves := by rw [← hblock]
  have hall : leavesOf (server.blocks ++ [block]) = log.map (·.2) := by
    rw [leavesOf, List.flatMap_append, List.flatMap_singleton, hblockLeaves]
    exact h.described.leaves
  have hleaves : (view (tree.checkpoint server.tree.inner height).2).leaves = log.map (·.2) := by
    rw [hview, TreeView.mark]
    exact h.leaves
  have hascending : (view (tree.checkpoint server.tree.inner height).2).checkpoints.Pairwise
      (·.1 < ·.1) := by
    rw [hview]
    exact TreeView.pairwise_mark h.ascending hcheckpoints
  have hnewest : (view (tree.checkpoint server.tree.inner height).2).checkpoints.getLast? =
      some (height, (log.map (·.2)).length) := by
    rw [hview, TreeView.getLast?_mark, h.leaves]
  refine ⟨hdescribed, hleaves, h.capacity, hascending, ?_, ?_, ?_⟩
  · rw [hall]
    exact hnewest
  · rw [List.getLast?_concat, ← hblock]
    rfl
  · refine h.placed.concat ?_ ?_
    · have hle : (leavesOf server.blocks).length ≤ log.length := by
        have hlength := congrArg List.length h.described.leaves
        rw [List.length_append, List.length_map] at hlength
        omega
      have hcapacity := h.capacity
      unfold treeCapacity at hcapacity
      rw [← hblock, h.described.pending, recordedStart_zero, Nat.mod_eq_of_lt (by omega)]
      rfl
    · have hat := TreeView.leavesAt_newest hascending (by rw [hleaves]; exact hnewest)
      rw [hblockLeaves, List.nil_append, h.described.leaves, ← hblock, hroot, lawful.root, hat, hleaves]
      rfl

/-- The blocks of the server as a chain. -/
def chain (h : Honest hash view log server) : HonestChain hash where
  blocks := server.blocks
  tip := server.tree.latestCheckpoint.getD ⟨0, Nat.zero_le _⟩
  ascending := h.described.ascending
  below := by
    intro block hblock
    obtain ⟨latest, hlatest, hle⟩ := h.described.latest block hblock
    rwa [Option.mem_def.mp hlatest, Option.getD_some]
  placed := h.placed
  fits := by
    have hlength := congrArg List.length h.described.leaves
    have hcapacity := h.capacity
    rw [List.length_append, List.length_map] at hlength
    omega

theorem leaves_chain (h : Honest hash view log server) (hpending : server.pendingLeaves = []) :
    h.chain.leaves = log.map (·.2) := by
  rw [← h.described.leaves, hpending, List.append_nil]
  rfl

theorem size_eq (h : Honest hash view log server) : server.size.val = log.length := by
  have hcapacity := h.capacity
  unfold treeCapacity at hcapacity
  rw [SyncableServer.size, h.described.next, Nat.mod_eq_of_lt (by omega), Nat.zero_add]

/-- The root of a checkpointed server is that of its leaves. -/
theorem root_eq (lawful : tree.Lawful hash view) (h : Honest hash view log server)
    (hpending : server.pendingLeaves = []) :
    server.root tree hash = hash.treeRoot (log.map (·.2)) := by
  have hall := h.leaves_chain hpending
  have hnewest := h.newest
  have htip := h.tip
  unfold SyncableServer.root GenericTreeServer.root
  cases hlatest : server.tree.latestCheckpoint with
  | none =>
    rw [hlatest, Option.map_eq_none_iff, List.getLast?_eq_none_iff] at htip
    have hnil : log.map (·.2) = [] := by
      rw [← hall]
      show leavesOf server.blocks = []
      rw [htip]
      rfl
    rw [hnil, VoteHash.treeRoot_nil]
  | some height =>
    rw [hlatest, Option.map_some, show leavesOf server.blocks = _ from hall, ← h.leaves] at hnewest
    dsimp only
    rw [lawful.root, TreeView.leavesAt_newest h.ascending hnewest, Option.map_some,
      Option.getD_some, h.leaves]

/-- A checkpointed server advertises the state of its chain. -/
theorem getTreeState_eq (lawful : tree.Lawful hash view) (h : Honest hash view log server)
    (hpending : server.pendingLeaves = []) : server.getTreeState tree hash = h.chain.state := by
  have hleaves := h.leaves_chain hpending
  have hsize : server.size.val = h.chain.leaves.length := by
    rw [h.size_eq, hleaves, List.length_map]
  have hroot : server.root tree hash = hash.treeRoot h.chain.leaves := by
    rw [h.root_eq lawful hpending, hleaves]
  simp only [SyncableServer.getTreeState, HonestChain.state, SyncApi.TreeState.mk.injEq]
  exact ⟨Subtype.ext hsize, hroot, rfl⟩

/-- A request up to the tip is answered with all blocks from a height on. -/
theorem getBlockCommitments_eq (h : Honest hash view log server) (fromHeight : U32) :
    server.getBlockCommitments fromHeight h.chain.tip =
      ⟨h.chain.between fromHeight.val (h.chain.tip.val + 1), ⟨0, Nat.zero_le _⟩⟩ := by
  rw [SyncableServer.getBlockCommitments, HonestChain.between]
  congr 1
  refine List.filter_congr fun block _ => ?_
  rw [decide_eq_decide, Nat.lt_succ_iff]
  rfl

end Honest

end Server

/-! ## Marked positions -/

namespace TreeClient

section

variable {τ σ ε : Type} {tree : ShardTree τ} {hash : VoteHash} {view : τ → TreeView}
  {marked : τ → Nat → Prop}

/-- The tree of the client has its leaves, and retains the marked positions among them. -/
structure Retained (view : τ → TreeView) (marked : τ → Nat → Prop) (client : TreeClient τ) : Prop where
  size : (view client.inner).leaves.length = client.nextPosition
  capacity : client.nextPosition ≤ treeCapacity
  kept : ∀ position ∈ client.markedPositions, position < client.nextPosition →
    marked client.inner position

theorem Retained.empty (lawful : tree.Lawful hash view) : Retained view marked (empty tree) where
  size := by simp [TreeClient.empty, lawful.view_empty]
  capacity := Nat.zero_le _
  kept := by simp [TreeClient.empty]

/-- A mark in time is for a position that is still to come. -/
theorem Retained.markPosition {client : TreeClient τ} (h : Retained view marked client)
    {position : Nat} (hposition : client.nextPosition ≤ position) :
    Retained view marked (client.markPosition position) where
  size := h.size
  capacity := h.capacity
  kept other hother hlt := by
    rcases SortedSet.mem_insert.mp hother with rfl | hold
    · exact absurd hlt (Nat.not_lt.mpr hposition)
    · exact h.kept other hold hlt

variable (lawful : tree.Lawful hash view) (retains : tree.Retains view marked)

include lawful retains in
theorem appendLeaves_retained (height : U32) (leaves : List MerkleHashVote) :
    Keeps (fun s => Retained view marked s.client)
      (appendLeaves tree height leaves : SyncCall τ σ ε Unit) := by
  induction leaves with
  | nil => exact .pure _
  | cons leaf leaves ih =>
    refine .get_bind fun s hs => ?_
    dsimp only
    generalize hretention : (if s.client.nextPosition ∈ s.client.markedPositions then
      Retention.marked else .ephemeral) = retention
    have hkeep := retains.keep_append s.client.inner leaf retention
    by_cases hfull : treeCapacity ≤ s.client.nextPosition
    · obtain ⟨⟨error, herror⟩, hview⟩ :=
        retains.full s.client.inner leaf retention (by rwa [hs.size])
      rcases happend : tree.append s.client.inner leaf retention with ⟨result, inner⟩
      rw [happend] at herror hview hkeep
      dsimp only at herror
      subst herror
      refine Ends.bind (Ends.set (Ends.throw ⟨?_, hs.capacity, ?_⟩))
      · dsimp only
        rw [hview]
        exact hs.size
      · exact fun position hmem hlt => hkeep position (hs.kept position hmem hlt)
    · obtain ⟨hresult, hview⟩ := lawful.append s.client.inner leaf retention (by rw [hs.size]; omega)
      have hmark := retains.mark s.client.inner leaf (by rw [hs.size]; omega)
      rcases happend : tree.append s.client.inner leaf retention with ⟨result, inner⟩
      rw [happend] at hresult hview hkeep
      dsimp only at hresult
      subst hresult
      refine Ends.bind (Ends.set (ih _ ⟨?_, by dsimp only; omega, ?_⟩))
      · dsimp only
        rw [hview, TreeView.push, List.length_append, hs.size, List.length_singleton]
      · intro position hmem hlt
        by_cases hold : position < s.client.nextPosition
        · exact hkeep position (hs.kept position hmem hold)
        · -- the new leaf is at the position, and was appended as marked
          obtain rfl : position = s.client.nextPosition := by
            dsimp only at hlt
            omega
          rw [if_pos hmem] at hretention
          subst hretention
          rwa [happend, hs.size] at hmark

include retains in
theorem addCheckpoint_retained (height : U32) :
    Keeps (fun s => Retained view marked s.client)
      (addCheckpoint tree height : SyncCall τ σ ε Unit) := by
  refine .get_bind fun s hs => ?_
  have hleaves := retains.checkpoint s.client.inner height
  have hkeep := retains.keep_checkpoint s.client.inner height
  dsimp only
  rcases hadded : tree.checkpoint s.client.inner height with ⟨result, inner⟩
  rw [hadded] at hleaves hkeep
  have hretained : ∀ last, Retained view marked { s.client with inner, lastSyncedHeight := last } :=
    fun last => ⟨by dsimp only; rw [hleaves]; exact hs.size, hs.capacity,
      fun position hmem hlt => hkeep position (hs.kept position hmem hlt)⟩
  rcases result with error | added
  · exact Ends.bind (Ends.set (Ends.throw (hretained _)))
  · cases added with
    | false => exact Ends.bind (Ends.set (Ends.throw (hretained _)))
    | true => exact Ends.set (hretained _)

theorem ensure_keeps {P : SyncState τ σ → Prop} (condition : Prop) [Decidable condition]
    (error : SyncError ε) : Keeps P (ensure condition error) :=
  fun _ h => ensure_ends (fun _ => h) fun _ => h

theorem ask_keeps {α : Type} {P : TreeClient τ → Prop} (question : σ → Except ε α × σ) :
    Keeps (fun s => P s.client) (ask question : SyncCall τ σ ε α) :=
  fun _ h => ask_ends (fun _ _ => h) fun _ _ => h

theorem checkSyncDuration_keeps {P : TreeClient τ → Prop} (api : TreeSyncApi σ ε)
    (limits : SyncLimits) : Keeps (fun s => P s.client) (checkSyncDuration api limits) :=
  fun _ h => checkSyncDuration_ends h h

theorem validatePage_keeps {P : SyncState τ σ → Prop} (page : BlockCommitmentsPage) :
    Keeps P (validatePage page : SyncCall τ σ ε Unit) :=
  fun _ h => validatePage_ends (fun _ => h) fun _ _ => h

theorem fromHeight_keeps {P : SyncState τ σ → Prop} (overflowChecks : Bool) (last : Option U32) :
    Keeps P (fromHeight overflowChecks last : SyncCall τ σ ε U32) := by
  cases last with
  | none => exact .pure _
  | some last =>
    rw [fromHeight]
    split
    · exact .pure _
    split
    · exact .throw _
    · exact .pure _

include lawful retains in
theorem applyBlock_retained (block : BlockCommitments) :
    Keeps (fun s => Retained view marked s.client)
      (applyBlock tree block : SyncCall τ σ ε Unit) := by
  refine .get_bind fun s hs => ?_
  refine Keeps.bind (ensure_keeps _ _) (fun _ => ?_) s hs
  refine (appendLeaves_retained lawful retains _ _).bind fun _ => ?_
  refine (addCheckpoint_retained retains _).bind fun _ => ?_
  exact .get_bind fun s hs => ensure_keeps _ _ s hs

include lawful retains in
theorem applyBlocks_retained (blocks : List BlockCommitments) :
    Keeps (fun s => Retained view marked s.client)
      (applyBlocks tree blocks : SyncCall τ σ ε Unit) := by
  induction blocks with
  | nil => exact .pure _
  | cons block blocks ih => exact (applyBlock_retained lawful retains block).bind fun _ => ih

include lawful retains in
theorem syncPages_retained (api : TreeSyncApi σ ε) (limits : SyncLimits) (toHeight : U32)
    (remaining : Nat) (pageFrom : U32) :
    Keeps (fun s => Retained view marked s.client)
      (syncPages tree api limits toHeight remaining pageFrom) := by
  induction remaining generalizing pageFrom with
  | zero => exact (checkSyncDuration_keeps api limits).bind fun _ => .throw _
  | succ remaining ih =>
    refine (checkSyncDuration_keeps api limits).bind fun _ => (ask_keeps _).bind fun page => ?_
    refine (checkSyncDuration_keeps api limits).bind fun _ => (validatePage_keeps page).bind fun _ => ?_
    refine (applyBlocks_retained lawful retains _).bind fun _ => ?_
    split
    · exact .pure _
    · exact (ensure_keeps _ _).bind fun _ => (ensure_keeps _ _).bind fun _ => ih _

include lawful retains in
/-- Whatever a server answers, a sync retains the marked positions. -/
theorem syncWithLimits_retained (overflowChecks : Bool) (api : TreeSyncApi σ ε)
    (limits : SyncLimits) :
    Keeps (fun s => Retained view marked s.client)
      (syncWithLimits tree hash overflowChecks api limits) := by
  have htip : ∀ state, Keeps (fun s => Retained view marked s.client)
      (checkTipRoot tree hash state : SyncCall τ σ ε Unit) :=
    fun state => .get_bind fun s hs => ensure_keeps _ _ s hs
  refine (ask_keeps _).bind fun state => (checkSyncDuration_keeps api limits).bind fun _ => ?_
  refine (ensure_keeps _ _).bind fun _ => .get_bind fun s hs => ?_
  split
  · exact htip state s hs
  · refine Keeps.bind (fromHeight_keeps _ _) (fun pageFrom => ?_) s hs
    split
    · exact .pure _
    · refine (syncPages_retained lawful retains api limits _ _ _).bind fun _ => ?_
      exact .get_bind fun s hs => Keeps.bind (ensure_keeps _ _) (fun _ => htip state) s hs

end

end TreeClient

/-! ## Histories -/

section

variable {τ τ' : Type} (tree : ShardTree τ) (serverTree : ShardTree τ') (hash : VoteHash)

/-- `impl TreeSyncApi for SyncableServer`, beside a clock with the given readings. -/
def SyncableServer.api (server : SyncableServer τ') (readings : Nat → Nat) :
    TreeSyncApi Nat Empty where
  getTreeState reading := (.ok (server.getTreeState serverTree hash), reading)
  getBlockCommitments reading fromHeight toHeight :=
    (.ok (server.getBlockCommitments fromHeight toHeight), reading)
  elapsed reading := (readings reading, reading + 1)

/-- A server that started empty and a client of it: calls on the server, marks of positions
that the client has not synced, and syncs at checkpointed states, in any order. -/
inductive History (overflowChecks : Bool) : SyncableServer τ' → TreeClient τ → Prop
  | start : History overflowChecks (SyncableServer.empty serverTree) (TreeClient.empty tree)
  | call {server : SyncableServer τ'} {client : TreeClient τ} (call : ServerCall) :
    History overflowChecks server client →
    History overflowChecks (call.apply serverTree hash server) client
  | mark {server : SyncableServer τ'} {client : TreeClient τ} (position : Nat) :
    History overflowChecks server client → client.nextPosition ≤ position →
    History overflowChecks server (client.markPosition position)
  | sync {server : SyncableServer τ'} {client client' : TreeClient τ} (readings : Nat → Nat)
    (final : Nat) :
    History overflowChecks server client → server.pendingLeaves = [] →
    (∀ n, readings n ≤ SyncLimits.default.maxDuration) →
    TreeClient.sync tree hash overflowChecks (server.api serverTree hash readings) ⟨client, 0⟩ =
      .ok () ⟨client', final⟩ →
    History overflowChecks server client'

end

section

variable {τ τ' : Type} {tree : ShardTree τ} {serverTree : ShardTree τ'} {hash : VoteHash}
  {view : τ → TreeView} {marked : τ → Nat → Prop} {view' : τ' → TreeView} {marked' : τ' → Nat → Prop}
  {overflowChecks : Bool}

/-- The client has the leaves of the server's blocks up to its last synced height. -/
structure InStep (hash : VoteHash) (view : τ → TreeView) (marked : τ → Nat → Prop)
    (view' : τ' → TreeView) (server : SyncableServer τ') (client : TreeClient τ) : Prop where
  honest : ∃ log, Honest hash view' log server
  coherent : Coherent view client
  retained : Retained view marked client
  leaves : (view client.inner).leaves = leavesOf (server.blocks.filter fun block =>
    block.height.val < firstMissing client.lastSyncedHeight)
  below : ∀ last ∈ client.lastSyncedHeight, ∃ latest ∈ server.tree.latestCheckpoint, last ≤ latest

/-- What calls do to the blocks of a server: new ones are above its latest checkpoint. -/
structure Extends (before after : SyncableServer τ') : Prop where
  blocks : ∃ newer, after.blocks = before.blocks ++ newer ∧
    ∀ block ∈ newer, ∀ latest ∈ before.tree.latestCheckpoint, latest < block.height
  latest : ∀ latest ∈ before.tree.latestCheckpoint,
    ∃ latest' ∈ after.tree.latestCheckpoint, latest ≤ latest'

namespace Extends

variable {before server : SyncableServer τ'}

theorem refl (server : SyncableServer τ') : Extends server server :=
  ⟨⟨[], (List.append_nil _).symm, by simp⟩, fun latest h => ⟨latest, h, le_rfl⟩⟩

theorem append (h : Extends before server) (leaf : MerkleHashVote) :
    Extends before (after (SyncableServer.append serverTree leaf) server) := by
  unfold after
  obtain ⟨error, -, heq⟩ | ⟨-, heq⟩ := append_cases serverTree server leaf
  · rw [heq]
    exact ⟨h.blocks, h.latest⟩
  · rw [heq]
    exact ⟨h.blocks, h.latest⟩

theorem checkpoint {log : List AppendedLeaf} (hdescribed : Described 0 log server)
    (h : Extends before server) (height : U32) :
    Extends before (after (SyncableServer.checkpoint serverTree hash height) server) := by
  unfold after
  obtain ⟨error, heq⟩ | ⟨habove, ⟨error, -, heq⟩ | ⟨inner, root, -, -, heq⟩⟩ :=
    checkpoint_cases serverTree hash server height
  · rw [heq]
    exact h
  · rw [heq]
    exact ⟨h.blocks, h.latest⟩
  rw [heq]
  have hbelow : ∀ latest ∈ before.tree.latestCheckpoint, latest < height := by
    intro latest hlatest
    obtain ⟨latest', hlatest', hle⟩ := h.latest latest hlatest
    exact lt_of_le_of_lt hle (habove latest' hlatest')
  obtain ⟨newer, hblocks, hnewer⟩ := h.blocks
  refine ⟨⟨newer ++ [⟨height, server.pendingStart, server.pendingLeaves, root⟩], ?_, ?_⟩,
    fun latest hlatest => ⟨height, rfl, (hbelow latest hlatest).le⟩⟩
  · rw [← List.append_assoc, ← hblocks]
    refine insertBlock_of_above fun other hother => ?_
    obtain ⟨latest, hlatest, hle⟩ := hdescribed.latest other hother
    exact lt_of_le_of_lt hle (habove latest hlatest)
  · intro block hblock latest hlatest
    rcases List.mem_append.mp hblock with hold | hnew
    · exact hnewer block hold latest hlatest
    · rw [List.mem_singleton.mp hnew]
      exact hbelow latest hlatest

end Extends

namespace InStep

variable {server : SyncableServer τ'} {client : TreeClient τ}

theorem start (lawful : tree.Lawful hash view) (lawful' : serverTree.Lawful hash view') :
    InStep hash view marked view' (SyncableServer.empty serverTree) (TreeClient.empty tree) where
  honest := ⟨[], Honest.empty lawful'⟩
  coherent := Coherent.of_empty lawful
  retained := Retained.empty lawful
  leaves := by simp [TreeClient.empty, lawful.view_empty, SyncableServer.empty, leavesOf]
  below := by simp [TreeClient.empty]

theorem mark (h : InStep hash view marked view' server client) {position : Nat}
    (hposition : client.nextPosition ≤ position) :
    InStep hash view marked view' server (client.markPosition position) :=
  ⟨h.honest, h.coherent.markPosition position, h.retained.markPosition hposition, h.leaves, h.below⟩

/-- The server goes on, above what the client has synced. -/
theorem call (lawful' : serverTree.Lawful hash view') (retains' : serverTree.Retains view' marked')
    (h : InStep hash view marked view' server client) (call : ServerCall) :
    InStep hash view marked view' (call.apply serverTree hash server) client := by
  obtain ⟨log, hhonest⟩ := h.honest
  obtain ⟨hhonest', hextends⟩ := ServerCall.preserves serverTree hash
    (P := fun log after => Honest hash view' log after ∧ Extends server after)
    (fun _ _ leaf h => ⟨h.1.append lawful' retains' leaf, h.2.append leaf⟩)
    (fun _ _ height h => ⟨h.1.checkpoint lawful' height, h.2.checkpoint h.1.described height⟩)
    ⟨hhonest, Extends.refl server⟩ call
  obtain ⟨newer, hblocks, hnewer⟩ := hextends.blocks
  refine ⟨⟨_, hhonest'⟩, h.coherent, h.retained, ?_, ?_⟩
  · -- no newer block is below what the client has synced
    have hnone : (newer.filter fun block =>
        block.height.val < firstMissing client.lastSyncedHeight) = [] := by
      refine List.filter_eq_nil_iff.mpr fun block hblock hlt => ?_
      rw [decide_eq_true_eq] at hlt
      cases hlast : client.lastSyncedHeight with
      | none =>
        rw [hlast] at hlt
        exact Nat.not_lt_zero _ hlt
      | some last =>
        obtain ⟨latest, hlatest, hle⟩ := h.below last hlast
        have hlater : last.val < block.height.val := lt_of_le_of_lt hle (hnewer block hblock latest hlatest)
        rw [hlast] at hlt
        simp only [firstMissing] at hlt
        omega
    rw [hblocks, List.filter_append, hnone, List.append_nil]
    exact h.leaves
  · intro last hlast
    obtain ⟨latest, hlatest, hle⟩ := h.below last hlast
    obtain ⟨latest', hlatest', hle'⟩ := hextends.latest latest hlatest
    exact ⟨latest', hlatest', hle.trans hle'⟩

/-- A sync at a checkpointed state succeeds and brings all leaves of the blocks. -/
theorem sync (lawful : tree.Lawful hash view) (retains : tree.Retains view marked)
    (lawful' : serverTree.Lawful hash view') (overflowChecks : Bool)
    (h : InStep hash view marked view' server client) (hpending : server.pendingLeaves = [])
    {readings : Nat → Nat} (hreadings : ∀ n, readings n ≤ SyncLimits.default.maxDuration) :
    Ends (TreeClient.sync tree hash overflowChecks (server.api serverTree hash readings)) ⟨client, 0⟩
      (fun _ s' => InStep hash view marked view' server s'.client ∧
        (view s'.client.inner).leaves = leavesOf server.blocks)
      (fun _ _ => False) := by
  obtain ⟨log, hhonest⟩ := h.honest
  have hserves : Serves (server.api serverTree hash readings) hhonest.chain :=
    ⟨fun _ => congrArg Except.ok (hhonest.getTreeState_eq lawful' hpending),
      fun _ fromHeight => ⟨⟨0, Nat.zero_le _⟩,
        congrArg Except.ok (hhonest.getBlockCommitments_eq fromHeight), .inl rfl⟩⟩
  have hhindered : Hindered (server.api serverTree hash readings) hhonest.chain SyncLimits.default
      False False := by
    refine ⟨.inr hreadings, .inr fun _ fromHeight page hpage => ?_, .inr (by decide)⟩
    rw [SyncableServer.api] at hpage
    cases hpage
    rfl
  have hbelowEq : ∀ height, hhonest.chain.leavesBelow height =
      leavesOf (server.blocks.filter fun block => block.height.val < height) := by
    intro height
    simp [HonestChain.leavesBelow, HonestChain.between, Honest.chain]
  have hsync := syncWithLimits_honest lawful overflowChecks hserves hhindered ⟨client, 0⟩
    ⟨h.coherent, h.leaves.trans (hbelowEq _).symm⟩
  have hretained := syncWithLimits_retained (σ := Nat) (ε := Empty) lawful retains overflowChecks
    (server.api serverTree hash readings) SyncLimits.default ⟨client, 0⟩ h.retained
  refine (hsync.and hretained).mono ?_ fun _ _ hbad => hbad.1.1.elim id id
  rintro _ s' ⟨⟨hfollows, hleaves, hadvances⟩, hkept⟩
  refine ⟨⟨h.honest, hfollows.coherent, hkept, hfollows.leaves.trans (hbelowEq _), ?_⟩, hleaves⟩
  intro last hlast
  rcases hadvances with hsame | ⟨block, hblock, hheight⟩
  · rw [hsame] at hlast
    exact h.below last hlast
  · rw [hheight] at hlast
    obtain rfl := Option.some.inj hlast
    exact hhonest.described.latest block hblock

end InStep

theorem History.calls {server : SyncableServer τ'} {client : TreeClient τ}
    (history : History tree serverTree hash overflowChecks server client)
    (calls : List ServerCall) : History tree serverTree hash overflowChecks
      (calls.foldl (fun server call => call.apply serverTree hash server) server) client := by
  induction calls generalizing server with
  | nil => exact history
  | cons call calls ih => exact ih (history.call call)

theorem History.inStep (lawful : tree.Lawful hash view) (retains : tree.Retains view marked)
    (lawful' : serverTree.Lawful hash view') (retains' : serverTree.Retains view' marked')
    {server : SyncableServer τ'} {client : TreeClient τ}
    (history : History tree serverTree hash overflowChecks server client) :
    InStep hash view marked view' server client := by
  induction history with
  | start => exact .start lawful lawful'
  | call call _ ih => exact ih.call lawful' retains' call
  | mark position _ hposition ih => exact ih.mark hposition
  | sync readings final _ hpending hreadings hsync ih =>
    exact ((ih.sync lawful retains lawful' overflowChecks hpending hreadings).of_ok hsync).1

/-- A sync with an honest server at a checkpointed state succeeds.  The client then has the size
and the root of the server, and for every position that was marked before it was synced a
witness at its latest height that verifies the leaf of the server against the root of the
server. -/
theorem honest_sync_converges (lawful : tree.Lawful hash view) (retains : tree.Retains view marked)
    (lawful' : serverTree.Lawful hash view') (retains' : serverTree.Retains view' marked')
    {server : SyncableServer τ'} {client : TreeClient τ}
    (history : History tree serverTree hash overflowChecks server client)
    (hpending : server.pendingLeaves = []) (readings : Nat → Nat)
    (hreadings : ∀ n, readings n ≤ SyncLimits.default.maxDuration) :
    ∃ client' final, TreeClient.sync tree hash overflowChecks
        (server.api serverTree hash readings) ⟨client, 0⟩ = .ok () ⟨client', final⟩ ∧
      client'.nextPosition = server.size.val ∧
      client'.root tree hash = server.root serverTree hash ∧
      ∀ position ∈ client'.markedPositions, position < client'.nextPosition →
        ∃ height path leaf, client'.lastSyncedHeight = some height ∧
          client'.witness tree position height = some path ∧
          (leavesOf server.blocks)[position]? = some leaf ∧
          path.verify hash leaf (server.root serverTree hash) = true := by
  have hends := (history.inStep lawful retains lawful' retains').sync lawful retains lawful'
    overflowChecks hpending hreadings
  have hsync := hends.eq_ok_after
  obtain ⟨⟨⟨log, hhonest⟩, hcoherent, hretained, -, -⟩, hleaves⟩ := hends.of_ok hsync
  generalize Stateful.after (TreeClient.sync tree hash overflowChecks
    (server.api serverTree hash readings)) ⟨client, 0⟩ = s' at *
  have hall : leavesOf server.blocks = log.map (·.2) := hhonest.leaves_chain hpending
  have hroot : server.root serverTree hash = hash.treeRoot (leavesOf server.blocks) := by
    rw [hhonest.root_eq lawful' hpending, hall]
  refine ⟨s'.client, s'.server, hsync, ?_, ?_, fun position hmarked hsynced => ?_⟩
  · rw [← hcoherent.size, hleaves, hall, List.length_map, hhonest.size_eq]
  · rw [hcoherent.root_eq lawful, hleaves, hroot]
  · obtain ⟨height, hheight⟩ : ∃ height, s'.client.lastSyncedHeight = some height := by
      refine Option.ne_none_iff_exists'.mp fun hnone => ?_
      rw [hcoherent.unsynced hnone] at hsynced
      exact Nat.not_lt_zero _ hsynced
    have hat := hcoherent.leavesAt_newest hheight
    have hnewest := hcoherent.newest
    rw [hheight, Option.map_some, ← hcoherent.size] at hnewest
    obtain ⟨path, hpath⟩ := retains.witness s'.client.inner position height
      (hretained.kept position hmarked hsynced) (by rw [hcoherent.size]; exact hcoherent.capacity)
      (by rw [hcoherent.size]; exact hsynced) hat hnewest
    obtain ⟨leaves, leaf, hleavesAt, hleaf, hverify⟩ := lawful.witness _ _ _ _ hpath
    obtain rfl := Option.some.inj (hat.symm.trans hleavesAt)
    rw [hleaves] at hleaf hverify
    refine ⟨height, path, leaf, hheight, hpath, hleaf, ?_⟩
    rw [MerklePath.verify, decide_eq_true_eq, hverify, hroot]

end

/-- A server with two leaves in its first block and an empty block after it. -/
def twoLeafCalls : List ServerCall :=
  [.appendTwo (sampleLeaf 1) (sampleLeaf 2), .checkpoint 3,
    .checkpoint 4]

/-- The server after calls on an empty one. -/
def calledServer (calls : List ServerCall) : SyncableServer ListTree :=
  calls.foldl (fun server call => call.apply (listTree leftHash) leftHash server)
    (SyncableServer.empty (listTree leftHash))

/-- A client that marked the second position syncs with that server: it has both leaves and the
root, and its witness at the latest height verifies the second leaf. -/
theorem honest_sync_converges_two_leaves :
    ∃ client final, TreeClient.sync (listTree leftHash) leftHash true
        ((calledServer twoLeafCalls).api (listTree leftHash) leftHash fun _ => 0)
        ⟨(TreeClient.empty (listTree leftHash)).markPosition 1, 0⟩ = .ok () ⟨client, final⟩ ∧
      client.nextPosition = 2 ∧
      client.root (listTree leftHash) leftHash =
        (calledServer twoLeafCalls).root (listTree leftHash) leftHash ∧
      ∃ path, client.witness (listTree leftHash) 1 4 = some path ∧
        path.verify leftHash (sampleLeaf 2)
          ((calledServer twoLeafCalls).root (listTree leftHash) leftHash) = true := by
  have hhistory : History (listTree leftHash) (listTree leftHash) leftHash true
      (calledServer twoLeafCalls) ((TreeClient.empty (listTree leftHash)).markPosition 1) :=
    .mark 1 (History.start.calls twoLeafCalls) (by decide)
  obtain ⟨client, final, hsync, hsize, hroot, hwitness⟩ := honest_sync_converges
    (listTree_lawful leftHash) (listTree_retains leftHash) (listTree_lawful leftHash)
    (listTree_retains leftHash) hhistory (by decide +kernel) (fun _ => 0) fun _ => Nat.zero_le _
  have hclient : (match TreeClient.sync (listTree leftHash) leftHash true
      ((calledServer twoLeafCalls).api (listTree leftHash) leftHash fun _ => 0)
      ⟨(TreeClient.empty (listTree leftHash)).markPosition 1, 0⟩ with
    | .ok _ s => decide (1 ∈ s.client.markedPositions) && s.client.lastSyncedHeight = some 4
    | .error _ _ => false) = true := by decide +kernel
  simp only [hsync, Bool.and_eq_true, decide_eq_true_eq] at hclient
  obtain ⟨hmarked, hheight⟩ := hclient
  have htwo : (calledServer twoLeafCalls).size.val = 2 := by decide +kernel
  rw [htwo] at hsize
  obtain ⟨height, path, leaf, hlatest, hpath, hleaf, hverify⟩ :=
    hwitness 1 hmarked (by rw [hsize]; decide)
  cases hheight.symm.trans hlatest
  have hsecond : (leavesOf (calledServer twoLeafCalls).blocks)[1]? = some (sampleLeaf 2) := by
    decide +kernel
  cases hsecond.symm.trans hleaf
  exact ⟨client, final, hsync, hsize, hroot, path, hpath, hverify⟩

end ZcashVoting.VoteCommitmentTree
