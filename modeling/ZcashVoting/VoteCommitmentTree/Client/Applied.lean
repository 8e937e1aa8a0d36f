import ZcashVoting.VoteCommitmentTree.Client

/-!
# ZcashVoting.VoteCommitmentTree.Client.Applied

What a sync does to the client, over a tree that keeps its contract.  A page that passed
validation is applied block by block, and the only thing that can still go wrong is that a
root differs; the block has been applied by then.
-/

namespace ZcashVoting.VoteCommitmentTree.TreeClient

open Stateful SyncApi

variable {τ σ ε : Type} {tree : ShardTree τ} {hash : VoteHash} {view : τ → TreeView}

/-! ## Coherent clients -/

/-- The fields of the client agree with its tree: the newest checkpoint is the last synced
height, with all leaves below it. -/
structure Coherent (view : τ → TreeView) (client : TreeClient τ) : Prop where
  size : (view client.inner).leaves.length = client.nextPosition
  capacity : client.nextPosition ≤ treeCapacity
  ascending : (view client.inner).checkpoints.Pairwise (·.1 < ·.1)
  newest : (view client.inner).checkpoints.getLast? =
    client.lastSyncedHeight.map fun height => (height, client.nextPosition)
  unsynced : client.lastSyncedHeight = none → client.nextPosition = 0

theorem Coherent.of_empty (lawful : tree.Lawful hash view) : Coherent view (empty tree) where
  size := by simp [empty, lawful.view_empty]
  capacity := Nat.zero_le _
  ascending := by simp [empty, lawful.view_empty]
  newest := by simp [empty, lawful.view_empty]
  unsynced _ := rfl

theorem Coherent.markPosition {client : TreeClient τ} (h : Coherent view client) (position : Nat) :
    Coherent view (client.markPosition position) :=
  ⟨h.size, h.capacity, h.ascending, h.newest, h.unsynced⟩

/-- No checkpoint is above the last synced height. -/
theorem Coherent.checkpoint_le {client : TreeClient τ} (h : Coherent view client)
    {checkpoint : U32 × Nat} (hmem : checkpoint ∈ (view client.inner).checkpoints) :
    ∃ height, client.lastSyncedHeight = some height ∧ checkpoint.1 ≤ height := by
  obtain ⟨newest, hnewest, hle⟩ := TreeView.le_newest h.ascending hmem
  rw [h.newest] at hnewest
  obtain ⟨height, hheight, rfl⟩ := Option.map_eq_some_iff.mp hnewest
  exact ⟨height, hheight, hle⟩

/-- All leaves are below the newest checkpoint. -/
theorem Coherent.leavesAt_newest {client : TreeClient τ} (h : Coherent view client) {height : U32}
    (hlast : client.lastSyncedHeight = some height) :
    (view client.inner).leavesAt height = some (view client.inner).leaves := by
  refine TreeView.leavesAt_newest h.ascending ?_
  rw [h.newest, hlast, h.size, Option.map_some]

/-- The root of a coherent client is the root of its leaves. -/
theorem Coherent.root_eq (lawful : tree.Lawful hash view) {client : TreeClient τ}
    (h : Coherent view client) :
    client.root tree hash = hash.treeRoot (view client.inner).leaves := by
  unfold root
  cases hlast : client.lastSyncedHeight with
  | none =>
    have hnil : (view client.inner).leaves = [] :=
      List.eq_nil_of_length_eq_zero (by rw [h.size, h.unsynced hlast])
    rw [hnil, VoteHash.treeRoot_nil]
  | some height =>
    dsimp only
    rw [lawful.root, h.leavesAt_newest hlast, Option.map_some, Option.getD_some]

/-! ## One block -/

/-- The client after a block. -/
structure Applied (view : τ → TreeView) (client : TreeClient τ) (block : BlockCommitments)
    (client' : TreeClient τ) : Prop where
  leaves : (view client'.inner).leaves = (view client.inner).leaves ++ block.leaves
  nextPosition : client'.nextPosition = client.nextPosition + block.leaves.length
  height : client'.lastSyncedHeight = some block.height
  /-- A checkpoint is an older one, or that of the block. -/
  checkpoint : ∀ checkpoint ∈ (view client'.inner).checkpoints,
    checkpoint ∈ (view client.inner).checkpoints ∨
      checkpoint = (block.height, client'.nextPosition)
  /-- The block fits behind the client. -/
  above : ∀ last ∈ client.lastSyncedHeight, last < block.height
  marked : client'.markedPositions = client.markedPositions

theorem appendLeaves_eq (lawful : tree.Lawful hash view) (height : U32)
    (leaves : List MerkleHashVote) (s : SyncState τ σ)
    (hsize : (view s.client.inner).leaves.length = s.client.nextPosition)
    (hfits : s.client.nextPosition + leaves.length ≤ treeCapacity) :
    ∃ inner, (appendLeaves tree height leaves : SyncCall τ σ ε Unit) s =
        .ok () { s with client := { s.client with
          inner, nextPosition := s.client.nextPosition + leaves.length } } ∧
      view inner = { view s.client.inner with
        leaves := (view s.client.inner).leaves ++ leaves } := by
  induction leaves generalizing s with
  | nil => exact ⟨s.client.inner, rfl, by rw [List.append_nil]⟩
  | cons leaf leaves ih =>
    rw [List.length_cons] at hfits
    rw [appendLeaves, bind_of_ok (rfl : (get : SyncCall τ σ ε _) s = .ok s s)]
    dsimp only
    generalize (if s.client.nextPosition ∈ s.client.markedPositions then Retention.marked
      else .ephemeral) = retention
    obtain ⟨hresult, hview⟩ := lawful.append s.client.inner leaf retention (by omega)
    cases happend : tree.append s.client.inner leaf retention with
    | mk result inner =>
    rw [happend] at hresult hview
    dsimp only at hresult hview ⊢
    subst hresult
    dsimp only
    obtain ⟨final, hrest, hfinal⟩ := ih
      { s with client := { s.client with inner, nextPosition := s.client.nextPosition + 1 } }
      (by dsimp only; rw [hview, TreeView.push, List.length_append, hsize, List.length_singleton])
      (by dsimp only; omega)
    refine ⟨final, ?_, ?_⟩
    · rw [bind_of_ok (rfl : (set _ : SyncCall τ σ ε _) s = .ok ⟨⟩ _), hrest, List.length_cons]
      dsimp only
      rw [Nat.add_assoc, Nat.add_comm 1]
    · rw [hfinal, hview, TreeView.push, List.append_assoc, List.singleton_append]

theorem addCheckpoint_eq (lawful : tree.Lawful hash view) (height : U32) (s : SyncState τ σ)
    (habove : ∀ checkpoint ∈ (view s.client.inner).checkpoints, checkpoint.1 < height) :
    ∃ inner, (addCheckpoint tree height : SyncCall τ σ ε Unit) s =
        .ok () { s with client := { s.client with inner, lastSyncedHeight := some height } } ∧
      view inner = (view s.client.inner).mark height := by
  obtain ⟨hresult, hview⟩ := lawful.checkpoint s.client.inner height habove
  rw [addCheckpoint, bind_of_ok (rfl : (get : SyncCall τ σ ε _) s = .ok s s)]
  dsimp only
  cases hadded : tree.checkpoint s.client.inner height with
  | mk result inner =>
  rw [hadded] at hresult hview
  dsimp only at hresult
  subst hresult
  exact ⟨inner, rfl, hview⟩

/-- A validated block is applied, and the sync goes on if its root is that of the leaves. -/
theorem applyBlock_eq (lawful : tree.Lawful hash view) (block : BlockCommitments)
    (s : SyncState τ σ) (hcoherent : Coherent view s.client)
    (habove : ∀ last ∈ s.client.lastSyncedHeight, last < block.height)
    (hstart : block.leaves = [] ∨ block.startIndex.val = s.client.nextPosition)
    (hfits : s.client.nextPosition + block.leaves.length ≤ treeCapacity) :
    ∃ client, Coherent view client ∧ Applied view s.client block client ∧
      (applyBlock tree block : SyncCall τ σ ε Unit) s =
        if hash.treeRoot (view client.inner).leaves = block.root then .ok () { s with client }
        else .error (.failed (.rootMismatch block.height
          (some (hash.treeRoot (view client.inner).leaves)) block.root)) { s with client } := by
  obtain ⟨appended, happend, happended⟩ :=
    appendLeaves_eq (σ := σ) (ε := ε) lawful block.height block.leaves s hcoherent.size hfits
  have hbelow : ∀ checkpoint ∈ (view appended).checkpoints, checkpoint.1 < block.height := by
    intro checkpoint hmem
    rw [happended] at hmem
    obtain ⟨last, hlast, hle⟩ := hcoherent.checkpoint_le hmem
    exact lt_of_le_of_lt hle (habove last hlast)
  obtain ⟨inner, hcheckpoint, hmarked⟩ := addCheckpoint_eq (ε := ε) lawful block.height
    { s with client := { s.client with
      inner := appended, nextPosition := s.client.nextPosition + block.leaves.length } } hbelow
  dsimp only at hcheckpoint hmarked
  have hlength : (view appended).leaves.length =
      s.client.nextPosition + block.leaves.length := by
    rw [happended, List.length_append, hcoherent.size]
  have hleaves : (view inner).leaves = (view s.client.inner).leaves ++ block.leaves := by
    rw [hmarked, TreeView.mark, happended]
  let client : TreeClient τ := { s.client with
    inner, nextPosition := s.client.nextPosition + block.leaves.length
    lastSyncedHeight := some block.height }
  have hclient : Coherent view client :=
    { size := by rw [hleaves, List.length_append, hcoherent.size]
      capacity := hfits
      ascending := by
        rw [hmarked]
        refine TreeView.pairwise_mark ?_ hbelow
        rw [happended]
        exact hcoherent.ascending
      newest := by
        rw [hmarked, TreeView.getLast?_mark, hlength]
        rfl
      unsynced := by simp [client] }
  have happlied : Applied view s.client block client :=
    { leaves := hleaves
      nextPosition := rfl
      height := rfl
      checkpoint := by
        intro checkpoint hmem
        rw [hmarked] at hmem
        have hcases := TreeView.mem_mark hmem
        rwa [hlength, happended] at hcases
      above := habove
      marked := rfl }
  refine ⟨client, hclient, happlied, ?_⟩
  have hroot : client.rootAtHeight tree block.height =
      some (hash.treeRoot (view client.inner).leaves) := by
    rw [rootAtHeight, lawful.root, hclient.leavesAt_newest rfl, Option.map_some]
  rw [applyBlock, bind_of_ok (rfl : (get : SyncCall τ σ ε _) s = .ok s s),
    bind_of_ok (ensure_of hstart), bind_of_ok happend,
    bind_of_ok hcheckpoint, bind_of_ok (rfl : (get : SyncCall τ σ ε _) _ = .ok _ _)]
  change ensure (client.rootAtHeight tree block.height = some block.root) (.rootMismatch block.height
    (client.rootAtHeight tree block.height) block.root) { s with client } = _
  simp only [ensure_eq, hroot, Option.some_inj]

/-! ## Validated pages -/

/-- What validation has checked of the first block. -/
theorem validateBlocks_cons {next : Nat} {last : Option U32} {block : BlockCommitments}
    {blocks : List BlockCommitments} (hnext : next ≤ treeCapacity) :
    (validateBlocks next last (block :: blocks) : Except (SyncError ε) Unit) = .ok () ↔
      (∀ previous ∈ last, previous < block.height) ∧
      (block.leaves = [] ∨ block.startIndex.val = next) ∧
      next + block.leaves.length ≤ treeCapacity ∧
      (validateBlocks (next + block.leaves.length) (some block.height) blocks :
        Except (SyncError ε) Unit) = .ok () := by
  have hcapacity : treeCapacity < u64Max := by decide
  have hlast : last.filter (block.height ≤ ·) = none ↔ ∀ previous ∈ last, previous < block.height := by
    simp [Option.filter_eq_none_iff]
  rw [validateBlocks]
  cases hfilter : last.filter (block.height ≤ ·) with
  | some previous =>
    have hnone : ¬ ∀ previous ∈ last, previous < block.height := by
      rw [← hlast, hfilter]
      simp
    exact iff_of_false (by simp) fun h => hnone h.1
  | none =>
    have hall := hlast.mp hfilter
    dsimp only
    by_cases hempty : block.leaves = []
    · rw [if_pos hempty, hempty, List.length_nil, Nat.add_zero]
      exact ⟨fun h => ⟨hall, .inl rfl, hnext, h⟩, fun h => h.2.2.2⟩
    · rw [if_neg hempty]
      by_cases hstart : block.startIndex.val = next
      · by_cases hfits : next + block.leaves.length ≤ treeCapacity
        · have hmin : min (next + block.leaves.length) u64Max = next + block.leaves.length := by omega
          rw [hstart, hmin, if_neg (by omega), if_neg (by simp), if_neg (by omega)]
          exact ⟨fun h => ⟨hall, .inr rfl, hfits, h⟩, fun h => h.2.2.2⟩
        · rw [hstart, if_pos (by omega)]
          exact iff_of_false (by simp) fun h => hfits h.2.2.1
      · refine iff_of_false ?_ fun h => h.2.1.elim hempty hstart
        split <;> simp

/-! ## The invariant rule -/

/-- A request for a page, with the page that was served. -/
structure PageRequest where
  fromHeight : U32
  toHeight : U32
  page : Option BlockCommitmentsPage
  deriving DecidableEq

/-- The server's state has a log of the requests for pages. -/
structure Logs (api : TreeSyncApi σ ε) (log : σ → List PageRequest) : Prop where
  state : ∀ server, log (api.getTreeState server).2 = log server
  page : ∀ server fromHeight toHeight, log (api.getBlockCommitments server fromHeight toHeight).2 =
    log server ++ [⟨fromHeight, toHeight,
      (api.getBlockCommitments server fromHeight toHeight).1.toOption⟩]
  elapsed : ∀ server, log (api.elapsed server).2 = log server

/-- The block was served in answer to a request. -/
def Served (log : List PageRequest) (request : PageRequest) (block : BlockCommitments) : Prop :=
  request ∈ log ∧ ∃ page, request.page = some page ∧ block ∈ page.blocks

/-- A property of the client and of the requests so far that a sync keeps, block by block.  At
a block whose root differs another property takes its place. -/
structure SyncRule (hash : VoteHash) (view : τ → TreeView)
    (good broken : TreeClient τ → List PageRequest → Prop) : Prop where
  asked : ∀ client log request, good client log → good client (log ++ [request])
  verified : ∀ client log request block client', good client log → Served log request block →
    Coherent view client' → Applied view client block client' →
    hash.treeRoot (view client'.inner).leaves = block.root → good client' log
  mismatched : ∀ client log request block client', good client log → Served log request block →
    Coherent view client' → Applied view client block client' →
    hash.treeRoot (view client'.inner).leaves ≠ block.root → broken client' log

section Rule

variable {good broken : TreeClient τ → List PageRequest → Prop} {log : σ → List PageRequest}
  {limit : Nat} {overflows : Prop}

/-- The state of a sync that goes well: no more requests than the limit, a coherent client,
and the property. -/
structure Kept (view : τ → TreeView) (good : TreeClient τ → List PageRequest → Prop)
    (log : σ → List PageRequest) (limit : Nat) (s : SyncState τ σ) : Prop where
  requests : (log s.server).length ≤ limit
  coherent : Coherent view s.client
  property : good s.client (log s.server)

/-- The state in which a sync stops.  It panics only when the addition overflows. -/
structure Stopped (view : τ → TreeView) (good broken : TreeClient τ → List PageRequest → Prop)
    (log : σ → List PageRequest) (limit : Nat) (overflows : Prop) (fault : SyncFault ε)
    (s : SyncState τ σ) : Prop where
  requests : (log s.server).length ≤ limit
  coherent : Coherent view s.client
  property : good s.client (log s.server) ∨
    (fault.isRootMismatch = true ∧ broken s.client (log s.server))
  panicked : fault = .panicked → overflows

theorem Kept.stopped {s : SyncState τ σ} (h : Kept view good log limit s) (error : SyncError ε) :
    Stopped view good broken log limit overflows (.failed error) s :=
  ⟨h.requests, h.coherent, .inl h.property, by simp⟩

/-- A step of the server that leaves the log. -/
theorem Kept.of_log_eq {client : TreeClient τ} {server server' : σ}
    (h : Kept view good log limit ⟨client, server⟩) (hlog : log server' = log server) :
    Kept view good log limit ⟨client, server'⟩ :=
  ⟨by rw [hlog]; exact h.requests, h.coherent, by rw [hlog]; exact h.property⟩

theorem checkSyncDuration_kept {api : TreeSyncApi σ ε} (logs : Logs api log) {limits : SyncLimits}
    {s : SyncState τ σ} (h : Kept view good log limit s) :
    Ends (checkSyncDuration api limits) s
      (fun _ s' => log s'.server = log s.server ∧ s'.client = s.client ∧ Kept view good log limit s')
      (Stopped view good broken log limit overflows) :=
  have hkept := h.of_log_eq (logs.elapsed s.server)
  checkSyncDuration_ends ⟨logs.elapsed s.server, rfl, hkept⟩ (hkept.stopped _)

theorem applyBlocks_kept (lawful : tree.Lawful hash view) (rule : SyncRule hash view good broken)
    (request : PageRequest) (blocks : List BlockCommitments) (s : SyncState τ σ)
    (hserved : ∀ block ∈ blocks, Served (log s.server) request block)
    (h : Kept view good log limit s)
    (hvalid : (validateBlocks s.client.nextPosition s.client.lastSyncedHeight blocks :
      Except (SyncError ε) Unit) = .ok ()) :
    Ends (applyBlocks tree blocks : SyncCall τ σ ε Unit) s
      (fun _ s' => s'.server = s.server ∧ Kept view good log limit s')
      (Stopped view good broken log limit overflows) := by
  induction blocks generalizing s with
  | nil => exact ⟨rfl, h⟩
  | cons block blocks ih =>
    obtain ⟨habove, hstart, hfits, hrest⟩ := (validateBlocks_cons h.coherent.capacity).mp hvalid
    obtain ⟨client, hclient, happlied, heq⟩ :=
      applyBlock_eq (ε := ε) lawful block s h.coherent habove hstart hfits
    have hblock := hserved block List.mem_cons_self
    by_cases hroot : hash.treeRoot (view client.inner).leaves = block.root
    · rw [if_pos hroot] at heq
      have hgood := rule.verified _ _ _ _ _ h.property hblock hclient happlied hroot
      have hlater := ih { s with client }
        (fun other hother => hserved other (List.mem_cons_of_mem _ hother))
        ⟨h.requests, hclient, hgood⟩
        (by dsimp only; rw [happlied.nextPosition, happlied.height]; exact hrest)
      rw [applyBlocks, Ends, bind_of_ok heq]
      exact hlater
    · rw [if_neg hroot] at heq
      rw [applyBlocks, Ends, bind_of_error heq]
      exact ⟨h.requests, hclient, .inr ⟨rfl,
        rule.mismatched _ _ _ _ _ h.property hblock hclient happlied hroot⟩, by simp⟩

/-- The loop fetches no more pages than it may, and keeps the property. -/
theorem syncPages_kept (lawful : tree.Lawful hash view) (rule : SyncRule hash view good broken)
    {api : TreeSyncApi σ ε} (logs : Logs api log) (limits : SyncLimits) (toHeight : U32)
    (remaining : Nat) (pageFrom : U32) (s : SyncState τ σ)
    (hremaining : (log s.server).length + remaining ≤ limit)
    (h : Kept view good log limit s) :
    Ends (syncPages tree api limits toHeight remaining pageFrom) s
      (fun _ s' => Kept view good log limit s')
      (Stopped view good broken log limit overflows) := by
  induction remaining generalizing pageFrom s with
  | zero =>
    refine Ends.bind ((checkSyncDuration_kept logs h).mono (fun _ s' h' => ?_) fun _ _ h' => h')
    exact Ends.throw (h'.2.2.stopped _)
  | succ remaining ih =>
    refine Ends.bind ((checkSyncDuration_kept logs h).mono (fun _ s₁ h₁ => ?_) fun _ _ h' => h')
    obtain ⟨hlog, -, h₁⟩ := h₁
    rw [← hlog] at hremaining
    have hpage := logs.page s₁.server pageFrom toHeight
    have hasked : Kept view good log limit
        { s₁ with server := (api.getBlockCommitments s₁.server pageFrom toHeight).2 } := by
      refine ⟨?_, h₁.coherent, ?_⟩
      · dsimp only
        rw [hpage, List.length_append, List.length_singleton]
        omega
      · dsimp only
        rw [hpage]
        exact rule.asked _ _ _ h₁.property
    refine Ends.bind (ask_ends (fun page hanswer => ?_) fun _ _ => hasked.stopped _)
    have hlength : (log (api.getBlockCommitments s₁.server pageFrom toHeight).2).length + remaining ≤
        limit := by
      rw [hpage, List.length_append, List.length_singleton]
      omega
    rw [hanswer] at hpage
    generalize (api.getBlockCommitments s₁.server pageFrom toHeight).2 = answered at *
    refine Ends.bind ((checkSyncDuration_kept logs hasked).mono (fun _ s₂ h₂ => ?_) fun _ _ h' => h')
    obtain ⟨hlog₂, -, h₂⟩ := h₂
    dsimp only at hlog₂
    rw [← hlog₂] at hpage hlength
    refine Ends.bind (validatePage_ends (fun hvalid => ?_) fun _ _ => h₂.stopped _)
    -- the request that was just logged served the blocks of the page
    have hserved : ∀ block ∈ page.blocks,
        Served (log s₂.server) ⟨pageFrom, toHeight, some page⟩ block := by
      intro block hblock
      refine ⟨?_, page, rfl, hblock⟩
      rw [hpage]
      exact List.mem_append_right _ (List.mem_singleton_self _)
    refine Ends.bind ((applyBlocks_kept lawful rule _ page.blocks s₂ hserved h₂ hvalid).mono
      (fun _ s₃ h₃ => ?_) fun _ _ h' => h')
    obtain ⟨hserver, h₃⟩ := h₃
    rw [← hserver] at hlength
    split
    · exact Ends.pure h₃
    · refine Ends.bind (ensure_ends (fun _ => ?_) fun _ => h₃.stopped _)
      exact Ends.bind (ensure_ends (fun _ => ih page.nextFromHeight s₃ hlength h₃)
        fun _ => h₃.stopped _)

/-- A sync fetches no more pages than it may, and keeps the property.  It panics only at the
last height there is. -/
theorem syncWithLimits_kept (lawful : tree.Lawful hash view)
    (rule : SyncRule hash view good broken) (overflowChecks : Bool) {api : TreeSyncApi σ ε}
    (logs : Logs api log) (limits : SyncLimits) (s : SyncState τ σ)
    (hcoherent : Coherent view s.client) (hgood : good s.client (log s.server)) :
    Ends (syncWithLimits tree hash overflowChecks api limits) s
      (fun _ s' => Kept view good log ((log s.server).length + limits.maxPages) s')
      (Stopped view good broken log ((log s.server).length + limits.maxPages)
        (∃ last ∈ s.client.lastSyncedHeight, last.val = u32Max)) := by
  have h : Kept view good log ((log s.server).length + limits.maxPages) s :=
    ⟨Nat.le_add_right _ _, hcoherent, hgood⟩
  have h₁ := h.of_log_eq (logs.state s.server)
  refine Ends.bind (ask_ends (fun state _ => ?_) fun _ _ => h₁.stopped _)
  refine Ends.bind ((checkSyncDuration_kept logs h₁).mono (fun _ s₂ h₂ => ?_) fun _ _ h' => h')
  obtain ⟨hlog, hclient, h₂⟩ := h₂
  dsimp only at hlog hclient
  rw [logs.state] at hlog
  refine Ends.bind (ensure_ends (fun _ => ?_) fun _ => h₂.stopped _)
  refine Ends.bind (Ends.get ?_)
  -- the comparison with the tip changes nothing
  have htip : ∀ s' : SyncState τ σ,
      Kept view good log ((log s.server).length + limits.maxPages) s' →
      Ends (checkTipRoot tree hash state) s'
        (fun _ s' => Kept view good log ((log s.server).length + limits.maxPages) s')
        (Stopped view good broken log ((log s.server).length + limits.maxPages)
          (∃ last ∈ s.client.lastSyncedHeight, last.val = u32Max) : SyncFault ε → _) :=
    fun s' h' => Ends.bind (Ends.get (ensure_ends (fun _ => h') fun _ => h'.stopped _))
  split
  · exact htip s₂ h₂
  · have hstart : Ends (fromHeight overflowChecks s₂.client.lastSyncedHeight : SyncCall τ σ ε U32) s₂
        (fun _ s' => s' = s₂) (Stopped view good broken log ((log s.server).length + limits.maxPages)
          (∃ last ∈ s.client.lastSyncedHeight, last.val = u32Max)) := by
      rw [hclient]
      cases hlast : s.client.lastSyncedHeight with
      | none => exact Ends.pure rfl
      | some last =>
        rw [fromHeight]
        split
        · exact Ends.pure rfl
        · next hover =>
          split
          · refine Ends.throw ⟨h₂.requests, h₂.coherent, .inl h₂.property, fun _ => ⟨last, rfl, ?_⟩⟩
            have := last.property
            omega
          · exact Ends.pure rfl
    refine Ends.bind (hstart.mono (fun pageFrom s₃ h₃ => ?_) fun _ _ h' => h')
    subst h₃
    split
    · exact Ends.pure h₂
    · refine Ends.bind ((syncPages_kept lawful rule logs limits state.height limits.maxPages pageFrom
        s₃ (by rw [hlog]) h₂).mono (fun _ s₄ h₄ => ?_) fun _ _ h' => h')
      exact Ends.bind (Ends.get (Ends.bind (ensure_ends (fun _ => htip s₄ h₄)
        fun _ => h₄.stopped _)))

end Rule

end ZcashVoting.VoteCommitmentTree.TreeClient
