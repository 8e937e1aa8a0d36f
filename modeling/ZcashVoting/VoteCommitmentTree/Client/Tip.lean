import ZcashVoting.VoteCommitmentTree.Client

/-!
# ZcashVoting.VoteCommitmentTree.Client.Tip

A sync that ends well has reached the tip that the server advertised, whatever tree the
client keeps and whatever the server answers, unless the sync returned early because the
advertised height was not above the last synced one.
-/

namespace ZcashVoting.VoteCommitmentTree.TreeClient

open Stateful SyncApi

variable {τ σ ε : Type} {tree : ShardTree τ} {hash : VoteHash} {s s' : SyncState τ σ}
  {api : TreeSyncApi σ ε} {limits : SyncLimits}

/-! ## Parts of a sync that end well -/

theorem ensure_eq_ok {condition : Prop} [Decidable condition] {error : SyncError ε}
    (h : ensure condition error s = .ok () s') : condition ∧ s' = s := by
  unfold ensure at h
  split at h
  · next hcondition =>
    cases h
    exact ⟨hcondition, rfl⟩
  · cases h

theorem ask_eq_ok {α : Type} {question : σ → Except ε α × σ} {answer : α}
    (h : ask question s = .ok answer s') :
    (question s.server).1 = .ok answer ∧ s' = { s with server := (question s.server).2 } := by
  unfold ask at h
  split at h
  · next hquestion =>
    cases h
    rw [hquestion]
    exact ⟨rfl, rfl⟩
  · cases h

theorem checkSyncDuration_eq_ok (h : checkSyncDuration api limits s = .ok () s') :
    (api.elapsed s.server).1 ≤ limits.maxDuration ∧ s'.client = s.client := by
  obtain ⟨_, _, hget, hrest⟩ := bind_eq_ok h
  cases hget
  obtain ⟨_, _, hset, hensure⟩ := bind_eq_ok hrest
  cases hset
  obtain ⟨helapsed, rfl⟩ := ensure_eq_ok hensure
  exact ⟨helapsed, rfl⟩

theorem checkTipRoot_eq_ok {state : SyncApi.TreeState}
    (h : (checkTipRoot tree hash state : SyncCall τ σ ε Unit) s = .ok () s') :
    s' = s ∧ (0 < state.nextIndex.val → s.client.root tree hash = state.root) := by
  obtain ⟨_, _, hget, hensure⟩ := bind_eq_ok h
  cases hget
  obtain ⟨hroot, rfl⟩ := ensure_eq_ok hensure
  refine ⟨rfl, fun hpositive => ?_⟩
  rcases hroot with hzero | hroot
  · omega
  · exact hroot

/-- The height to start from is not above one that the last synced height is below, nor is
the wrapped one. -/
theorem fromHeight_le {overflowChecks : Bool} {last : Option U32} {height start : U32}
    (hlast : ∀ h ∈ last, h < height ∨ h.val = u32Max)
    (h : (fromHeight overflowChecks last : SyncCall τ σ ε U32) s = .ok start s') :
    start ≤ height ∧ s' = s := by
  cases last with
  | none =>
    cases h
    exact ⟨Nat.zero_le _, rfl⟩
  | some last =>
    have hbound := height.property
    obtain hlt | hmax := hlast last rfl
    · have hlt : last.val < height.val := hlt
      rw [fromHeight, dif_pos (by omega)] at h
      injection h with hstart hs
      rw [← hstart, ← hs]
      exact ⟨hlt, rfl⟩
    · rw [fromHeight, dif_neg (by omega)] at h
      split at h
      · cases h
      · cases h
        exact ⟨Nat.zero_le _, rfl⟩

/-! ## The early exit -/

theorem ask_of_ok {α : Type} {question : σ → Except ε α × σ} {answer : α}
    (h : (question s.server).1 = .ok answer) :
    (ask question : SyncCall τ σ ε α) s =
      .ok answer { s with server := (question s.server).2 } := by
  unfold ask
  cases hquestion : question s.server with
  | mk result server =>
    rw [hquestion] at h
    simp only at h
    simp [h]

theorem checkSyncDuration_of_le (h : (api.elapsed s.server).1 ≤ limits.maxDuration) :
    (checkSyncDuration api limits : SyncCall τ σ ε Unit) s =
      .ok () { s with server := (api.elapsed s.server).2 } := by
  have hcheck : (checkSyncDuration api limits : SyncCall τ σ ε Unit) s =
      ensure ((api.elapsed s.server).1 ≤ limits.maxDuration) (.timeLimitExceeded limits.maxDuration)
        { s with server := (api.elapsed s.server).2 } := rfl
  rw [hcheck, ensure_of h]

/-- A height that the last synced one has reached ends the sync, with the client as it was. -/
theorem sync_early {overflowChecks : Bool} {state : SyncApi.TreeState} {last : U32}
    (hstate : (api.getTreeState s.server).1 = .ok state)
    (htime : (api.elapsed (api.getTreeState s.server).2).1 ≤ limits.maxDuration)
    (hcapacity : state.nextIndex.val ≤ treeCapacity)
    (hdiffers : state.nextIndex.val ≠ s.client.nextPosition)
    (hlast : s.client.lastSyncedHeight = some last) (hreached : state.height ≤ last)
    (hnext : last.val ≠ u32Max) : ∃ s',
      syncWithLimits tree hash overflowChecks api limits s = .ok () s' ∧ s'.client = s.client := by
  have hbound := last.property
  have hfrom : last.val + 1 ≤ u32Max := by omega
  refine ⟨{ s with server := (api.elapsed (api.getTreeState s.server).2).2 }, ?_, rfl⟩
  rw [syncWithLimits, bind_of_ok (ask_of_ok hstate), bind_of_ok (checkSyncDuration_of_le htime),
    bind_of_ok (ensure_of hcapacity), bind_of_ok (rfl : (get : SyncCall τ σ ε _) _ = .ok _ _),
    if_neg hdiffers]
  have hstart : (fromHeight overflowChecks s.client.lastSyncedHeight : SyncCall τ σ ε U32)
      { s with server := (api.elapsed (api.getTreeState s.server).2).2 } =
        .ok ⟨last.val + 1, hfrom⟩ { s with server := (api.elapsed (api.getTreeState s.server).2).2 } := by
    rw [hlast, fromHeight, dif_pos hfrom]
    rfl
  have hbelow : state.height < (⟨last.val + 1, hfrom⟩ : U32) := Nat.lt_succ_of_le hreached
  rw [bind_of_ok hstart, if_pos hbelow]
  rfl

/-- **A sync that ends well is at the advertised tip**, with as many leaves and the root,
exactly if it cannot end at the early exit: the leaves are as many as before, the
advertised ones do not fit the tree, the time is over, or the advertised height is above
the last synced one (or that one is the last height there is). -/
theorem synced_at_tip (tree : ShardTree τ) (hash : VoteHash) (overflowChecks : Bool)
    (api : TreeSyncApi σ ε) (limits : SyncLimits) (s : SyncState τ σ)
    (state : SyncApi.TreeState) (hstate : (api.getTreeState s.server).1 = .ok state) :
    (∀ s', syncWithLimits tree hash overflowChecks api limits s = .ok () s' →
      s'.client.nextPosition = state.nextIndex.val ∧
        (0 < state.nextIndex.val → s'.client.root tree hash = state.root)) ↔
    state.nextIndex.val = s.client.nextPosition ∨ treeCapacity < state.nextIndex.val ∨
      limits.maxDuration < (api.elapsed (api.getTreeState s.server).2).1 ∨
      ∀ h ∈ s.client.lastSyncedHeight, h < state.height ∨ h.val = u32Max := by
  constructor
  · intro htip
    by_contra hexit
    simp only [not_or, not_lt, not_forall] at hexit
    obtain ⟨hdiffers, hcapacity, htime, last, hlast, hreached, hnext⟩ := hexit
    obtain ⟨s', hok, hclient⟩ := sync_early hstate htime hcapacity hdiffers hlast
      hreached hnext
    exact hdiffers (hclient ▸ (htip s' hok).1).symm
  intro hahead s' hok
  obtain ⟨fetched, s₁, hask, hrest⟩ := bind_eq_ok hok
  obtain ⟨hfetched, rfl⟩ := ask_eq_ok hask
  obtain rfl : state = fetched := by
    rw [hstate] at hfetched
    exact Except.ok.inj hfetched
  obtain ⟨_, s₂, hclock, hchecked⟩ := bind_eq_ok hrest
  obtain ⟨htime, hclient⟩ := checkSyncDuration_eq_ok hclock
  obtain ⟨_, _, hensure, hrest⟩ := bind_eq_ok hchecked
  obtain ⟨hcapacity, rfl⟩ := ensure_eq_ok hensure
  obtain ⟨_, _, hget, hbranch⟩ := bind_eq_ok hrest
  cases hget
  rw [hclient] at hbranch
  dsimp only at hbranch
  split at hbranch
  · next hsame =>
    obtain ⟨rfl, hroot⟩ := checkTipRoot_eq_ok hbranch
    rw [hclient] at hroot ⊢
    exact ⟨hsame.symm, hroot⟩
  · next hdiffers =>
    have habove := ((hahead.resolve_left hdiffers).resolve_left hcapacity.not_gt).resolve_left
      htime.not_gt
    obtain ⟨start, _, hstart, hloop⟩ := bind_eq_ok hbranch
    obtain ⟨hle, rfl⟩ := fromHeight_le habove hstart
    rw [if_neg (not_lt.mpr hle)] at hloop
    obtain ⟨_, s₃, -, htip⟩ := bind_eq_ok hloop
    obtain ⟨_, _, hget, hcounted⟩ := bind_eq_ok htip
    cases hget
    obtain ⟨_, _, hcomplete, hcompared⟩ := bind_eq_ok hcounted
    obtain ⟨hcount, rfl⟩ := ensure_eq_ok hcomplete
    obtain ⟨rfl, hroot⟩ := checkTipRoot_eq_ok hcompared
    exact ⟨hcount, hroot⟩

/-! ## Servers that answer the same every time -/

/-- A server with one state and one page. -/
def fixedApi (state : SyncApi.TreeState) (page : BlockCommitmentsPage) : TreeSyncApi Unit Empty where
  getTreeState _ := (.ok state, ())
  getBlockCommitments _ _ _ := (.ok page, ())
  elapsed _ := (0, ())

/-- A hash that keeps its left argument. -/
def leftHash : VoteHash := ⟨fun left _ => left⟩

instance byte_neZero : NeZero 256 := ⟨by decide⟩

/-- A small leaf. -/
def sampleLeaf (value : Fin 256) : MerkleHashVote :=
  ⟨value.val, lt_trans value.isLt (by decide)⟩

/-- A block with one leaf at the start of the tree. -/
def firstBlock (height : U32) : BlockCommitments :=
  ⟨height, ⟨0, Nat.zero_le _⟩, [sampleLeaf 1], sampleLeaf 1⟩

/-- A tree with one leaf. -/
def firstState (height : U32) : SyncApi.TreeState := ⟨1, sampleLeaf 1, height⟩

/-- The sync of the first block. -/
def firstSync (height : U32) : SyncCall ListTree Unit Empty Unit :=
  sync (listTree leftHash) leftHash true
    (fixedApi (firstState height) ⟨[firstBlock height], ⟨0, Nat.zero_le _⟩⟩)

/-- The client after it synced the first block. -/
def firstSynced (height : U32) : SyncState ListTree Unit :=
  after (firstSync height) ⟨empty (listTree leftHash), ()⟩

/-- The first sync reaches the advertised leaf. -/
theorem synced_at_tip_first_block :
    (firstSynced ⟨5, by decide⟩).client.nextPosition = 1 ∧
      (firstSynced ⟨5, by decide⟩).client.root (listTree leftHash) leftHash = sampleLeaf 1 := by
  have hends : Ends (firstSync ⟨5, by decide⟩) ⟨empty (listTree leftHash), ()⟩
      (fun _ _ => True) (fun _ _ => False) := by decide +kernel
  have htip := (synced_at_tip (listTree leftHash) leftHash true _ SyncLimits.default _
    (firstState ⟨5, by decide⟩) rfl).mpr (.inr (.inr (.inr (by simp [empty])))) _ hends.eq_ok_after
  exact ⟨htip.1, htip.2 (by decide)⟩

/-- A server at the same height with one leaf more is taken for synced. -/
theorem stale_tip_accepted :
    Ends (sync (listTree leftHash) leftHash true
        (fixedApi ⟨⟨2, by decide⟩, sampleLeaf 2, ⟨5, by decide⟩⟩ ⟨[], ⟨0, by decide⟩⟩))
      (firstSynced ⟨5, by decide⟩)
      (fun _ s => s.client.nextPosition = 1 ∧
        s.client.root (listTree leftHash) leftHash = sampleLeaf 1)
      (fun _ _ => False) := by
  decide +kernel

end ZcashVoting.VoteCommitmentTree.TreeClient
