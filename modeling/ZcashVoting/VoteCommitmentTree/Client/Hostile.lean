import Mathlib.Data.List.Pairwise
import ZcashVoting.VoteCommitmentTree.Client.Applied
import ZcashVoting.VoteCommitmentTree.Client.Tip

/-!
# ZcashVoting.VoteCommitmentTree.Client.Hostile

Clients that synced with any servers, in any order.  The number of requests and the number of
leaves stay bounded whatever the servers answer.  Heights do not: the client takes the height
of a block as it is served.  When served heights lie in the range that was requested, nothing
overflows; and when the client has the leaves of an honest chain up to its last synced height,
a sync with that chain brings it the others.
-/

namespace ZcashVoting.VoteCommitmentTree.TreeClient

open Stateful SyncApi

variable {τ σ ε : Type} {tree : ShardTree τ} {hash : VoteHash} {view : τ → TreeView}

/-! ## Honest chains -/

/-- The leaves of blocks in turn. -/
def leavesOf (blocks : List BlockCommitments) : List MerkleHashVote := blocks.flatMap (·.leaves)

/-- Blocks that follow the leaves before them, with their roots. -/
def Placed (hash : VoteHash) : List MerkleHashVote → List BlockCommitments → Prop
  | _, [] => True
  | before, block :: blocks =>
    block.startIndex.val = before.length ∧ block.root = hash.treeRoot (before ++ block.leaves) ∧
      Placed hash (before ++ block.leaves) blocks

theorem Placed.append {before : List MerkleHashVote} {first second : List BlockCommitments}
    (h : Placed hash before (first ++ second)) :
    Placed hash before first ∧ Placed hash (before ++ leavesOf first) second := by
  induction first generalizing before with
  | nil => exact ⟨trivial, by simpa [leavesOf] using h⟩
  | cons block first ih =>
    obtain ⟨hstart, hroot, hrest⟩ := h
    obtain ⟨hfirst, hsecond⟩ := ih hrest
    refine ⟨⟨hstart, hroot, hfirst⟩, ?_⟩
    rwa [leavesOf, List.flatMap_cons, ← List.append_assoc]

/-- A chain as its blocks, with the height of its tip. -/
structure HonestChain (hash : VoteHash) where
  blocks : List BlockCommitments
  tip : U32
  ascending : blocks.Pairwise (·.height < ·.height)
  below : ∀ block ∈ blocks, block.height ≤ tip
  placed : Placed hash [] blocks
  fits : (leavesOf blocks).length ≤ treeCapacity

namespace HonestChain

variable (chain : HonestChain hash)

/-- All leaves. -/
def leaves : List MerkleHashVote := leavesOf chain.blocks

/-- The state that the chain advertises. -/
def state : SyncApi.TreeState :=
  ⟨⟨chain.leaves.length, le_trans chain.fits (by decide)⟩, hash.treeRoot chain.leaves, chain.tip⟩

/-- The blocks from a height on, below another. -/
def between (start stop : Nat) : List BlockCommitments :=
  chain.blocks.filter fun block => start ≤ block.height.val ∧ block.height.val < stop

/-- The leaves below a height. -/
def leavesBelow (height : Nat) : List MerkleHashVote := leavesOf (chain.between 0 height)

end HonestChain

/-- The server answers from the chain.  It may break off a page where it likes. -/
structure Serves (api : TreeSyncApi σ ε) (chain : HonestChain hash) : Prop where
  state : ∀ server, (api.getTreeState server).1 = .ok chain.state
  page : ∀ server fromHeight, ∃ next : U32,
    (api.getBlockCommitments server fromHeight chain.tip).1 = .ok
      ⟨chain.between fromHeight.val (if next.val = 0 then chain.tip.val + 1 else next.val), next⟩ ∧
    (next.val = 0 ∨ (fromHeight < next ∧ next ≤ chain.tip))

/-- An ascending list is split at a bound. -/
theorem filter_append_filter {blocks : List BlockCommitments}
    (hascending : blocks.Pairwise (·.height < ·.height)) (start middle stop : Nat)
    (hstart : start ≤ middle) (hstop : middle ≤ stop) :
    (blocks.filter fun block => start ≤ block.height.val ∧ block.height.val < middle) ++
        (blocks.filter fun block => middle ≤ block.height.val ∧ block.height.val < stop) =
      blocks.filter fun block => start ≤ block.height.val ∧ block.height.val < stop := by
  induction blocks with
  | nil => rfl
  | cons block blocks ih =>
    obtain ⟨hfirst, hrest⟩ := List.pairwise_cons.mp hascending
    have ih := ih hrest
    by_cases hbelow : block.height.val < middle
    · have hnot : ¬(middle ≤ block.height.val ∧ block.height.val < stop) := by omega
      have hiff : (start ≤ block.height.val ∧ block.height.val < middle) ↔
          (start ≤ block.height.val ∧ block.height.val < stop) := by omega
      simp only [List.filter_cons, hnot, hiff, decide_false, Bool.false_eq_true, if_false]
      split
      · rw [List.cons_append, ih]
      · exact ih
    · -- every later block is above the bound too
      have hnone : (block :: blocks).filter (fun block =>
          start ≤ block.height.val ∧ block.height.val < middle) = [] := by
        refine List.filter_eq_nil_iff.mpr fun other hother => ?_
        rcases List.mem_cons.mp hother with rfl | hlater
        · simp [hbelow]
        · have hlt : block.height.val < other.height.val := hfirst other hlater
          simp only [decide_eq_true_eq]
          omega
      rw [hnone, List.nil_append]
      refine List.filter_congr fun other hother => ?_
      have hmiddle : middle ≤ other.height.val := by
        rcases List.mem_cons.mp hother with rfl | hlater
        · omega
        · have hlt : block.height.val < other.height.val := hfirst other hlater
          omega
      simp only [decide_eq_decide]
      omega

namespace HonestChain

variable (chain : HonestChain hash)

/-- Nothing is above the tip. -/
theorem between_of_tip_lt {height : Nat} (h : chain.tip.val < height) :
    chain.between 0 height = chain.blocks := by
  refine List.filter_eq_self.mpr fun block hblock => ?_
  have hle : block.height.val ≤ chain.tip.val := chain.below block hblock
  simp only [decide_eq_true_eq]
  omega

theorem leavesBelow_of_tip_lt {height : Nat} (h : chain.tip.val < height) :
    chain.leavesBelow height = chain.leaves := by
  rw [leavesBelow, chain.between_of_tip_lt h, leaves]

theorem leavesBelow_append {start stop : Nat} (h : start ≤ stop) :
    chain.leavesBelow stop = chain.leavesBelow start ++ leavesOf (chain.between start stop) := by
  rw [leavesBelow, leavesBelow, between, between, between,
    ← filter_append_filter chain.ascending 0 start stop (Nat.zero_le _) h, leavesOf,
    List.flatMap_append]
  rfl

/-- A stretch of the chain follows the leaves below it. -/
theorem placed_between {start stop : Nat} (hstart : start ≤ stop) (hstop : stop ≤ chain.tip.val + 1) :
    Placed hash (chain.leavesBelow start) (chain.between start stop) := by
  have hsplit : chain.between 0 start ++ (chain.between start stop ++
      chain.between stop (chain.tip.val + 1)) = chain.blocks := by
    rw [between, between, between, filter_append_filter chain.ascending _ _ _ hstart hstop,
      filter_append_filter chain.ascending _ _ _ (Nat.zero_le _) (hstart.trans hstop)]
    exact chain.between_of_tip_lt (Nat.lt_succ_self _)
  have hplaced := chain.placed
  rw [← hsplit] at hplaced
  exact (hplaced.append.2).append.1

theorem ascending_between (start stop : Nat) :
    (chain.between start stop).Pairwise (·.height < ·.height) :=
  chain.ascending.filter _

/-- As many leaves below a height as there are are all of them. -/
theorem leavesBelow_eq_of_length {height : Nat}
    (h : (chain.leavesBelow height).length = chain.leaves.length) :
    chain.leavesBelow height = chain.leaves := by
  have hsplit := chain.leavesBelow_append (le_max_left height (chain.tip.val + 1))
  rw [chain.leavesBelow_of_tip_lt (lt_of_lt_of_le (Nat.lt_succ_self _) (le_max_right _ _))] at hsplit
  have hlength := congrArg List.length hsplit
  rw [List.length_append] at hlength
  rw [hsplit, List.eq_nil_of_length_eq_zero (by omega :
    (leavesOf (chain.between height (max height (chain.tip.val + 1)))).length = 0),
    List.append_nil]

theorem length_leavesBelow_le {stop : Nat} (hstop : stop ≤ chain.tip.val + 1) :
    (chain.leavesBelow stop).length ≤ treeCapacity := by
  have hsplit := chain.leavesBelow_append hstop
  have hfits := chain.fits
  rw [← leaves, ← chain.leavesBelow_of_tip_lt (Nat.lt_succ_self _), hsplit, List.length_append] at hfits
  omega

end HonestChain

/-! ## A sync with an honest chain -/

/-- The first height that has not been synced. -/
def firstMissing : Option U32 → Nat
  | none => 0
  | some height => height.val + 1

/-- Blocks that follow the leaves of the client are valid, and are applied. -/
theorem applyBlocks_placed (lawful : tree.Lawful hash view) (blocks : List BlockCommitments)
    (s : SyncState τ σ) (hcoherent : Coherent view s.client)
    (hplaced : Placed hash (view s.client.inner).leaves blocks)
    (hascending : blocks.Pairwise (·.height < ·.height))
    (habove : ∀ block ∈ blocks, firstMissing s.client.lastSyncedHeight ≤ block.height.val)
    (hfits : (view s.client.inner).leaves.length + (leavesOf blocks).length ≤ treeCapacity) :
    (validateBlocks s.client.nextPosition s.client.lastSyncedHeight blocks :
        Except (SyncError ε) Unit) = .ok () ∧
      ∃ client, (applyBlocks tree blocks : SyncCall τ σ ε Unit) s = .ok () { s with client } ∧
        Coherent view client ∧
        (view client.inner).leaves = (view s.client.inner).leaves ++ leavesOf blocks ∧
        client.lastSyncedHeight =
          (blocks.getLast?.map (·.height)).or s.client.lastSyncedHeight := by
  induction blocks generalizing s with
  | nil => exact ⟨rfl, s.client, rfl, hcoherent, by simp [leavesOf], rfl⟩
  | cons block blocks ih =>
    obtain ⟨hstart, hroot, hlater⟩ := hplaced
    obtain ⟨hfirst, hrest⟩ := List.pairwise_cons.mp hascending
    have hlength : (leavesOf (block :: blocks)).length =
        block.leaves.length + (leavesOf blocks).length := by
      rw [leavesOf, List.flatMap_cons, List.length_append]
      rfl
    rw [hlength] at hfits
    rw [hcoherent.size] at hstart hfits
    have hlast : ∀ last ∈ s.client.lastSyncedHeight, last < block.height := by
      intro last hmem
      have hmissing := habove block List.mem_cons_self
      rw [Option.mem_def.mp hmem] at hmissing
      exact hmissing
    obtain ⟨client, hclient, happlied, heq⟩ :=
      applyBlock_eq (ε := ε) lawful block s hcoherent hlast (.inr hstart) (by omega)
    rw [happlied.leaves, if_pos hroot.symm] at heq
    obtain ⟨hvalid, final, hfinal, hcoherent', hleaves, hlastSynced⟩ := ih { s with client } hclient
      (by dsimp only; rw [happlied.leaves]; exact hlater) hrest
      (by
        intro other hother
        dsimp only
        rw [happlied.height]
        exact hfirst other hother)
      (by
        dsimp only
        rw [hclient.size, happlied.nextPosition]
        omega)
    dsimp only at hvalid hleaves hlastSynced
    rw [happlied.nextPosition, happlied.height] at hvalid
    refine ⟨(validateBlocks_cons hcoherent.capacity).mpr ⟨hlast, .inr hstart, by omega, hvalid⟩,
      final, ?_, hcoherent', ?_, ?_⟩
    · rw [applyBlocks, bind_of_ok heq, hfinal]
    · rw [hleaves, happlied.leaves, leavesOf, leavesOf, List.flatMap_cons, List.append_assoc]
    · rw [hlastSynced, happlied.height, List.getLast?_cons]
      cases blocks.getLast? <;> rfl

/-- Blocks below a bound leave the last synced height below it. -/
theorem firstMissing_le {blocks : List BlockCommitments} {last last' : Option U32} {stop : Nat}
    (h : last' = (blocks.getLast?.map (·.height)).or last) (hlast : firstMissing last ≤ stop)
    (hblocks : ∀ block ∈ blocks, block.height.val < stop) : firstMissing last' ≤ stop := by
  subst h
  cases hnewest : blocks.getLast? with
  | none => exact hlast
  | some block => exact hblocks block (List.mem_of_getLast? hnewest)

/-- When the blocks of a stretch have been applied to a client that had the leaves below it, the
client has the leaves up to its last synced height, and below the end of the stretch. -/
theorem leavesBelow_firstMissing (chain : HonestChain hash) {last last' : Option U32}
    {start stop : Nat} (hstop : start ≤ stop)
    (hleaves : chain.leavesBelow (firstMissing last) = chain.leavesBelow start)
    (h : last' = ((chain.between start stop).getLast?.map (·.height)).or last) :
    chain.leavesBelow (firstMissing last') = chain.leavesBelow stop := by
  have happend := chain.leavesBelow_append hstop
  cases hnewest : (chain.between start stop).getLast? with
  | none =>
    rw [hnewest] at h
    rw [List.getLast?_eq_none_iff.mp hnewest] at happend
    rw [h, happend]
    simpa [leavesOf] using hleaves
  | some newest =>
    rw [hnewest] at h
    subst h
    have hmem := List.mem_of_getLast? hnewest
    have hheight := (List.mem_filter.mp hmem).2
    simp only [decide_eq_true_eq] at hheight
    -- no block of the stretch is above the newest one
    have hnone : chain.between (newest.height.val + 1) stop = [] := by
      refine List.filter_eq_nil_iff.mpr fun block hblock hrange => ?_
      simp only [decide_eq_true_eq] at hrange
      have hbetween : block ∈ chain.between start stop :=
        List.mem_filter.mpr ⟨hblock, by simpa using ⟨by omega, hrange.2⟩⟩
      have hle := ((chain.ascending_between start stop).imp
        le_of_lt).rel_getLast_of_rel_getLast_getLast hbetween le_rfl
      rw [List.getLast?_eq_some_getLast (List.ne_nil_of_mem hbetween), Option.some_inj] at hnewest
      rw [hnewest] at hle
      have hle : block.height.val ≤ newest.height.val := hle
      omega
    rw [chain.leavesBelow_append (show newest.height.val + 1 ≤ stop by omega), hnone]
    simp [firstMissing, leavesOf]

/-- A limit that a sync may meet with an honest server: too much time, or a page limit that is
lower than the heights there are. -/
def LimitMet (limits : SyncLimits) (tip : U32) (fault : SyncFault ε) : Prop :=
  fault = .failed (.timeLimitExceeded limits.maxDuration) ∨
    (fault = .failed (.pageLimitExceeded limits.maxPages) ∧ limits.maxPages ≤ tip.val)

/-- A sync may be late, or find its answers paged; or else the clock stays within the limit,
or a page holds all blocks. -/
structure Hindered (api : TreeSyncApi σ ε) (chain : HonestChain hash) (limits : SyncLimits)
    (late paged : Prop) : Prop where
  clock : late ∨ ∀ server, (api.elapsed server).1 ≤ limits.maxDuration
  pages : paged ∨ ∀ server fromHeight page,
    (api.getBlockCommitments server fromHeight chain.tip).1 = .ok page → page.nextFromHeight.val = 0
  allowed : paged ∨ 0 < limits.maxPages

/-- A client with the leaves of the chain up to its last synced height. -/
structure Follows (view : τ → TreeView) (chain : HonestChain hash) (client : TreeClient τ) : Prop where
  coherent : Coherent view client
  leaves : (view client.inner).leaves = chain.leavesBelow (firstMissing client.lastSyncedHeight)

/-- The last synced height is as before, or that of a block of the chain. -/
def HonestChain.Advances (chain : HonestChain hash) (last last' : Option U32) : Prop :=
  last' = last ∨ ∃ block ∈ chain.blocks, last' = some block.height

theorem HonestChain.Advances.trans {chain : HonestChain hash} {first second third : Option U32}
    (h : chain.Advances first second) (h' : chain.Advances second third) :
    chain.Advances first third := by
  rcases h' with rfl | hblock
  · exact h
  · exact .inr hblock

section Honest

variable {chain : HonestChain hash} {api : TreeSyncApi σ ε} {limits : SyncLimits}
  {late paged : Prop}

theorem Hindered.checkSyncDuration (hindered : Hindered api chain limits late paged)
    {s : SyncState τ σ} {ok : Unit → SyncState τ σ → Prop} {bad : SyncFault ε → SyncState τ σ → Prop}
    (hok : ok () { s with server := (api.elapsed s.server).2 })
    (hbad : late → bad (.failed (.timeLimitExceeded limits.maxDuration))
      { s with server := (api.elapsed s.server).2 }) :
    Ends (checkSyncDuration api limits) s ok bad :=
  Ends.bind (Ends.get (Ends.bind (Ends.set (ensure_ends (fun _ => hok) fun hnot =>
    hbad (hindered.clock.resolve_right fun hclock => hnot (hclock s.server))))))

/-- The loop fetches what is missing of an honest chain. -/
theorem syncPages_honest (lawful : tree.Lawful hash view) (serves : Serves api chain)
    (hindered : Hindered api chain limits late paged) (remaining : Nat) (pageFrom : U32)
    (s : SyncState τ σ) (h : Follows view chain s.client)
    (hleaves : (view s.client.inner).leaves = chain.leavesBelow pageFrom.val)
    (hmissing : firstMissing s.client.lastSyncedHeight ≤ pageFrom.val)
    (hfrom : pageFrom ≤ chain.tip) (hremaining : paged ∨ 0 < remaining) :
    Ends (syncPages tree api limits chain.tip remaining pageFrom) s
      (fun _ s' => Follows view chain s'.client ∧ (view s'.client.inner).leaves = chain.leaves ∧
        chain.Advances s.client.lastSyncedHeight s'.client.lastSyncedHeight)
      (fun fault _ => (late ∧ fault = .failed (.timeLimitExceeded limits.maxDuration)) ∨
        (paged ∧ fault = .failed (.pageLimitExceeded limits.maxPages) ∧
          remaining + pageFrom.val ≤ chain.tip.val)) := by
  have hle : pageFrom.val ≤ chain.tip.val := hfrom
  induction remaining generalizing pageFrom s with
  | zero =>
    have hpaged := hremaining.resolve_right (Nat.lt_irrefl 0)
    exact Ends.bind (hindered.checkSyncDuration (Ends.throw (.inr ⟨hpaged, rfl, by omega⟩))
      fun hlate => .inl ⟨hlate, rfl⟩)
  | succ remaining ih =>
    refine Ends.bind (hindered.checkSyncDuration ?_ fun hlate => .inl ⟨hlate, rfl⟩)
    obtain ⟨next, hpage, hnext⟩ := serves.page (api.elapsed s.server).2 pageFrom
    have hwhole := hindered.pages.imp id fun hpages =>
      hpages (api.elapsed s.server).2 pageFrom _ hpage
    refine Ends.bind (ask_ends (fun page hanswer => ?_) fun error hanswer => ?_)
    swap
    · rw [hpage] at hanswer
      cases hanswer
    obtain rfl := Except.ok.inj (hpage.symm.trans hanswer)
    refine Ends.bind (hindered.checkSyncDuration ?_ fun hlate => .inl ⟨hlate, rfl⟩)
    dsimp only
    generalize (api.elapsed _).2 = server
    generalize hstopEq : (if next.val = 0 then chain.tip.val + 1 else next.val) = stop
    have hstop : pageFrom.val < stop ∧ stop ≤ chain.tip.val + 1 := by
      rcases hnext with hzero | ⟨hlt, hnextLe⟩
      · rw [if_pos hzero] at hstopEq
        omega
      · have hlt : pageFrom.val < next.val := hlt
        have hnextLe : next.val ≤ chain.tip.val := hnextLe
        rw [if_neg (by omega)] at hstopEq
        omega
    have happend := chain.leavesBelow_append hstop.1.le
    have hbound := chain.length_leavesBelow_le hstop.2
    have hmem : ∀ block ∈ chain.between pageFrom.val stop,
        pageFrom.val ≤ block.height.val ∧ block.height.val < stop := by
      intro block hblock
      simpa using (List.mem_filter.mp hblock).2
    obtain ⟨hvalid, client, happly, hcoherent', hleaves', hlast⟩ :=
      applyBlocks_placed (ε := ε) lawful (chain.between pageFrom.val stop)
        { client := s.client, server } h.coherent
        (by dsimp only; rw [hleaves]; exact chain.placed_between hstop.1.le hstop.2)
        (chain.ascending_between _ _) (fun block hblock => hmissing.trans (hmem block hblock).1)
        (by
          dsimp only
          rw [hleaves]
          rw [happend, List.length_append] at hbound
          exact hbound)
    dsimp only at hvalid hleaves' hlast
    rw [hleaves, ← happend] at hleaves'
    have hfollows : Follows view chain client := by
      refine ⟨hcoherent', hleaves'.trans ?_⟩
      exact (leavesBelow_firstMissing chain hstop.1.le (h.leaves.symm.trans hleaves)
        hlast).symm
    have hlastLe : firstMissing client.lastSyncedHeight ≤ stop :=
      firstMissing_le hlast (by omega) fun block hblock => (hmem block hblock).2
    have hadvances : chain.Advances s.client.lastSyncedHeight client.lastSyncedHeight := by
      rw [hlast]
      cases hnewest : (chain.between pageFrom.val stop).getLast? with
      | none => exact .inl rfl
      | some newest =>
        exact .inr ⟨newest, (List.mem_filter.mp (List.mem_of_getLast? hnewest)).1, rfl⟩
    refine Ends.bind (validatePage_ends (fun _ => ?_) fun error herror => ?_)
    swap
    · dsimp only at herror
      rw [hvalid] at herror
      cases herror
    refine Ends.bind ?_
    rw [Ends, happly]
    dsimp only
    split
    · next hzero =>
      rw [if_pos hzero] at hstopEq
      rw [← hstopEq, chain.leavesBelow_of_tip_lt (Nat.lt_succ_self _)] at hleaves'
      exact Ends.pure ⟨hfollows, hleaves', hadvances⟩
    · next hnonzero =>
      obtain ⟨hlt, hnextLe⟩ := hnext.resolve_left hnonzero
      rw [if_neg hnonzero] at hstopEq
      refine Ends.bind (ensure_ends (fun _ => ?_) fun hnot => absurd hlt hnot)
      refine Ends.bind (ensure_ends (fun _ => ?_) fun hnot => absurd hnextLe hnot)
      have hlt : pageFrom.val < next.val := hlt
      have hrest := ih next { client, server } hfollows (by rw [hstopEq]; exact hleaves')
        (by dsimp only; omega) hnextLe (.inl (hwhole.resolve_right hnonzero)) hnextLe
      refine hrest.mono (fun _ _ h => ⟨h.1, h.2.1, hadvances.trans h.2.2⟩)
        fun fault s' h => h.imp id fun h => ⟨h.1, h.2.1, ?_⟩
      have := h.2.2
      omega

/-- A client that has the leaves of an honest chain up to its last synced height gets all of
them, unless a limit is met. -/
theorem syncWithLimits_honest (lawful : tree.Lawful hash view) (overflowChecks : Bool)
    (serves : Serves api chain) (hindered : Hindered api chain limits late paged)
    (s : SyncState τ σ) (h : Follows view chain s.client) :
    Ends (syncWithLimits tree hash overflowChecks api limits) s
      (fun _ s' => Follows view chain s'.client ∧ (view s'.client.inner).leaves = chain.leaves ∧
        chain.Advances s.client.lastSyncedHeight s'.client.lastSyncedHeight)
      (fun fault _ => (late ∨ paged) ∧ LimitMet limits chain.tip fault) := by
  refine Ends.bind (ask_ends (fun state hstate => ?_) fun error herror => ?_)
  swap
  · rw [serves.state] at herror
    cases herror
  obtain rfl := Except.ok.inj ((serves.state s.server).symm.trans hstate)
  refine Ends.bind (hindered.checkSyncDuration ?_ fun hlate => ⟨.inl hlate, .inl rfl⟩)
  dsimp only
  generalize (api.elapsed _).2 = server
  refine Ends.bind (ensure_ends (fun _ => ?_) fun hnot => absurd chain.fits hnot)
  refine Ends.bind (Ends.get ?_)
  -- at the tip, the roots agree because the leaves do
  have htip : ∀ s' : SyncState τ σ, Follows view chain s'.client →
      (view s'.client.inner).leaves = chain.leaves →
      chain.Advances s.client.lastSyncedHeight s'.client.lastSyncedHeight →
      Ends (checkTipRoot tree hash chain.state : SyncCall τ σ ε Unit) s'
        (fun _ s' => Follows view chain s'.client ∧ (view s'.client.inner).leaves = chain.leaves ∧
          chain.Advances s.client.lastSyncedHeight s'.client.lastSyncedHeight)
        (fun fault _ => (late ∨ paged) ∧ LimitMet limits chain.tip fault) := by
    intro s' hfollows hleaves hlast
    refine Ends.bind (Ends.get (ensure_ends (fun _ => ⟨hfollows, hleaves, hlast⟩) fun hnot => ?_))
    refine absurd (.inr ?_) hnot
    rw [hfollows.coherent.root_eq lawful, hleaves]
    rfl
  split
  · next hsame =>
    refine htip _ h ?_ (.inl rfl)
    -- the leaves are as many, so nothing is missing
    dsimp only at hsame ⊢
    rw [← h.coherent.size] at hsame
    rw [h.leaves] at hsame ⊢
    exact chain.leavesBelow_eq_of_length hsame.symm
  · next hdiffers =>
    have hle : firstMissing s.client.lastSyncedHeight ≤ chain.tip.val := by
      by_contra hover
      have hleaves := h.leaves
      rw [chain.leavesBelow_of_tip_lt (by omega)] at hleaves
      refine hdiffers ?_
      show chain.leaves.length = s.client.nextPosition
      rw [← hleaves, h.coherent.size]
    have hstart : Ends (fromHeight overflowChecks s.client.lastSyncedHeight : SyncCall τ σ ε U32)
        { client := s.client, server }
        (fun start s' => s' = { client := s.client, server } ∧
          start.val = firstMissing s.client.lastSyncedHeight)
        (fun fault _ => (late ∨ paged) ∧ LimitMet limits chain.tip fault) := by
      cases hlast : s.client.lastSyncedHeight with
      | none => exact Ends.pure ⟨rfl, rfl⟩
      | some last =>
        rw [hlast] at hle
        have hbound : last.val + 1 ≤ u32Max := le_trans hle chain.tip.property
        rw [fromHeight, dif_pos hbound]
        exact Ends.pure ⟨rfl, rfl⟩
    refine Ends.bind (hstart.mono (fun pageFrom s₃ h₃ => ?_) fun _ _ h' => h')
    obtain ⟨rfl, hpageFrom⟩ := h₃
    rw [← hpageFrom] at hle
    have hfrom : pageFrom ≤ chain.tip := hle
    rw [if_neg (not_lt.mpr (show pageFrom ≤ chain.state.height from hfrom))]
    refine Ends.bind ((syncPages_honest lawful serves hindered limits.maxPages pageFrom
      { client := s.client, server } h (by dsimp only; rw [hpageFrom]; exact h.leaves)
      (by dsimp only; omega) hfrom hindered.allowed).mono (fun _ s₄ h₄ => ?_) ?_)
    · refine Ends.bind (Ends.get (Ends.bind (ensure_ends
        (fun _ => htip s₄ h₄.1 h₄.2.1 h₄.2.2) fun hnot => ?_)))
      refine absurd ?_ hnot
      rw [← h₄.1.coherent.size, h₄.2.1]
      rfl
    · rintro fault _ (⟨hlate, hfault⟩ | ⟨hpaged, hfault, hpages⟩)
      · exact ⟨.inl hlate, .inl hfault⟩
      · exact ⟨.inr hpaged, .inr ⟨hfault, by omega⟩⟩

end Honest

/-! ## Runs of syncs -/

/-- A sync with a server that logs its requests, starting with none. -/
structure SyncAttempt (σ ε : Type) where
  api : TreeSyncApi σ ε
  limits : SyncLimits
  server : σ
  log : σ → List PageRequest
  logs : Logs api log
  fresh : log server = []

namespace SyncAttempt

variable (tree hash) (overflowChecks : Bool) (attempt : SyncAttempt σ ε) (client : TreeClient τ)

/-- The sync. -/
def call : SyncCall τ σ ε Unit :=
  syncWithLimits tree hash overflowChecks attempt.api attempt.limits

/-- The state after the sync, however it ended. -/
def final : SyncState τ σ :=
  after (attempt.call tree hash overflowChecks) ⟨client, attempt.server⟩

/-- The requests of the sync. -/
def requests : List PageRequest := attempt.log (attempt.final tree hash overflowChecks client).server

/-- The heights of the served blocks lie in the range that was requested, and the last height
there is was not served. -/
def Ranged : Prop :=
  ∀ request block, Served (attempt.requests tree hash overflowChecks client) request block →
    request.fromHeight ≤ block.height ∧ block.height ≤ request.toHeight ∧
      block.height.val < u32Max

end SyncAttempt

/-- The clients that marks and allowed syncs lead to. -/
inductive Reached (tree : ShardTree τ) (hash : VoteHash) (overflowChecks : Bool)
    (allowed : SyncAttempt σ ε → TreeClient τ → Prop) : TreeClient τ → Prop
  | empty : Reached tree hash overflowChecks allowed (empty tree)
  | mark {client : TreeClient τ} (position : Nat) :
    Reached tree hash overflowChecks allowed client →
    Reached tree hash overflowChecks allowed (client.markPosition position)
  | sync {client : TreeClient τ} (attempt : SyncAttempt σ ε) :
    Reached tree hash overflowChecks allowed client → allowed attempt client →
    Reached tree hash overflowChecks allowed
      (attempt.final tree hash overflowChecks client).client

/-- No property beyond coherence. -/
theorem SyncRule.trivial : SyncRule hash view (fun _ _ => True) (fun _ _ => True) :=
  ⟨fun _ _ _ _ => True.intro, fun _ _ _ _ _ _ _ _ _ _ => True.intro,
    fun _ _ _ _ _ _ _ _ _ _ => True.intro⟩

/-- However a sync ends, the client is coherent, and the requests are bounded. -/
theorem SyncAttempt.final_coherent (lawful : tree.Lawful hash view) (overflowChecks : Bool)
    (attempt : SyncAttempt σ ε) {client : TreeClient τ} (hcoherent : Coherent view client) :
    Coherent view (attempt.final tree hash overflowChecks client).client ∧
      (attempt.requests tree hash overflowChecks client).length ≤ attempt.limits.maxPages := by
  have hends := syncWithLimits_kept lawful SyncRule.trivial overflowChecks attempt.logs
    attempt.limits ⟨client, attempt.server⟩ hcoherent True.intro
  dsimp only at hends
  rw [attempt.fresh, List.length_nil, Nat.zero_add] at hends
  exact Ends.holds_after (P := fun s => Coherent view s.client ∧
      (attempt.log s.server).length ≤ attempt.limits.maxPages)
    (hends.mono (fun _ _ h => ⟨h.coherent, h.requests⟩) fun _ _ h => ⟨h.coherent, h.requests⟩)

theorem Reached.coherent (lawful : tree.Lawful hash view) {overflowChecks : Bool}
    {allowed : SyncAttempt σ ε → TreeClient τ → Prop} {client : TreeClient τ}
    (h : Reached tree hash overflowChecks allowed client) : Coherent view client := by
  induction h with
  | empty => exact Coherent.of_empty lawful
  | mark position _ ih => exact ih.markPosition position
  | sync attempt _ _ ih => exact (attempt.final_coherent lawful overflowChecks ih).1

/-- The last synced height and the new checkpoints come from blocks that were served. -/
def FromServed (view : τ → TreeView) (old : TreeClient τ) (client : TreeClient τ)
    (log : List PageRequest) : Prop :=
  (client.lastSyncedHeight = old.lastSyncedHeight ∨
    ∃ request block, Served log request block ∧ client.lastSyncedHeight = some block.height) ∧
  ∀ checkpoint ∈ (view client.inner).checkpoints, checkpoint ∈ (view old.inner).checkpoints ∨
    ∃ request block, Served log request block ∧ checkpoint.1 = block.height

theorem fromServed_applied {old client client' : TreeClient τ} {log : List PageRequest}
    {request : PageRequest} {block : BlockCommitments} (h : FromServed view old client log)
    (hserved : Served log request block) (happlied : Applied view client block client') :
    FromServed view old client' log := by
  refine ⟨.inr ⟨request, block, hserved, happlied.height⟩, fun checkpoint hmem => ?_⟩
  rcases happlied.checkpoint checkpoint hmem with hold | rfl
  · exact h.2 checkpoint hold
  · exact .inr ⟨request, block, hserved, rfl⟩

theorem SyncRule.fromServed (old : TreeClient τ) :
    SyncRule hash view (FromServed view old) (FromServed view old) where
  asked client log request h := by
    have hgrow : ∀ request' block, Served log request' block →
        Served (log ++ [request]) request' block :=
      fun request' block hserved => ⟨List.mem_append_left _ hserved.1, hserved.2⟩
    refine ⟨h.1.imp id ?_, fun checkpoint hmem => (h.2 checkpoint hmem).imp id ?_⟩
    · rintro ⟨request', block, hserved, heq⟩
      exact ⟨request', block, hgrow _ _ hserved, heq⟩
    · rintro ⟨request', block, hserved, heq⟩
      exact ⟨request', block, hgrow _ _ hserved, heq⟩
  verified _ _ _ _ _ h hserved _ happlied _ := fromServed_applied h hserved happlied
  mismatched _ _ _ _ _ h hserved _ happlied _ := fromServed_applied h hserved happlied

/-- How a sync ends whose served heights lie in range. -/
theorem SyncAttempt.final_fromServed (lawful : tree.Lawful hash view) (overflowChecks : Bool)
    (attempt : SyncAttempt σ ε) {client : TreeClient τ} (hcoherent : Coherent view client) :
    FromServed view client (attempt.final tree hash overflowChecks client).client
      (attempt.requests tree hash overflowChecks client) := by
  have hends := syncWithLimits_kept lawful (SyncRule.fromServed client) overflowChecks attempt.logs
    attempt.limits ⟨client, attempt.server⟩ hcoherent ⟨.inl rfl, fun _ hmem => .inl hmem⟩
  exact Ends.holds_after (P := fun s => FromServed view client s.client (attempt.log s.server))
    (hends.mono (fun _ _ h => h.property) fun _ _ h => h.property.elim id And.right)

/-- No height in range is the last one there is. -/
theorem Reached.last_lt (lawful : tree.Lawful hash view) {overflowChecks : Bool}
    {client : TreeClient τ} (h : Reached tree hash overflowChecks
      (fun (attempt : SyncAttempt σ ε) client => attempt.Ranged tree hash overflowChecks client)
      client) : ∀ last ∈ client.lastSyncedHeight, last.val < u32Max := by
  induction h with
  | empty => simp [TreeClient.empty]
  | mark position _ ih => exact ih
  | sync attempt hreached hranged ih =>
    have hserved := attempt.final_fromServed lawful overflowChecks (hreached.coherent lawful)
    rcases hserved.1 with hsame | ⟨request, block, hblock, heq⟩
    · rw [hsame]
      exact ih
    · rw [heq]
      rintro last hlast
      obtain rfl := Option.some.inj hlast
      exact (hranged request block hblock).2.2

/-- A hostile server cannot make a sync fetch more pages than the limit, nor grow the tree beyond
its capacity.  As long as every served height lies in the requested range and below the last
height there is, no sync panics or comes to a height whose successor overflows, and every new
checkpoint lies in a range that was requested.  And whatever the servers before did, a client
that has the leaves of an honest chain up to its last synced height gets all of them from it,
unless a limit is met. -/
theorem hostile_server_contained (tree : ShardTree τ) (hash : VoteHash) (view : τ → TreeView)
    (lawful : tree.Lawful hash view) (overflowChecks : Bool) (client : TreeClient τ)
    (attempt : SyncAttempt σ ε) :
    (Reached tree hash overflowChecks (fun (_ : SyncAttempt σ ε) _ => True) client →
      (attempt.requests tree hash overflowChecks client).length ≤ attempt.limits.maxPages ∧
      (attempt.final tree hash overflowChecks client).client.nextPosition ≤ treeCapacity) ∧
    (Reached tree hash overflowChecks (fun (attempt : SyncAttempt σ ε) client =>
        attempt.Ranged tree hash overflowChecks client) client →
      attempt.Ranged tree hash overflowChecks client →
      (∀ s, attempt.call tree hash overflowChecks ⟨client, attempt.server⟩ ≠ .error .panicked s) ∧
      (∀ last ∈ (attempt.final tree hash overflowChecks client).client.lastSyncedHeight,
        last.val + 1 ≤ u32Max) ∧
      ∀ checkpoint ∈ (view (attempt.final tree hash overflowChecks client).client.inner).checkpoints,
        checkpoint ∈ (view client.inner).checkpoints ∨
          ∃ request ∈ attempt.requests tree hash overflowChecks client,
            request.fromHeight ≤ checkpoint.1 ∧ checkpoint.1 ≤ request.toHeight) ∧
    (Reached tree hash overflowChecks (fun (_ : SyncAttempt σ ε) _ => True) client →
      ∀ chain : HonestChain hash, Serves attempt.api chain →
        (view client.inner).leaves = chain.leavesBelow (firstMissing client.lastSyncedHeight) →
        Ends (attempt.call tree hash overflowChecks) ⟨client, attempt.server⟩
          (fun _ s => (view s.client.inner).leaves = chain.leaves)
          (fun fault _ => LimitMet attempt.limits chain.tip fault)) := by
  refine ⟨fun hreached => ?_, fun hreached hranged => ?_, fun hreached chain hserves hleaves => ?_⟩
  · obtain ⟨hfinal, hrequests⟩ :=
      attempt.final_coherent lawful overflowChecks (hreached.coherent lawful)
    exact ⟨hrequests, hfinal.capacity⟩
  · have hcoherent := hreached.coherent lawful
    have hlast := hreached.last_lt lawful
    refine ⟨fun s hpanicked => ?_, ?_, fun checkpoint hmem => ?_⟩
    · have hends := syncWithLimits_kept lawful SyncRule.trivial overflowChecks attempt.logs
        attempt.limits ⟨client, attempt.server⟩ hcoherent True.intro
      obtain ⟨last, hmem, hmax⟩ := (hends.of_error hpanicked).panicked rfl
      have hlt := hlast last hmem
      omega
    · exact (Reached.sync attempt hreached hranged).last_lt lawful
    · refine ((attempt.final_fromServed lawful overflowChecks hcoherent).2 checkpoint hmem).imp id ?_
      rintro ⟨request, block, hserved, heq⟩
      obtain ⟨hfrom, hto, -⟩ := hranged request block hserved
      rw [heq]
      exact ⟨request, hserved.1, hfrom, hto⟩
  · have hindered : Hindered attempt.api chain attempt.limits True True :=
      ⟨.inl trivial, .inl trivial, .inl trivial⟩
    exact (syncWithLimits_honest lawful overflowChecks hserves hindered ⟨client, attempt.server⟩
      ⟨hreached.coherent lawful, hleaves⟩).mono (fun _ _ h => h.2.1) fun _ _ h => h.2

/-! ## Two blocks -/

/-- A server that answers from a table of pages by their first height, and logs its requests. -/
def recordingApi (state : SyncApi.TreeState) (page : U32 → BlockCommitmentsPage) :
    TreeSyncApi (List PageRequest) Empty where
  getTreeState log := (.ok state, log)
  getBlockCommitments log fromHeight toHeight :=
    (.ok (page fromHeight), log ++ [⟨fromHeight, toHeight, some (page fromHeight)⟩])
  elapsed log := (0, log)

/-- A sync with a recording server. -/
def recordingAttempt (state : SyncApi.TreeState) (page : U32 → BlockCommitmentsPage) :
    SyncAttempt (List PageRequest) Empty where
  api := recordingApi state page
  limits := SyncLimits.default
  server := []
  log := id
  logs := ⟨fun _ => rfl, fun _ _ _ => rfl, fun _ => rfl⟩
  fresh := rfl

/-- A sync with an honest chain, in one page. -/
def HonestChain.attempt (chain : HonestChain hash) : SyncAttempt (List PageRequest) Empty :=
  recordingAttempt chain.state fun fromHeight =>
    ⟨chain.between fromHeight.val (chain.tip.val + 1), ⟨0, Nat.zero_le _⟩⟩

theorem HonestChain.serves_attempt (chain : HonestChain hash) :
    Serves chain.attempt.api chain :=
  ⟨fun _ => rfl, fun _ _ => ⟨⟨0, by decide⟩, rfl, .inl rfl⟩⟩

/-- Two blocks with a leaf each. -/
def twoBlocks : HonestChain leftHash where
  blocks := [firstBlock 5,
    ⟨6, 1, [sampleLeaf 2], sampleLeaf 1⟩]
  tip := 6
  ascending := by decide
  below := by decide
  placed := ⟨rfl, by decide +kernel, rfl, by decide +kernel, trivial⟩
  fits := by decide

/-- A sync of the first block, served at the height. -/
def firstAttempt (height : U32) : SyncAttempt (List PageRequest) Empty :=
  recordingAttempt (firstState 5) fun _ => ⟨[firstBlock height], ⟨0, Nat.zero_le _⟩⟩

/-- The client after the first block was served at the height. -/
def servedAt (height : U32) : TreeClient ListTree :=
  ((firstAttempt height).final (listTree leftHash) leftHash true (empty (listTree leftHash))).client

theorem firstAttempt_ranged :
    (firstAttempt ⟨5, by decide⟩).Ranged (listTree leftHash) leftHash true
      (empty (listTree leftHash)) := by
  have hrequests : (firstAttempt ⟨5, by decide⟩).requests (listTree leftHash) leftHash true
      (empty (listTree leftHash)) = [⟨⟨0, by decide⟩, ⟨5, by decide⟩,
        some ⟨[firstBlock ⟨5, by decide⟩], ⟨0, by decide⟩⟩⟩] := by decide +kernel
  rintro request block ⟨hmem, page, hpage, hblock⟩
  rw [hrequests, List.mem_singleton] at hmem
  subst hmem
  obtain rfl := Option.some.inj hpage
  obtain rfl := List.mem_singleton.mp hblock
  decide

theorem twoBlocks_ranged :
    twoBlocks.attempt.Ranged (listTree leftHash) leftHash true (servedAt ⟨5, by decide⟩) := by
  have hrequests : twoBlocks.attempt.requests (listTree leftHash) leftHash true
      (servedAt ⟨5, by decide⟩) = [⟨⟨6, by decide⟩, ⟨6, by decide⟩,
        some ⟨[⟨⟨6, by decide⟩, ⟨1, by decide⟩, [sampleLeaf 2], sampleLeaf 1⟩],
          ⟨0, by decide⟩⟩⟩] := by decide +kernel
  rintro request block ⟨hmem, page, hpage, hblock⟩
  rw [hrequests, List.mem_singleton] at hmem
  subst hmem
  obtain rfl := Option.some.inj hpage
  obtain rfl := List.mem_singleton.mp hblock
  decide

/-- The first block from one server, the second from the chain. -/
theorem hostile_server_contained_two_blocks :
    (twoBlocks.attempt.requests (listTree leftHash) leftHash true
      (servedAt ⟨5, by decide⟩)).length ≤ 4096 ∧
    (∀ s, twoBlocks.attempt.call (listTree leftHash) leftHash true
      ⟨servedAt ⟨5, by decide⟩, []⟩ ≠ .error .panicked s) ∧
    Ends (twoBlocks.attempt.call (listTree leftHash) leftHash true) ⟨servedAt ⟨5, by decide⟩, []⟩
      (fun _ s => s.client.inner.view.leaves = [sampleLeaf 1, sampleLeaf 2])
      (fun fault _ => LimitMet SyncLimits.default ⟨6, by decide⟩ fault) := by
  have hcontained := hostile_server_contained (listTree leftHash) leftHash ListTree.view
    (listTree_lawful leftHash) true (servedAt ⟨5, by decide⟩) twoBlocks.attempt
  have hany : Reached (listTree leftHash) leftHash true
      (fun (_ : SyncAttempt (List PageRequest) Empty) _ => True) (servedAt ⟨5, by decide⟩) :=
    .sync (firstAttempt ⟨5, by decide⟩) .empty trivial
  exact ⟨(hcontained.1 hany).1,
    (hcontained.2.1 (.sync _ .empty firstAttempt_ranged) twoBlocks_ranged).1,
    hcontained.2.2 hany twoBlocks twoBlocks.serves_attempt (by decide +kernel)⟩

/-- A block served at the last height there is makes the next sync panic; one served far above
the requested range makes a sync with the honest chain return at once, without its second leaf. -/
theorem served_heights_not_checked :
    Ends (twoBlocks.attempt.call (listTree leftHash) leftHash true)
      ⟨servedAt ⟨u32Max, le_refl _⟩, []⟩ (fun _ _ => False) (fun fault _ => fault = .panicked) ∧
    Ends (twoBlocks.attempt.call (listTree leftHash) leftHash true) ⟨servedAt ⟨1000, by decide⟩, []⟩
      (fun _ s => s.client.inner.view.leaves = [sampleLeaf 1] ∧
        twoBlocks.leaves = [sampleLeaf 1, sampleLeaf 2])
      (fun _ _ => False) := by
  decide +kernel

end ZcashVoting.VoteCommitmentTree.TreeClient
