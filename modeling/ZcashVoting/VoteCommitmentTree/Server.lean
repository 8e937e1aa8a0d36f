import ZcashVoting.VoteCommitmentTree.Client.Hostile

/-!
# ZcashVoting.VoteCommitmentTree.Server

The servers of the vote commitment tree.  `GenericTreeServer` is the tree with its count of
leaves and its latest checkpoint; `SyncableServer` keeps the leaves of every block beside it,
for clients to sync from.

The block log has a start counter of its own.  It agrees with the tree when the wrapped tree
had no leaves and its server counted none: then the recorded blocks and the pending leaves are
the leaves of the tree in order, and every block starts where the tree has its first leaf.
-/

namespace ZcashVoting.VoteCommitmentTree

open SyncApi Stateful TreeClient

/-! ## The tree server -/

/-- `CheckpointError`. -/
inductive CheckpointError where
  | notMonotonic (prev requested : U32)
  | tree (error : ShardTreeError)
  deriving DecidableEq

/-- The next `u64`, wrapping as in a build without overflow checks. -/
def wrappingSucc (n : U64) : U64 :=
  ⟨(n.val + 1) % 2 ^ 64, Nat.le_sub_one_of_lt (Nat.mod_lt _ (Nat.two_pow_pos 64))⟩

/-- `GenericTreeServer`. -/
structure GenericTreeServer (τ : Type) where
  inner : τ
  latestCheckpoint : Option U32
  nextPosition : U64

namespace GenericTreeServer

variable {τ : Type} (tree : ShardTree τ) (hash : VoteHash)

/-- `append`. -/
def append (leaf : MerkleHashVote) : EStateM ShardTreeError (GenericTreeServer τ) U64 := fun server =>
  match tree.append server.inner leaf .marked with
  | (.error error, inner) => .error error { server with inner }
  | (.ok (), inner) =>
    .ok server.nextPosition { server with inner, nextPosition := wrappingSucc server.nextPosition }

/-- `checkpoint`.  Whether the tree added the checkpoint is not looked at. -/
def checkpoint (height : U32) : EStateM CheckpointError (GenericTreeServer τ) Unit := fun server =>
  match server.latestCheckpoint.filter (height ≤ ·) with
  | some prev => .error (.notMonotonic prev height) server
  | none =>
    match tree.checkpoint server.inner height with
    | (.error error, inner) => .error (.tree error) { server with inner }
    | (.ok _, inner) => .ok () { server with inner, latestCheckpoint := some height }

/-- `root_at_height`. -/
def rootAtHeight (server : GenericTreeServer τ) (height : U32) : Option MerkleHashVote :=
  tree.rootAtCheckpointId server.inner height

/-- `root`. -/
def root (server : GenericTreeServer τ) : MerkleHashVote :=
  match server.latestCheckpoint with
  | some id => (tree.rootAtCheckpointId server.inner id).getD hash.emptyTreeRoot
  | none => hash.emptyTreeRoot

end GenericTreeServer

/-! ## The syncable server -/

/-- `SyncableServer`.  The map of completed blocks is the list of its values in the order of
their heights. -/
structure SyncableServer (τ : Type) where
  tree : GenericTreeServer τ
  blocks : List BlockCommitments
  pendingLeaves : List MerkleHashVote
  pendingStart : U64

/-- `BTreeMap::insert` at the height of the block. -/
def insertBlock (block : BlockCommitments) : List BlockCommitments → List BlockCommitments
  | [] => [block]
  | other :: blocks =>
    if block.height < other.height then block :: other :: blocks
    else if block.height = other.height then block :: blocks
    else other :: insertBlock block blocks

namespace SyncableServer

variable {τ : Type} (tree : ShardTree τ) (hash : VoteHash)

/-- `SyncableServer::new`. -/
def new (server : GenericTreeServer τ) : SyncableServer τ := ⟨server, [], [], ⟨0, Nat.zero_le _⟩⟩

/-- `SyncableServer::empty`. -/
def empty : SyncableServer τ :=
  ⟨⟨tree.empty, none, ⟨0, Nat.zero_le _⟩⟩, [], [], ⟨0, Nat.zero_le _⟩⟩

/-- `append`. -/
def append (leaf : MerkleHashVote) : EStateM ShardTreeError (SyncableServer τ) U64 := fun server =>
  match GenericTreeServer.append tree leaf server.tree with
  | .error error after => .error error { server with tree := after }
  | .ok idx after =>
    .ok idx { server with tree := after, pendingLeaves := server.pendingLeaves ++ [leaf] }

/-- `append_two`. -/
def appendTwo (first second : MerkleHashVote) : EStateM ShardTreeError (SyncableServer τ) U64 := do
  let idx ← append tree first
  let _ ← append tree second
  return idx

/-- The block that a checkpoint records. -/
def pendingBlock (server : SyncableServer τ) (height : U32) : BlockCommitments where
  height
  startIndex := server.pendingStart
  leaves := server.pendingLeaves
  root := (server.tree.rootAtHeight tree height).getD (server.tree.root tree hash)

/-- `checkpoint`. -/
def checkpoint (height : U32) : EStateM CheckpointError (SyncableServer τ) Unit := fun server =>
  match GenericTreeServer.checkpoint tree height server.tree with
  | .error error after => .error error { server with tree := after }
  | .ok () after =>
    let server := { server with tree := after }
    .ok () { server with
      blocks := insertBlock (server.pendingBlock tree hash height) server.blocks
      pendingLeaves := []
      pendingStart := server.tree.nextPosition }

/-- `size`. -/
def size (server : SyncableServer τ) : U64 := server.tree.nextPosition

/-- `root`. -/
def root (server : SyncableServer τ) : MerkleHashVote := server.tree.root tree hash

/-- `get_tree_state`. -/
def getTreeState (server : SyncableServer τ) : SyncApi.TreeState :=
  ⟨server.size, server.root tree hash, server.tree.latestCheckpoint.getD ⟨0, Nat.zero_le _⟩⟩

/-- `get_block_commitments`. -/
def getBlockCommitments (server : SyncableServer τ) (fromHeight toHeight : U32) :
    BlockCommitmentsPage where
  blocks := server.blocks.filter fun block => fromHeight ≤ block.height ∧ block.height ≤ toHeight
  nextFromHeight := ⟨0, Nat.zero_le _⟩

end SyncableServer

/-! ## Calls -/

/-- A call to a syncable server that changes it. -/
inductive ServerCall where
  | append (leaf : MerkleHashVote)
  | appendTwo (first second : MerkleHashVote)
  | checkpoint (height : U32)

/-- A leaf that was appended, with the index that the server answered. -/
abbrev AppendedLeaf := U64 × MerkleHashVote

section

variable {τ : Type} (tree : ShardTree τ) (hash : VoteHash)

/-- The server after the call, however it ended. -/
def ServerCall.apply (server : SyncableServer τ) : ServerCall → SyncableServer τ
  | .append leaf => after (SyncableServer.append tree leaf) server
  | .appendTwo first second => after (SyncableServer.appendTwo tree first second) server
  | .checkpoint height => after (SyncableServer.checkpoint tree hash height) server

/-- The leaf that an append added. -/
def appendedBy (server : SyncableServer τ) (leaf : MerkleHashVote) : List AppendedLeaf :=
  match SyncableServer.append tree leaf server with
  | .ok idx _ => [(idx, leaf)]
  | .error _ _ => []

/-- The leaves that a call added.  The second of two is tried when the first was added. -/
def ServerCall.appended (server : SyncableServer τ) : ServerCall → List AppendedLeaf
  | .append leaf => appendedBy tree server leaf
  | .appendTwo first second =>
    match SyncableServer.append tree first server with
    | .ok idx server => (idx, first) :: appendedBy tree server second
    | .error _ _ => []
  | .checkpoint _ => []

/-- A sequence of calls: the leaves they added, and the server after them. -/
def runCalls (server : SyncableServer τ) : List ServerCall → List AppendedLeaf × SyncableServer τ
  | [] => ([], server)
  | call :: calls =>
    let rest := runCalls (call.apply tree hash server) calls
    (call.appended tree server ++ rest.1, rest.2)

end

/-! ## What one call can do -/

section

variable {τ : Type} (tree : ShardTree τ) (hash : VoteHash)

/-- The server but for its tree. -/
def SyncableServer.withInner (server : SyncableServer τ) (inner : τ) : SyncableServer τ :=
  { server with tree := { server.tree with inner } }

/-- An append adds the leaf at the next position, or changes nothing but the tree. -/
theorem append_cases (server : SyncableServer τ) (leaf : MerkleHashVote) :
    (∃ error, (tree.append server.tree.inner leaf .marked).1 = .error error ∧
      SyncableServer.append tree leaf server =
        .error error (server.withInner (tree.append server.tree.inner leaf .marked).2)) ∨
    ((tree.append server.tree.inner leaf .marked).1 = .ok () ∧
      SyncableServer.append tree leaf server = .ok server.tree.nextPosition
        { server with
          tree := { server.tree with
            inner := (tree.append server.tree.inner leaf .marked).2
            nextPosition := wrappingSucc server.tree.nextPosition }
          pendingLeaves := server.pendingLeaves ++ [leaf] }) := by
  unfold SyncableServer.append GenericTreeServer.append
  rcases tree.append server.tree.inner leaf .marked with ⟨error | ⟨⟩, inner⟩
  · exact .inl ⟨error, rfl, rfl⟩
  · exact .inr ⟨rfl, rfl⟩

/-- A checkpoint that is not above the latest one changes nothing, and one that the tree fails
to make changes nothing but the tree.  Any other records the pending leaves as a block. -/
theorem checkpoint_cases (server : SyncableServer τ) (height : U32) :
    (∃ error, SyncableServer.checkpoint tree hash height server = .error error server) ∨
    ((∀ latest ∈ server.tree.latestCheckpoint, latest < height) ∧
      ((∃ error, (tree.checkpoint server.tree.inner height).1 = .error error ∧
        SyncableServer.checkpoint tree hash height server = .error (.tree error)
          (server.withInner (tree.checkpoint server.tree.inner height).2)) ∨
      ∃ inner root, inner = (tree.checkpoint server.tree.inner height).2 ∧
        root = (tree.rootAtCheckpointId inner height).getD hash.emptyTreeRoot ∧
        SyncableServer.checkpoint tree hash height server = .ok ()
          { tree := { server.tree with inner, latestCheckpoint := some height }
            blocks := insertBlock ⟨height, server.pendingStart, server.pendingLeaves, root⟩
              server.blocks
            pendingLeaves := []
            pendingStart := server.tree.nextPosition })) := by
  unfold SyncableServer.checkpoint GenericTreeServer.checkpoint
  cases hfilter : server.tree.latestCheckpoint.filter (height ≤ ·) with
  | some prev => exact .inl ⟨_, rfl⟩
  | none =>
    have hbelow : ∀ latest ∈ server.tree.latestCheckpoint, latest < height := by
      simpa [Option.filter_eq_none_iff] using hfilter
    refine .inr ⟨hbelow, ?_⟩
    rcases tree.checkpoint server.tree.inner height with ⟨error | added, inner⟩
    · exact .inl ⟨error, rfl, rfl⟩
    · refine .inr ⟨inner, _, rfl, rfl, ?_⟩
      simp only [SyncableServer.pendingBlock, GenericTreeServer.rootAtHeight, GenericTreeServer.root]
      cases tree.rootAtCheckpointId inner height <;> rfl

/-- What appends and checkpoints keep, every call keeps. -/
theorem ServerCall.preserves {P : List AppendedLeaf → SyncableServer τ → Prop}
    (happend : ∀ log server leaf, P log server →
      P (log ++ appendedBy tree server leaf) (after (SyncableServer.append tree leaf) server))
    (hcheckpoint : ∀ log server height, P log server →
      P log (after (SyncableServer.checkpoint tree hash height) server))
    {log : List AppendedLeaf} {server : SyncableServer τ} (h : P log server) (call : ServerCall) :
    P (log ++ call.appended tree server) (call.apply tree hash server) := by
  cases call with
  | append leaf => exact happend log server leaf h
  | appendTwo first second =>
    have hfirst := happend log server first h
    simp only [ServerCall.appended, ServerCall.apply, SyncableServer.appendTwo]
    unfold appendedBy after at hfirst
    cases hcall : SyncableServer.append tree first server with
    | error error server' =>
      rw [hcall] at hfirst
      rw [after, bind_of_error hcall]
      exact hfirst
    | ok idx server' =>
      rw [hcall] at hfirst
      have hsecond := happend _ _ second hfirst
      rw [List.append_assoc] at hsecond
      rw [after, bind_of_ok hcall]
      unfold after at hsecond
      cases hcall' : SyncableServer.append tree second server' with
      | error error server'' =>
        rw [hcall'] at hsecond
        rw [bind_of_error hcall']
        exact hsecond
      | ok idx' server'' =>
        rw [hcall'] at hsecond
        rw [bind_of_ok hcall']
        exact hsecond
  | checkpoint height =>
    rw [ServerCall.appended, List.append_nil]
    exact hcheckpoint log server height h

theorem runCalls_preserves {P : List AppendedLeaf → SyncableServer τ → Prop}
    (happend : ∀ log server leaf, P log server →
      P (log ++ appendedBy tree server leaf) (after (SyncableServer.append tree leaf) server))
    (hcheckpoint : ∀ log server height, P log server →
      P log (after (SyncableServer.checkpoint tree hash height) server))
    (calls : List ServerCall) {log : List AppendedLeaf} {server : SyncableServer τ}
    (h : P log server) :
    P (log ++ (runCalls tree hash server calls).1) (runCalls tree hash server calls).2 := by
  induction calls generalizing log server with
  | nil => simpa [runCalls] using h
  | cons call calls ih =>
    have hrest := ih (ServerCall.preserves tree hash happend hcheckpoint h call)
    rwa [List.append_assoc] at hrest

/-- A block above all others goes behind them. -/
theorem insertBlock_of_above {block : BlockCommitments} {blocks : List BlockCommitments}
    (h : ∀ other ∈ blocks, other.height < block.height) :
    insertBlock block blocks = blocks ++ [block] := by
  induction blocks with
  | nil => rfl
  | cons other blocks ih =>
    have hother := h other List.mem_cons_self
    rw [insertBlock, if_neg (not_lt.mpr hother.le), if_neg (ne_of_gt hother),
      ih fun later hlater => h later (List.mem_cons_of_mem _ hlater), List.cons_append]

/-! ## The block log -/

/-- The start index of the block behind `earlier`, when the wrapped server counted `start`
leaves.  The counter is taken from it from the first checkpoint on. -/
def recordedStart (start : Nat) (earlier : List BlockCommitments) : Nat :=
  if earlier.isEmpty then 0 else (start + (leavesOf earlier).length) % 2 ^ 64

theorem recordedStart_of_ne_nil {start : Nat} {earlier : List BlockCommitments} (h : earlier ≠ []) :
    recordedStart start earlier = (start + (leavesOf earlier).length) % 2 ^ 64 := by
  simp [recordedStart, h]

theorem recordedStart_zero (earlier : List BlockCommitments) :
    recordedStart 0 earlier = (leavesOf earlier).length % 2 ^ 64 := by
  cases earlier <;> simp [recordedStart, leavesOf]

/-- The block log of a server against the leaves that were appended to it, when the wrapped
server counted `start` leaves. -/
structure Described (start : Nat) (log : List AppendedLeaf) (server : SyncableServer τ) : Prop where
  ascending : server.blocks.Pairwise (·.height < ·.height)
  latest : ∀ block ∈ server.blocks, ∃ latest ∈ server.tree.latestCheckpoint, block.height ≤ latest
  leaves : leavesOf server.blocks ++ server.pendingLeaves = log.map (·.2)
  positions : ∀ k entry, log[k]? = some entry → entry.1.val = (start + k) % 2 ^ 64
  next : server.tree.nextPosition.val = (start + log.length) % 2 ^ 64
  pending : server.pendingStart.val = recordedStart start server.blocks
  starts : ∀ earlier block later, server.blocks = earlier ++ block :: later →
    block.startIndex.val = recordedStart start earlier

namespace Described

variable {start : Nat} {log : List AppendedLeaf} {server : SyncableServer τ}

theorem new (server : GenericTreeServer τ) :
    Described server.nextPosition.val [] (SyncableServer.new server) where
  ascending := .nil
  latest := by simp [SyncableServer.new]
  leaves := rfl
  positions := by simp
  next := by
    have hbound := server.nextPosition.property
    unfold u64Max at hbound
    exact (Nat.mod_eq_of_lt (by change server.nextPosition.val < _; omega)).symm
  pending := rfl
  starts := by simp [SyncableServer.new]

theorem withInner (h : Described start log server) (inner : τ) :
    Described start log (server.withInner inner) :=
  ⟨h.ascending, h.latest, h.leaves, h.positions, h.next, h.pending, h.starts⟩

/-- An append logs the leaf at the next position. -/
theorem append (h : Described start log server) (leaf : MerkleHashVote) :
    Described start (log ++ appendedBy tree server leaf)
      (after (SyncableServer.append tree leaf) server) := by
  unfold appendedBy after
  obtain ⟨error, -, heq⟩ | ⟨-, heq⟩ := append_cases tree server leaf
  · rw [heq, List.append_nil]
    exact h.withInner _
  rw [heq]
  refine ⟨h.ascending, h.latest, ?_, ?_, ?_, h.pending, h.starts⟩
  · dsimp only
    rw [← List.append_assoc, h.leaves, List.map_append]
    rfl
  · intro k entry hentry
    by_cases hold : k < log.length
    · rw [List.getElem?_append_left hold] at hentry
      exact h.positions k entry hentry
    · have hk : k = log.length := by
        have := (List.getElem?_eq_some_iff.mp hentry).1
        rw [List.length_append, List.length_singleton] at this
        omega
      rw [hk, List.getElem?_concat_length] at hentry
      cases hentry
      rw [hk]
      exact h.next
  · rw [List.length_append, List.length_singleton]
    show (server.tree.nextPosition.val + 1) % 2 ^ 64 = _
    rw [h.next]
    omega

/-- A checkpoint records the pending leaves behind the blocks. -/
theorem checkpoint (h : Described start log server)
    (height : U32) :
    Described start log (after (SyncableServer.checkpoint tree hash height) server) := by
  unfold after
  obtain ⟨error, heq⟩ | ⟨habove, ⟨error, -, heq⟩ | ⟨inner, root, -, -, heq⟩⟩ :=
    checkpoint_cases tree hash server height
  · rw [heq]
    exact h
  · rw [heq]
    exact h.withInner _
  rw [heq]
  dsimp only
  have hbelow : ∀ other ∈ server.blocks, other.height < height := by
    intro other hother
    obtain ⟨latest, hlatest, hle⟩ := h.latest other hother
    exact lt_of_le_of_lt hle (habove latest hlatest)
  rw [insertBlock_of_above hbelow]
  generalize hblock : (⟨height, server.pendingStart, server.pendingLeaves, root⟩ :
    BlockCommitments) = block
  have hleaves : leavesOf (server.blocks ++ [block]) = log.map (·.2) := by
    subst hblock
    rw [leavesOf, List.flatMap_append, List.flatMap_singleton]
    exact h.leaves
  refine ⟨?_, ?_, ?_, h.positions, h.next, ?_, ?_⟩
  · refine List.pairwise_append.mpr ⟨h.ascending, List.pairwise_singleton _ _, ?_⟩
    intro other hother newest hnewest
    rw [List.mem_singleton.mp hnewest, ← hblock]
    exact hbelow other hother
  · intro other hother
    refine ⟨height, rfl, ?_⟩
    rcases List.mem_append.mp hother with hold | hnew
    · exact (hbelow other hold).le
    · rw [List.mem_singleton.mp hnew, ← hblock]
  · rw [hleaves, List.append_nil]
  · rw [recordedStart_of_ne_nil (by simp), hleaves, List.length_map]
    exact h.next
  · intro earlier other later hsplit
    rcases List.eq_nil_or_concat' later with rfl | ⟨before, last, rfl⟩
    · obtain ⟨hearlier, hother⟩ := List.append_inj' hsplit rfl
      rw [List.singleton_inj] at hother
      rw [← hother, ← hearlier, ← hblock]
      exact h.pending
    · rw [← List.cons_append, ← List.append_assoc] at hsplit
      exact h.starts earlier other before (List.append_inj' hsplit rfl).1

/-- Calls keep the log. -/
theorem runCalls (calls : List ServerCall) (h : Described start log server) :
    Described start (log ++ (runCalls tree hash server calls).1)
      (VoteCommitmentTree.runCalls tree hash server calls).2 :=
  runCalls_preserves tree hash (fun _ _ leaf h => h.append tree leaf)
    (fun _ _ height h => h.checkpoint tree hash height) calls h

end Described

end

/-! ## Block commitments -/

section

variable {τ : Type} {tree : ShardTree τ} {leaves : τ → List MerkleHashVote}

end

end ZcashVoting.VoteCommitmentTree
