import ZcashVoting.Lib.Stateful
import ZcashVoting.VoteCommitmentTree.ShardTree

/-!
# ZcashVoting.VoteCommitmentTree.Client

The client's copy of the vote commitment tree: it asks a server for the state of the tree,
fetches the blocks since the last synced height page by page, appends their leaves, and
compares its roots with the served ones.  The server answers as it likes, and what a failed
sync has already applied stays applied.
-/

namespace ZcashVoting.VoteCommitmentTree

/-! ## The sync API -/

namespace SyncApi

/-- `BlockCommitments`. -/
structure BlockCommitments where
  height : U32
  startIndex : U64
  leaves : List MerkleHashVote
  root : MerkleHashVote
  deriving DecidableEq

/-- `BlockCommitmentsPage`. -/
structure BlockCommitmentsPage where
  blocks : List BlockCommitments
  /-- The next height to request, or zero when the range is complete. -/
  nextFromHeight : U32
  deriving DecidableEq

/-- `TreeState`. -/
structure TreeState where
  nextIndex : U64
  root : MerkleHashVote
  height : U32
  deriving DecidableEq

end SyncApi

open SyncApi

/-- `TreeSyncApi`: a server with state `σ`, beside the clock that is read between its calls. -/
structure TreeSyncApi (σ ε : Type) where
  getTreeState : σ → Except ε SyncApi.TreeState × σ
  getBlockCommitments : σ → U32 → U32 → Except ε BlockCommitmentsPage × σ
  /-- `started_at.elapsed()`. -/
  elapsed : σ → Nat × σ

/-- `SyncLimits`. -/
structure SyncLimits where
  maxPages : Nat
  maxDuration : Nat

/-- `SyncLimits::default`, with the duration in nanoseconds. -/
def SyncLimits.default : SyncLimits where
  maxPages := 4096
  maxDuration := 5 * 60 * 10 ^ 9

/-- `SyncError`. -/
inductive SyncError (ε : Type) where
  | api (error : ε)
  | startIndexMismatch (height : U32) (expected got : Nat)
  | rootMismatch (height : U32) (localRoot : Option MerkleHashVote) (server : MerkleHashVote)
  | incompleteSync (localNextIndex serverNextIndex : Nat)
  | invalidPagination (current next : U32)
  | treeCapacityExceeded (height : U32) (requestedNextIndex capacity : Nat)
  | checkpointOutOfOrder (previous requested : U32)
  | treeUpdate (height : U32) (operation : String) (source : ShardTreeError)
  | pageLimitExceeded (maxPages : Nat)
  | timeLimitExceeded (maxDuration : Nat)
  deriving DecidableEq

/-- How a sync ends when it does not end well. -/
inductive SyncFault (ε : Type) where
  /-- The arithmetic overflowed, in a build that checks it. -/
  | panicked
  | failed (error : SyncError ε)
  deriving DecidableEq

/-- The fault is a root that differs. -/
def SyncFault.isRootMismatch {ε : Type} : SyncFault ε → Bool
  | .failed (.rootMismatch _ _ _) => true
  | _ => false

/-! ## The client -/

/-- `TreeClient`. -/
structure TreeClient (τ : Type) where
  inner : τ
  nextPosition : Nat
  lastSyncedHeight : Option U32
  markedPositions : SortedSet Nat

/-- The client and the server during a sync. -/
structure SyncState (τ σ : Type) where
  client : TreeClient τ
  server : σ

/-- A part of a sync. -/
abbrev SyncCall (τ σ ε α : Type) := EStateM (SyncFault ε) (SyncState τ σ) α

namespace TreeClient

variable {τ σ ε : Type} (tree : ShardTree τ) (hash : VoteHash) {s : SyncState τ σ}
  {bad : SyncFault ε → SyncState τ σ → Prop} {ok : Unit → SyncState τ σ → Prop}

/-- `TreeClient::empty`. -/
def empty : TreeClient τ := ⟨tree.empty, 0, none, ∅⟩

/-- `mark_position`. -/
def markPosition (client : TreeClient τ) (position : Nat) : TreeClient τ :=
  { client with markedPositions := client.markedPositions.insert position }

/-- `root_at_height`. -/
def rootAtHeight (client : TreeClient τ) (height : U32) : Option MerkleHashVote :=
  tree.rootAtCheckpointId client.inner height

/-- `root`. -/
def root (client : TreeClient τ) : MerkleHashVote :=
  match client.lastSyncedHeight with
  | some id => (tree.rootAtCheckpointId client.inner id).getD hash.emptyTreeRoot
  | none => hash.emptyTreeRoot

/-- `witness`. -/
def witness (client : TreeClient τ) (position : Nat) (anchorHeight : U32) : Option MerklePath :=
  tree.witnessAtCheckpointId client.inner position anchorHeight

/-! ## Sync -/

/-- Fail with the error unless the condition holds. -/
def ensure (condition : Prop) [Decidable condition] (error : SyncError ε) :
    SyncCall τ σ ε Unit :=
  if condition then return else throw (.failed error)

theorem ensure_eq (condition : Prop) [Decidable condition] (error : SyncError ε)
    (s : SyncState τ σ) :
    ensure condition error s = if condition then .ok () s else .error (.failed error) s := by
  unfold ensure
  split <;> rfl

theorem ensure_of {condition : Prop} [Decidable condition] {error : SyncError ε} (h : condition) :
    ensure condition error s = .ok () s := by
  rw [ensure_eq, if_pos h]

/-- Ask the server, and pass its error on. -/
def ask {α : Type} (question : σ → Except ε α × σ) : SyncCall τ σ ε α := fun s =>
  match question s.server with
  | (.ok answer, server) => .ok answer { s with server }
  | (.error error, server) => .error (.failed (.api error)) { s with server }

/-- `check_sync_duration`. -/
def checkSyncDuration (api : TreeSyncApi σ ε) (limits : SyncLimits) : SyncCall τ σ ε Unit := do
  let s ← get
  let (elapsed, server) := api.elapsed s.server
  set { s with server }
  ensure (elapsed ≤ limits.maxDuration) (.timeLimitExceeded limits.maxDuration)

theorem ask_ends {α : Type} {question : σ → Except ε α × σ} {ok : α → SyncState τ σ → Prop}
    (hok : ∀ answer, (question s.server).1 = .ok answer →
      ok answer { s with server := (question s.server).2 })
    (hbad : ∀ error, (question s.server).1 = .error error →
      bad (.failed (.api error)) { s with server := (question s.server).2 }) :
    Stateful.Ends (ask question) s ok bad := by
  unfold Stateful.Ends ask
  cases hquestion : question s.server with
  | mk result server =>
    rw [hquestion] at hok hbad
    cases result with
    | ok answer => exact hok answer rfl
    | error error => exact hbad error rfl

theorem ensure_ends {condition : Prop} [Decidable condition] {error : SyncError ε}
    (hok : condition → ok () s) (hbad : ¬condition → bad (.failed error) s) :
    Stateful.Ends (ensure condition error) s ok bad := by
  unfold Stateful.Ends
  rw [ensure_eq]
  by_cases h : condition
  · rw [if_pos h]
    exact hok h
  · rw [if_neg h]
    exact hbad h

theorem checkSyncDuration_ends {api : TreeSyncApi σ ε} {limits : SyncLimits}
    (hok : ok () { s with server := (api.elapsed s.server).2 })
    (hbad : bad (.failed (.timeLimitExceeded limits.maxDuration))
      { s with server := (api.elapsed s.server).2 }) :
    Stateful.Ends (checkSyncDuration api limits) s ok bad :=
  Stateful.Ends.bind (Stateful.Ends.get
    (Stateful.Ends.bind (Stateful.Ends.set (ensure_ends (fun _ => hok) fun _ => hbad))))

/-- The error of an append that the tree refused. -/
def appendError (height : U32) (nextPosition : Nat) : ShardTreeError → SyncError ε
  | .treeFull => .treeCapacityExceeded height (min (nextPosition + 1) u64Max) treeCapacity
  | source => .treeUpdate height "append" source

/-- The leaves of a block, one after the other. -/
def appendLeaves (height : U32) : List MerkleHashVote → SyncCall τ σ ε Unit
  | [] => return
  | leaf :: leaves => do
    let s ← get
    let client := s.client
    let retention :=
      if client.nextPosition ∈ client.markedPositions then Retention.marked else .ephemeral
    match tree.append client.inner leaf retention with
    | (.error source, inner) => do
      set { s with client := { client with inner } }
      throw (.failed (appendError height client.nextPosition source))
    | (.ok (), inner) => do
      set { s with client := { client with inner, nextPosition := client.nextPosition + 1 } }
      appendLeaves height leaves

/-- The checkpoint after a block. -/
def addCheckpoint (height : U32) : SyncCall τ σ ε Unit := do
  let s ← get
  let client := s.client
  match tree.checkpoint client.inner height with
  | (.error source, inner) => do
    set { s with client := { client with inner } }
    throw (.failed (.treeUpdate height "checkpoint" source))
  | (.ok false, inner) => do
    set { s with client := { client with inner } }
    throw (.failed (.checkpointOutOfOrder (client.lastSyncedHeight.getD height) height))
  | (.ok true, inner) =>
    set { s with client := { client with inner, lastSyncedHeight := some height } }

/-- One block: its leaves, the checkpoint, and the root at it. -/
def applyBlock (block : BlockCommitments) : SyncCall τ σ ε Unit := do
  let s ← get
  ensure (block.leaves = [] ∨ block.startIndex.val = s.client.nextPosition)
    (.startIndexMismatch block.height s.client.nextPosition block.startIndex.val)
  appendLeaves tree block.height block.leaves
  addCheckpoint tree block.height
  let s ← get
  let localRoot := s.client.rootAtHeight tree block.height
  ensure (localRoot = some block.root) (.rootMismatch block.height localRoot block.root)

/-- The blocks of a page. -/
def applyBlocks : List BlockCommitments → SyncCall τ σ ε Unit
  | [] => return
  | block :: blocks => do
    applyBlock tree block
    applyBlocks blocks

/-- The loop of `validate_page`, with the position and the height it has come to. -/
def validateBlocks (expectedNextPosition : Nat) (previousHeight : Option U32) :
    List BlockCommitments → Except (SyncError ε) Unit
  | [] => .ok ()
  | block :: blocks =>
    if let some previous := previousHeight.filter (block.height ≤ ·) then
      .error (.checkpointOutOfOrder previous block.height)
    else if block.leaves = [] then
      validateBlocks expectedNextPosition (some block.height) blocks
    else
      let declaredNextIndex := min (block.startIndex.val + block.leaves.length) u64Max
      let requestedNextIndex := min (expectedNextPosition + block.leaves.length) u64Max
      if treeCapacity < declaredNextIndex then
        .error (.treeCapacityExceeded block.height declaredNextIndex treeCapacity)
      else if block.startIndex.val ≠ expectedNextPosition then
        .error (.startIndexMismatch block.height expectedNextPosition block.startIndex.val)
      else if treeCapacity < requestedNextIndex then
        .error (.treeCapacityExceeded block.height requestedNextIndex treeCapacity)
      else validateBlocks requestedNextIndex (some block.height) blocks

/-- `validate_page`. -/
def validatePage (page : BlockCommitmentsPage) : SyncCall τ σ ε Unit := fun s =>
  match validateBlocks s.client.nextPosition s.client.lastSyncedHeight page.blocks with
  | .ok () => .ok () s
  | .error error => .error (.failed error) s

theorem validatePage_ends {page : BlockCommitmentsPage}
    (hok : (validateBlocks s.client.nextPosition s.client.lastSyncedHeight page.blocks :
      Except (SyncError ε) Unit) = .ok () → ok () s)
    (hbad : ∀ error, validateBlocks s.client.nextPosition s.client.lastSyncedHeight page.blocks =
      .error error → bad (.failed error) s) : Stateful.Ends (validatePage page) s ok bad := by
  unfold Stateful.Ends validatePage
  cases hresult : (validateBlocks s.client.nextPosition s.client.lastSyncedHeight page.blocks :
      Except (SyncError ε) Unit) with
  | ok => exact hok hresult
  | error error => exact hbad error hresult

/-- The loop over pages.  The pages that may still be fetched count down where
`pages_fetched` counts up. -/
def syncPages (api : TreeSyncApi σ ε) (limits : SyncLimits) (toHeight : U32) :
    Nat → U32 → SyncCall τ σ ε Unit
  | 0, _ => do
    checkSyncDuration api limits
    throw (.failed (.pageLimitExceeded limits.maxPages))
  | remaining + 1, pageFrom => do
    checkSyncDuration api limits
    let page ← ask fun server => api.getBlockCommitments server pageFrom toHeight
    checkSyncDuration api limits
    validatePage page
    applyBlocks tree page.blocks
    if page.nextFromHeight.val = 0 then return
    else
      ensure (pageFrom < page.nextFromHeight) (.invalidPagination pageFrom page.nextFromHeight)
      ensure (page.nextFromHeight ≤ toHeight) (.invalidPagination pageFrom page.nextFromHeight)
      syncPages api limits toHeight remaining page.nextFromHeight

/-- The root of a tree that is not empty is the advertised one. -/
def checkTipRoot (state : SyncApi.TreeState) : SyncCall τ σ ε Unit := do
  let s ← get
  let localRoot := s.client.root tree hash
  ensure (state.nextIndex.val = 0 ∨ localRoot = state.root)
    (.rootMismatch state.height (some localRoot) state.root)

/-- The height to start from: `last_synced_height.map(|h| h + 1).unwrap_or(0)`.  At
`u32::MAX` the addition panics in a build with overflow checks, and wraps in one without. -/
def fromHeight (overflowChecks : Bool) : Option U32 → SyncCall τ σ ε U32
  | none => return ⟨0, Nat.zero_le _⟩
  | some h =>
    if hnext : h.val + 1 ≤ u32Max then return ⟨h.val + 1, hnext⟩
    else if overflowChecks then throw .panicked
    else return ⟨0, Nat.zero_le _⟩

/-- `sync_with_limits`. -/
def syncWithLimits (overflowChecks : Bool) (api : TreeSyncApi σ ε) (limits : SyncLimits) :
    SyncCall τ σ ε Unit := do
  let state ← ask api.getTreeState
  checkSyncDuration api limits
  ensure (state.nextIndex.val ≤ treeCapacity)
    (.treeCapacityExceeded state.height state.nextIndex.val treeCapacity)
  let s ← get
  if state.nextIndex.val = s.client.nextPosition then
    checkTipRoot tree hash state
  else
    let pageFrom ← fromHeight overflowChecks s.client.lastSyncedHeight
    if state.height < pageFrom then return
    else
      syncPages tree api limits state.height limits.maxPages pageFrom
      let s ← get
      ensure (s.client.nextPosition = state.nextIndex.val)
        (.incompleteSync s.client.nextPosition state.nextIndex.val)
      checkTipRoot tree hash state

/-- `sync`. -/
def sync (overflowChecks : Bool) (api : TreeSyncApi σ ε) : SyncCall τ σ ε Unit :=
  syncWithLimits tree hash overflowChecks api SyncLimits.default

end TreeClient

end ZcashVoting.VoteCommitmentTree
