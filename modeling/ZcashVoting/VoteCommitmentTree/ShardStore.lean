import ZcashVoting.Lib.Table
import ZcashVoting.VoteCommitmentTree.Serde

/-!
# ZcashVoting.VoteCommitmentTree.ShardStore

The contract of a shard store, as the `ShardStore` trait of the `shardtree` crate and its
in-memory store state it: shards by their index, the cap, checkpoints in the order of their
identifiers, and the identifiers that are retained.
-/

namespace ZcashVoting.VoteCommitmentTree

/-! ## Shards -/

/-- `SHARD_HEIGHT`. -/
def shardHeight : Nat := 4

/-- `Address`: a node of the tree by its level and its index there. -/
structure Address where
  level : Nat
  index : U64
  deriving DecidableEq

/-- The tree does not reach below level zero when its root is at the level. -/
def PrunableTree.fits : PrunableTree → Nat → Bool
  | .parent _ left right, level + 1 => left.fits level && right.fits level
  | .parent _ _ _, 0 => false
  | .leaf _ _, _ => true
  | .nil, _ => true

/-- `LocatedPrunableTree`: a tree that fits where its root is. -/
structure LocatedPrunableTree where
  rootAddr : Address
  root : PrunableTree
  fits : root.fits rootAddr.level = true
  deriving DecidableEq

/-- `LocatedTree::from_parts(..).ok()`. -/
def LocatedPrunableTree.fromParts (rootAddr : Address) (root : PrunableTree) :
    Option LocatedPrunableTree :=
  if h : root.fits rootAddr.level = true then some ⟨rootAddr, root, h⟩ else none

/-- `KvError`. -/
inductive KvError where
  | ioError
  | deserialization
  | serialization
  deriving DecidableEq

/-! ## Operations and what they answer -/

/-- A callback on checkpoints, which may depend on the calls made before. -/
abbrev CheckpointVisitor := List (U32 × Checkpoint) → U32 → Checkpoint → Except KvError Unit

/-- The operations of the trait. -/
inductive ShardStoreOp where
  | getShard (shardRoot : Address)
  | lastShard
  | putShard (subtree : LocatedPrunableTree)
  | getShardRoots
  | truncateShards (shardIndex : U64)
  | getCap
  | putCap (cap : PrunableTree)
  | minCheckpointId
  | maxCheckpointId
  | addCheckpoint (checkpointId : U32) (checkpoint : Checkpoint)
  | checkpointCount
  | getCheckpointAtDepth (checkpointDepth : Nat)
  | getCheckpoint (checkpointId : U32)
  | withCheckpoints (limit : Nat) (callback : CheckpointVisitor)
  | forEachCheckpoint (limit : Nat) (callback : CheckpointVisitor)
  | updateCheckpointWith (checkpointId : U32) (update : Checkpoint → Except KvError Checkpoint)
  | removeCheckpoint (checkpointId : U32)
  | addRetainedCheckpoint (checkpointId : U32)
  | removeRetainedCheckpoint (checkpointId : U32)
  | retainedCheckpoints
  | truncateCheckpointsRetaining (checkpointId : U32)

/-- What a caller sees of an operation. -/
inductive ShardStoreAnswer where
  | shard (result : Except KvError (Option LocatedPrunableTree))
  | roots (result : Except KvError (List Address))
  | cap (result : Except KvError PrunableTree)
  | checkpointId (result : Except KvError (Option U32))
  | count (result : Except KvError Nat)
  | checkpointAt (result : Except KvError (Option (U32 × Checkpoint)))
  | checkpoint (result : Except KvError (Option Checkpoint))
  /-- The calls of a callback, and how they ended. -/
  | visited (calls : List (U32 × Checkpoint)) (result : Except KvError Unit)
  | updated (result : Except KvError Bool)
  | retained (result : Except KvError (SortedSet U32))
  | done (result : Except KvError Unit)

/-! ## The contract -/

/-- What the store holds. -/
structure ShardStore where
  shards : Table U64 LocatedPrunableTree := ∅
  cap : PrunableTree := .nil
  checkpoints : Table U32 Checkpoint := ∅
  retained : SortedSet U32 := ∅

/-- Call on the checkpoints in turn, until a call fails. -/
def visitAll (callback : CheckpointVisitor) :
    List (U32 × Checkpoint) → List (U32 × Checkpoint) → List (U32 × Checkpoint) × Except KvError Unit
  | calls, [] => (calls, .ok ())
  | calls, (checkpointId, checkpoint) :: rest =>
    let called := calls ++ [(checkpointId, checkpoint)]
    match callback calls checkpointId checkpoint with
    | .ok () => visitAll callback called rest
    | .error error => (called, .error error)

namespace ShardStore

/-- The shards by index. -/
def shardsInOrder (store : ShardStore) : List (U64 × LocatedPrunableTree) :=
  store.shards.ascending (· ≤ ·)

/-- The checkpoints by identifier. -/
def checkpointsInOrder (store : ShardStore) : List (U32 × Checkpoint) :=
  store.checkpoints.ascending (· ≤ ·)

/-- Visit the first checkpoints. -/
def visit (store : ShardStore) (limit : Nat) (callback : CheckpointVisitor) : ShardStoreAnswer :=
  let (calls, result) := visitAll callback [] (store.checkpointsInOrder.take limit)
  .visited calls result

/-- Replace a checkpoint by what the update makes of it. -/
def update (store : ShardStore) (checkpointId : U32)
    (update : Checkpoint → Except KvError Checkpoint) : Except KvError Bool × ShardStore :=
  match store.checkpoints.lookup checkpointId with
  | none => (.ok false, store)
  | some checkpoint =>
    match update checkpoint with
    | .error error => (.error error, store)
    | .ok checkpoint =>
      (.ok true, { store with checkpoints := store.checkpoints.insert checkpointId checkpoint })

/-- Remove the checkpoints after the identifier, and the removed marks of the checkpoint
that has it. -/
def truncateRetaining (store : ShardStore) (checkpointId : U32) : ShardStore :=
  let kept := store.checkpoints.retain fun other _ => other ≤ checkpointId
  { store with checkpoints :=
      match kept.lookup checkpointId with
      | none => kept
      | some checkpoint => kept.insert checkpointId { checkpoint with marksRemoved := ∅ } }

/-- What each operation answers and does. -/
def step (store : ShardStore) : ShardStoreOp → ShardStoreAnswer × ShardStore
  | .getShard shardRoot => (.shard (.ok (store.shards.lookup shardRoot.index)), store)
  | .lastShard => (.shard (.ok (store.shardsInOrder.getLast?.map (·.2))), store)
  | .putShard subtree =>
    (.done (.ok ()), { store with shards := store.shards.insert subtree.rootAddr.index subtree })
  | .getShardRoots => (.roots (.ok (store.shardsInOrder.map (·.2.rootAddr))), store)
  | .truncateShards shardIndex =>
    (.done (.ok ()), { store with shards := store.shards.retain fun index _ => index < shardIndex })
  | .getCap => (.cap (.ok store.cap), store)
  | .putCap cap => (.done (.ok ()), { store with cap })
  | .minCheckpointId => (.checkpointId (.ok (store.checkpointsInOrder.head?.map (·.1))), store)
  | .maxCheckpointId => (.checkpointId (.ok (store.checkpointsInOrder.getLast?.map (·.1))), store)
  | .addCheckpoint checkpointId checkpoint =>
    (.done (.ok ()), { store with checkpoints := store.checkpoints.insert checkpointId checkpoint })
  | .checkpointCount => (.count (.ok store.checkpointsInOrder.length), store)
  | .getCheckpointAtDepth checkpointDepth =>
    (.checkpointAt (.ok store.checkpointsInOrder.reverse[checkpointDepth]?), store)
  | .getCheckpoint checkpointId =>
    (.checkpoint (.ok (store.checkpoints.lookup checkpointId)), store)
  | .withCheckpoints limit callback => (store.visit limit callback, store)
  | .forEachCheckpoint limit callback => (store.visit limit callback, store)
  | .updateCheckpointWith checkpointId update =>
    let (result, store) := store.update checkpointId update
    (.updated result, store)
  | .removeCheckpoint checkpointId =>
    (.done (.ok ()), { store with checkpoints := store.checkpoints.erase checkpointId })
  | .addRetainedCheckpoint checkpointId =>
    (.done (.ok ()), { store with retained := store.retained.insert checkpointId })
  | .removeRetainedCheckpoint checkpointId =>
    (.done (.ok ()), { store with retained := store.retained.erase checkpointId })
  | .retainedCheckpoints => (.retained (.ok store.retained), store)
  | .truncateCheckpointsRetaining checkpointId =>
    (.done (.ok ()), store.truncateRetaining checkpointId)

end ShardStore

end ZcashVoting.VoteCommitmentTree
