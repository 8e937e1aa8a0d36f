import ZcashVoting.Lib.Framing
import ZcashVoting.VoteCommitmentTree.ShardStore

/-!
# ZcashVoting.VoteCommitmentTree.KvShardStore

The shard store of the chain: every read and write goes to the host's key-value store
through the callbacks the host registered.  Shards, the cap, checkpoints and retained
markers each live under a first byte of their own, with big-endian indices behind it.
-/

namespace ZcashVoting.VoteCommitmentTree

open Framing

/-! ## Callbacks -/

/-- The answers of `iter_next` on one iterator in turn, each a code with a key and a value.
After the last of them the iterator is exhausted. -/
abbrev KvAnswers := List (Int × Bytes × Bytes)

/-- `KvCallbacks`: the host's functions on its state `σ`, with their return codes. -/
structure KvCallbacks (σ : Type) where
  /-- The code and the value: 0 found, 1 not found, anything else an error. -/
  get : σ → Bytes → (Int × Bytes) × σ
  set : σ → Bytes → Bytes → Int × σ
  delete : σ → Bytes → Int × σ
  /-- `iter_create` over the keys that start with the bytes, ascending or in reverse: the
  null handle, or an iterator with what `iter_next` answers on it (0 valid, 1 exhausted,
  anything else an error). -/
  iter : σ → Bytes → Bool → Option KvAnswers × σ

/-- The pairs that `KvIter::next` gives out.  It ends at a null handle and at the first
code that is not 0. -/
def KvIter.pairs : Option KvAnswers → List (Bytes × Bytes)
  | none => []
  | some answers => (answers.takeWhile fun answer => answer.1 = 0).map (·.2)

section

variable {σ : Type} (cb : KvCallbacks σ)

/-- A call of the store.  What it wrote stays written when it fails. -/
abbrev KvCall (σ α : Type) := EStateM KvError σ α

/-- `KvCallbacks::get`. -/
def KvCallbacks.getValue (key : Bytes) : KvCall σ (Option Bytes) := fun s =>
  let ((rc, value), s) := cb.get s key
  if rc = 0 then .ok (some value) s
  else if rc = 1 then .ok none s
  else .error .ioError s

/-- `KvCallbacks::set`. -/
def KvCallbacks.setValue (key value : Bytes) : KvCall σ Unit := fun s =>
  let (rc, s) := cb.set s key value
  if rc = 0 then .ok () s else .error .ioError s

/-- `KvCallbacks::delete`. -/
def KvCallbacks.deleteKey (key : Bytes) : KvCall σ Unit := fun s =>
  let (rc, s) := cb.delete s key
  if rc = 0 then .ok () s else .error .ioError s

/-- `KvCallbacks::iter` with all that can be read from it; an operation that stops earlier
looks at the front of it only. -/
def KvCallbacks.entries (start : Bytes) (reverse : Bool) : KvCall σ (List (Bytes × Bytes)) := fun s =>
  let (handle, s) := cb.iter s start reverse
  .ok (KvIter.pairs handle) s

/-- Delete one key after the other. -/
def KvCallbacks.deleteKeys : List Bytes → KvCall σ Unit
  | [] => return
  | key :: keys => do
    cb.deleteKey key
    deleteKeys keys

end

/-! ## Keys -/

/-- `SHARD_PREFIX`. -/
def shardPrefix : UInt8 := 0x0F

/-- `CAP_KEY`. -/
def capKeyByte : UInt8 := 0x10

/-- `CHECKPOINT_PREFIX`. -/
def checkpointPrefix : UInt8 := 0x11

/-- `RETAINED_CHECKPOINT_PREFIX`. -/
def retainedCheckpointPrefix : UInt8 := 0x12

/-- `shard_key`. -/
def shardKey (index : U64) : Bytes := shardPrefix :: beBytes 8 index.val

/-- `cap_key`. -/
def capKey : Bytes := [capKeyByte]

/-- `checkpoint_key`. -/
def checkpointKey (id : U32) : Bytes := checkpointPrefix :: beBytes 4 id.val

/-- `retained_checkpoint_key`. -/
def retainedCheckpointKey (id : U32) : Bytes := retainedCheckpointPrefix :: beBytes 4 id.val

theorem beValue_take_le (bytes : Bytes) (width : Nat) :
    beValue (bytes.take width) ≤ 256 ^ width - 1 := by
  have hlt := beValue_lt (bytes.take width)
  have hle : 256 ^ (bytes.take width).length ≤ 256 ^ width :=
    Nat.pow_le_pow_right (by decide) (List.length_take_le _ _)
  omega

/-- `u64::from_be_bytes(key[1..9])`. -/
def shardIndexOfKey (key : Bytes) : U64 :=
  ⟨beValue ((key.drop 1).take 8), beValue_take_le _ 8⟩

/-- `u32::from_be_bytes(key[1..5])`. -/
def checkpointIdOfKey (key : Bytes) : U32 :=
  ⟨beValue ((key.drop 1).take 4), beValue_take_le _ 4⟩

/-! ## The store -/

namespace KvShardStore

variable [FieldRepr] {σ : Type} (cb : KvCallbacks σ)

/-- A shard blob at its address. -/
def locateShard (addr : Address) (blob : Bytes) : KvCall σ (Option LocatedPrunableTree) :=
  match readShardVote blob with
  | some tree => return LocatedPrunableTree.fromParts addr tree
  | none => throw .deserialization

/-- `get_shard`. -/
def getShard (shardRoot : Address) : KvCall σ (Option LocatedPrunableTree) := do
  let found ← cb.getValue (shardKey shardRoot.index)
  match found with
  | none => return none
  | some blob => locateShard shardRoot blob

/-- `last_shard`. -/
def lastShard : KvCall σ (Option LocatedPrunableTree) := do
  let entries ← cb.entries [shardPrefix] true
  match entries.head? with
  | none => return none
  | some (key, value) =>
    if key.length < 9 then return none
    else locateShard ⟨shardHeight, shardIndexOfKey key⟩ value

/-- `put_shard`. -/
def putShard (subtree : LocatedPrunableTree) : KvCall σ Unit :=
  cb.setValue (shardKey subtree.rootAddr.index) (writeShardVote subtree.root)

/-- `get_shard_roots`. -/
def getShardRoots : KvCall σ (List Address) := do
  let entries ← cb.entries [shardPrefix] false
  return (entries.filter fun (key, _) => 9 ≤ key.length).map fun (key, _) =>
    ⟨shardHeight, shardIndexOfKey key⟩

/-- The keys that the loop of `truncate_shards` collects: those from the index on. -/
def keysFrom (shardIndex : U64) (entries : List (Bytes × Bytes)) : List Bytes :=
  (entries.filter fun (key, _) => 9 ≤ key.length && shardIndex ≤ shardIndexOfKey key).map (·.1)

/-- `truncate_shards`. -/
def truncateShards (shardIndex : U64) : KvCall σ Unit := do
  let entries ← cb.entries [shardPrefix] false
  cb.deleteKeys (keysFrom shardIndex entries)

/-- `get_cap`. -/
def getCap : KvCall σ PrunableTree := do
  let found ← cb.getValue capKey
  match found with
  | none => return .nil
  | some blob =>
    match readShardVote blob with
    | some cap => return cap
    | none => throw .deserialization

/-- `put_cap`. -/
def putCap (cap : PrunableTree) : KvCall σ Unit := cb.setValue capKey (writeShardVote cap)

/-- The identifier in the first key of an iteration. -/
def firstCheckpointId (entries : List (Bytes × Bytes)) : Option U32 :=
  entries.head?.bind fun (key, _) => if 5 ≤ key.length then some (checkpointIdOfKey key) else none

/-- `min_checkpoint_id`. -/
def minCheckpointId : KvCall σ (Option U32) := do
  let entries ← cb.entries [checkpointPrefix] false
  return firstCheckpointId entries

/-- `max_checkpoint_id`. -/
def maxCheckpointId : KvCall σ (Option U32) := do
  let entries ← cb.entries [checkpointPrefix] true
  return firstCheckpointId entries

/-- `add_checkpoint`. -/
def addCheckpoint (checkpointId : U32) (checkpoint : Checkpoint) : KvCall σ Unit :=
  cb.setValue (checkpointKey checkpointId) (writeCheckpoint checkpoint)

/-- `checkpoint_count`. -/
def checkpointCount : KvCall σ Nat := do
  let entries ← cb.entries [checkpointPrefix] false
  return entries.length

/-- `get_checkpoint_at_depth`. -/
def getCheckpointAtDepth (checkpointDepth : Nat) : KvCall σ (Option (U32 × Checkpoint)) := do
  let entries ← cb.entries [checkpointPrefix] true
  return entries[checkpointDepth]?.bind fun (key, value) =>
    if key.length < 5 then none
    else (readCheckpoint value).map fun checkpoint => (checkpointIdOfKey key, checkpoint)

/-- `get_checkpoint`. -/
def getCheckpoint (checkpointId : U32) : KvCall σ (Option Checkpoint) := do
  let found ← cb.getValue (checkpointKey checkpointId)
  return found.bind readCheckpoint

/-- The loop of `with_checkpoints` and `for_each_checkpoint`: what cannot be decoded counts
but is not visited. -/
def visitEntries (callback : CheckpointVisitor) : Nat → List (U32 × Checkpoint) →
    List (Bytes × Bytes) → List (U32 × Checkpoint) × Except KvError Unit
  | _, calls, [] => (calls, .ok ())
  | 0, calls, _ :: _ => (calls, .ok ())
  | limit + 1, calls, (key, value) :: rest =>
    if key.length < 5 then visitEntries callback (limit + 1) calls rest
    else match readCheckpoint value with
      | none => visitEntries callback limit calls rest
      | some checkpoint =>
        let called := calls ++ [(checkpointIdOfKey key, checkpoint)]
        match callback calls (checkpointIdOfKey key) checkpoint with
        | .ok () => visitEntries callback limit called rest
        | .error error => (called, .error error)

/-- The checkpoints that the loop visits: those that decode among the first entries with a
key of its own length. -/
def decodedCheckpoints (limit : Nat) (entries : List (Bytes × Bytes)) : List (U32 × Checkpoint) :=
  ((entries.filter fun (key, _) => 5 ≤ key.length).take limit).filterMap fun (key, value) =>
    (readCheckpoint value).map fun checkpoint => (checkpointIdOfKey key, checkpoint)

omit [FieldRepr] in
theorem visitEntries_eq_visitAll (callback : CheckpointVisitor) (limit : Nat)
    (calls : List (U32 × Checkpoint)) (entries : List (Bytes × Bytes)) :
    visitEntries callback limit calls entries =
      visitAll callback calls (decodedCheckpoints limit entries) := by
  fun_induction visitEntries callback limit calls entries <;>
    simp_all [decodedCheckpoints, visitAll, List.filter_cons, Nat.not_le_of_lt]
  · rfl
  · rfl

/-- `with_checkpoints` and `for_each_checkpoint`. -/
def visitCheckpoints (limit : Nat) (callback : CheckpointVisitor) :
    KvCall σ (List (U32 × Checkpoint) × Except KvError Unit) := do
  let entries ← cb.entries [checkpointPrefix] false
  return visitEntries callback limit [] entries

/-- `update_checkpoint_with`. -/
def updateCheckpointWith (checkpointId : U32) (update : Checkpoint → Except KvError Checkpoint) :
    KvCall σ Bool := do
  let found ← cb.getValue (checkpointKey checkpointId)
  match found.bind readCheckpoint with
  | none => return false
  | some checkpoint =>
    match update checkpoint with
    | .error error => throw error
    | .ok checkpoint => do
      cb.setValue (checkpointKey checkpointId) (writeCheckpoint checkpoint)
      return true

/-- `remove_checkpoint`. -/
def removeCheckpoint (checkpointId : U32) : KvCall σ Unit := cb.deleteKey (checkpointKey checkpointId)

/-- `add_retained_checkpoint`. -/
def addRetainedCheckpoint (checkpointId : U32) : KvCall σ Unit :=
  cb.setValue (retainedCheckpointKey checkpointId) []

/-- `remove_retained_checkpoint`. -/
def removeRetainedCheckpoint (checkpointId : U32) : KvCall σ Unit :=
  cb.deleteKey (retainedCheckpointKey checkpointId)

/-- `retained_checkpoints`. -/
def retainedCheckpoints : KvCall σ (SortedSet U32) := do
  let entries ← cb.entries [retainedCheckpointPrefix] false
  return ((entries.filter fun (key, _) => 5 ≤ key.length).map fun (key, _) =>
    checkpointIdOfKey key).foldl SortedSet.insert ∅

/-- The keys that the ascending loop of `truncate_checkpoints_retaining` collects: those
below the identifier, up to the first that is not. -/
def keysBelow (checkpointId : U32) : List (Bytes × Bytes) → List Bytes
  | [] => []
  | (key, _) :: rest =>
    if key.length < 5 then keysBelow checkpointId rest
    else if checkpointIdOfKey key < checkpointId then key :: keysBelow checkpointId rest
    else []

/-- `truncate_checkpoints_retaining`. -/
def truncateCheckpointsRetaining (checkpointId : U32) : KvCall σ Unit := do
  let entries ← cb.entries [checkpointPrefix] false
  cb.deleteKeys (keysBelow checkpointId entries)
  let found ← cb.getValue (checkpointKey checkpointId)
  match found.bind readCheckpoint with
  | none => return
  | some checkpoint =>
    cb.setValue (checkpointKey checkpointId)
      (writeCheckpoint { checkpoint with marksRemoved := ∅ })

/-- What a call returns, and the host's state after it. -/
def outcome {α : Type} (call : KvCall σ α) (s : σ) : Except KvError α × σ :=
  match call s with
  | .ok a s => (.ok a, s)
  | .error error s => (.error error, s)

/-- What a visit shows to its caller. -/
def visitAnswer : Except KvError (List (U32 × Checkpoint) × Except KvError Unit) → ShardStoreAnswer
  | .ok (calls, result) => .visited calls result
  | .error error => .visited [] (.error error)

/-- The operations of the trait. -/
def step (s : σ) : ShardStoreOp → ShardStoreAnswer × σ
  | .getShard shardRoot => (outcome (getShard cb shardRoot) s).map .shard id
  | .lastShard => (outcome (lastShard cb) s).map .shard id
  | .putShard subtree => (outcome (putShard cb subtree) s).map .done id
  | .getShardRoots => (outcome (getShardRoots cb) s).map .roots id
  | .truncateShards shardIndex => (outcome (truncateShards cb shardIndex) s).map .done id
  | .getCap => (outcome (getCap cb) s).map .cap id
  | .putCap cap => (outcome (putCap cb cap) s).map .done id
  | .minCheckpointId => (outcome (minCheckpointId cb) s).map .checkpointId id
  | .maxCheckpointId => (outcome (maxCheckpointId cb) s).map .checkpointId id
  | .addCheckpoint checkpointId checkpoint =>
    (outcome (addCheckpoint cb checkpointId checkpoint) s).map .done id
  | .checkpointCount => (outcome (checkpointCount cb) s).map .count id
  | .getCheckpointAtDepth checkpointDepth =>
    (outcome (getCheckpointAtDepth cb checkpointDepth) s).map .checkpointAt id
  | .getCheckpoint checkpointId => (outcome (getCheckpoint cb checkpointId) s).map .checkpoint id
  | .withCheckpoints limit callback =>
    (outcome (visitCheckpoints cb limit callback) s).map visitAnswer id
  | .forEachCheckpoint limit callback =>
    (outcome (visitCheckpoints cb limit callback) s).map visitAnswer id
  | .updateCheckpointWith checkpointId update =>
    (outcome (updateCheckpointWith cb checkpointId update) s).map .updated id
  | .removeCheckpoint checkpointId => (outcome (removeCheckpoint cb checkpointId) s).map .done id
  | .addRetainedCheckpoint checkpointId =>
    (outcome (addRetainedCheckpoint cb checkpointId) s).map .done id
  | .removeRetainedCheckpoint checkpointId =>
    (outcome (removeRetainedCheckpoint cb checkpointId) s).map .done id
  | .retainedCheckpoints => (outcome (retainedCheckpoints cb) s).map .retained id
  | .truncateCheckpointsRetaining checkpointId =>
    (outcome (truncateCheckpointsRetaining cb checkpointId) s).map .done id

end KvShardStore

end ZcashVoting.VoteCommitmentTree
