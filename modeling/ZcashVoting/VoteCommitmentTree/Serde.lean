import ZcashVoting.Lib.Reader
import ZcashVoting.Lib.SortedSet
import ZcashVoting.Types

/-!
# ZcashVoting.VoteCommitmentTree.Serde

The blobs in which the commitment tree is stored: shards and the cap as their nodes from
the root down, checkpoints as their position and the marks removed since.  Every blob reads
back to what was written, a checkpoint as long as its marks can be counted in a `u32`, and no
proper part of a blob is read as anything.

The types of the trees and checkpoints are those of the `shardtree` crate.
-/

namespace ZcashVoting.VoteCommitmentTree

open Reader

/-! ## Trees and checkpoints -/

/-- `MerkleHashVote`: a field element by its canonical representative. -/
structure MerkleHashVote where
  value : Nat
  canonical : value < pallasModulus
  deriving DecidableEq

/-- `Fp::to_repr` and `Fp::from_repr` of the `pasta_curves` crate: an element has 32 bytes,
which are read back. -/
class FieldRepr where
  toRepr : MerkleHashVote → Bytes
  fromRepr : Bytes → Option MerkleHashVote
  length_toRepr : ∀ hash, (toRepr hash).length = 32
  fromRepr_toRepr : ∀ hash, fromRepr (toRepr hash) = some hash

section

variable [FieldRepr]

/-- `MerkleHashVote::to_bytes`. -/
def MerkleHashVote.toBytes (hash : MerkleHashVote) : Bytes := FieldRepr.toRepr hash

/-- `MerkleHashVote::from_bytes`. -/
def MerkleHashVote.fromBytes (bytes : Bytes) : Option MerkleHashVote := FieldRepr.fromRepr bytes

end

/-- `RetentionFlags`. -/
structure RetentionFlags where
  checkpoint : Bool
  marked : Bool
  reference : Bool
  deriving DecidableEq

/-- `RetentionFlags::bits`. -/
def RetentionFlags.bits (flags : RetentionFlags) : UInt8 :=
  (if flags.checkpoint then 1 else 0) + (if flags.marked then 2 else 0) +
    (if flags.reference then 4 else 0)

/-- `RetentionFlags::from_bits_truncate`. -/
def RetentionFlags.fromBitsTruncate (bits : UInt8) : RetentionFlags :=
  ⟨bits &&& 1 ≠ 0, bits &&& 2 ≠ 0, bits &&& 4 ≠ 0⟩

/-- `PrunableTree`. -/
inductive PrunableTree where
  | nil
  | leaf (value : MerkleHashVote) (flags : RetentionFlags)
  | parent (ann : Option MerkleHashVote) (left right : PrunableTree)
  deriving DecidableEq

/-- `TreeState`. -/
inductive TreeState where
  | empty
  | atPosition (position : U64)
  deriving DecidableEq

/-- `Checkpoint`. -/
structure Checkpoint where
  treeState : TreeState
  marksRemoved : SortedSet U64
  deriving DecidableEq

/-! ## Shards -/

section

variable [FieldRepr]

/-- `SHARD_SER_VERSION`. -/
def shardSerVersion : UInt8 := 1

/-- `NODE_NIL`. -/
def nodeNil : UInt8 := 0

/-- `NODE_LEAF`. -/
def nodeLeaf : UInt8 := 1

/-- `NODE_PARENT`. -/
def nodeParent : UInt8 := 2

/-- The annotation of a parent, behind a byte that says whether there is one. -/
def writeAnn : Option MerkleHashVote → Bytes
  | none => [0]
  | some hash => 1 :: hash.toBytes

/-- `write_node`. -/
def writeNode : PrunableTree → Bytes
  | .parent ann left right => nodeParent :: writeAnn ann ++ writeNode left ++ writeNode right
  | .leaf value flags => nodeLeaf :: value.toBytes ++ [flags.bits]
  | .nil => [nodeNil]

/-- `write_shard_vote`. -/
def writeShardVote (tree : PrunableTree) : Bytes := shardSerVersion :: writeNode tree

/-- One byte. -/
def readByte : Reader UInt8 UInt8
  | [] => none
  | byte :: rest => some (byte, rest)

/-- `read_hash`. -/
def readHash : Reader UInt8 MerkleHashVote := do
  let bytes ← exactly 32
  match MerkleHashVote.fromBytes bytes with
  | some hash => return hash
  | none => refuse

/-- The annotation of a parent. -/
def readAnn : Reader UInt8 (Option MerkleHashVote) := do
  let annFlag ← readByte
  if annFlag = 1 then
    let hash ← readHash
    return some hash
  else return none

/-- `read_node`.  A node takes at least its tag, so the bytes that are left bound the depth
of the recursion. -/
def readNode : Nat → Reader UInt8 PrunableTree
  | 0 => refuse
  | bound + 1 => do
    let tag ← readByte
    if tag = nodeNil then return .nil
    else if tag = nodeLeaf then
      let hash ← readHash
      let flag ← readByte
      return .leaf hash (.fromBitsTruncate flag)
    else if tag = nodeParent then
      let ann ← readAnn
      let left ← readNode bound
      let right ← readNode bound
      return .parent ann left right
    else refuse

/-- `read_shard_vote` on a cursor. -/
def readVersionedNode (bound : Nat) : Reader UInt8 PrunableTree := do
  let version ← readByte
  if version ≠ shardSerVersion then refuse
  else readNode bound

/-- `read_shard_vote`. -/
def readShardVote (data : Bytes) : Option PrunableTree :=
  (readVersionedNode data.length data).map (·.1)

end

/-! ## Checkpoints -/

/-- The tree state of a checkpoint. -/
def writeTreeState : TreeState → Bytes
  | .empty => [0]
  | .atPosition position => 1 :: leBytes 8 position.val

/-- `write_checkpoint`.  The number of marks is cut to 32 bits. -/
def writeCheckpoint (checkpoint : Checkpoint) : Bytes :=
  let marks := checkpoint.marksRemoved.elements
  writeTreeState checkpoint.treeState ++ leBytes 4 marks.length ++
    marks.flatMap fun mark => leBytes 8 mark.val

/-- A `u64` in little-endian bytes. -/
def readU64 : Reader UInt8 U64 := do
  let bytes ← exactly 8
  if h : leValue bytes ≤ u64Max then return ⟨leValue bytes, h⟩ else refuse

/-- The tree state of a checkpoint. -/
def readTreeState : Reader UInt8 TreeState := do
  let flag ← readByte
  if flag = 0 then return .empty
  else
    let position ← readU64
    return .atPosition position

/-- `read_checkpoint` on a cursor. -/
def readCheckpointFields : Reader UInt8 Checkpoint := do
  let treeState ← readTreeState
  let count ← exactly 4
  let marks ← readU64.times (leValue count)
  return ⟨treeState, marks.foldl SortedSet.insert ∅⟩

/-- `read_checkpoint`. -/
def readCheckpoint (data : Bytes) : Option Checkpoint := (readCheckpointFields data).map (·.1)

/-! ## Round trips -/

theorem reads_byte (byte : UInt8) : Reads readByte [byte] byte := fun _ => rfl

@[simp] theorem fromBitsTruncate_bits (flags : RetentionFlags) :
    RetentionFlags.fromBitsTruncate flags.bits = flags := by
  obtain ⟨checkpoint, marked, reference⟩ := flags
  cases checkpoint <;> cases marked <;> cases reference <;> rfl

section

variable [FieldRepr]

@[simp] theorem fromBytes_toBytes (hash : MerkleHashVote) :
    MerkleHashVote.fromBytes hash.toBytes = some hash := FieldRepr.fromRepr_toRepr hash

theorem reads_hash (hash : MerkleHashVote) : Reads readHash hash.toBytes hash := by
  have hlength : hash.toBytes.length = 32 := FieldRepr.length_toRepr hash
  refine (reads_exactly hlength).bind_nil ?_
  rw [fromBytes_toBytes]
  exact Reads.pure hash

theorem reads_ann (ann : Option MerkleHashVote) : Reads readAnn (writeAnn ann) ann := by
  cases ann with
  | none => exact (reads_byte 0).bind (Reads.pure none)
  | some hash => exact (reads_byte 1).bind ((reads_hash hash).bind_nil (Reads.pure _))

/-- The nodes on the longest way down. -/
def PrunableTree.height : PrunableTree → Nat
  | .parent _ left right => max left.height right.height + 1
  | .leaf _ _ => 1
  | .nil => 1

theorem height_le_length (tree : PrunableTree) : tree.height ≤ (writeNode tree).length := by
  induction tree with
  | nil => exact Nat.le_refl 1
  | leaf value flags => simp [PrunableTree.height, writeNode]
  | parent ann left right hleft hright =>
    simp only [PrunableTree.height, writeNode, List.length_append, List.length_cons]
    omega

/-- A node reads back within any bound its height is in. -/
theorem reads_node (tree : PrunableTree) {bound : Nat} (h : tree.height ≤ bound) :
    Reads (readNode bound) (writeNode tree) tree := by
  induction tree generalizing bound with
  | nil =>
    obtain ⟨bound, rfl⟩ := Nat.exists_eq_add_of_le' h
    exact (reads_byte nodeNil).bind (Reads.pure _)
  | leaf value flags =>
    obtain ⟨bound, rfl⟩ := Nat.exists_eq_add_of_le' h
    refine (reads_byte nodeLeaf).bind ((reads_hash value).bind ?_)
    refine (reads_byte flags.bits).bind_nil ?_
    rw [fromBitsTruncate_bits]
    exact Reads.pure _
  | parent ann left right hleft hright =>
    obtain ⟨bound, rfl⟩ := Nat.exists_eq_add_of_le' (Nat.le_of_add_left_le h)
    rw [PrunableTree.height] at h
    have hnode : Reads (readNode (bound + 1))
        ([nodeParent] ++ (writeAnn ann ++ (writeNode left ++ writeNode right)))
        (.parent ann left right) :=
      (reads_byte nodeParent).bind ((reads_ann ann).bind ((hleft (by omega)).bind
        ((hright (by omega)).bind_nil (Reads.pure _))))
    simpa [writeNode] using hnode

theorem reads_versionedNode (tree : PrunableTree) {bound : Nat}
    (h : (writeShardVote tree).length ≤ bound) :
    Reads (readVersionedNode bound) (writeShardVote tree) tree := by
  have hheight : tree.height ≤ bound :=
    (Nat.le_succ_of_le (height_le_length tree)).trans h
  exact (reads_byte shardSerVersion).bind (reads_node tree hheight)

/-- A shard reads back. -/
@[simp] theorem readShardVote_writeShardVote (tree : PrunableTree) :
    readShardVote (writeShardVote tree) = some tree := by
  rw [readShardVote, (reads_versionedNode tree le_rfl).whole]
  rfl

end

theorem reads_u64 (n : U64) : Reads readU64 (leBytes 8 n.val) n := by
  have hvalue : leValue (leBytes 8 n.val) = n := by
    refine leValue_leBytes ?_
    have := n.property
    unfold u64Max at this
    omega
  refine (reads_exactly (length_leBytes 8 _)).bind_nil ?_
  simp only [hvalue, n.property, dif_pos]
  exact Reads.pure n

theorem reads_treeState (treeState : TreeState) :
    Reads readTreeState (writeTreeState treeState) treeState := by
  cases treeState with
  | empty => exact (reads_byte 0).bind (Reads.pure _)
  | atPosition position =>
    exact (reads_byte 1).bind ((reads_u64 position).bind_nil (Reads.pure _))

/-- The marks of the checkpoint can be counted in a `u32`. -/
def Checkpoint.Countable (checkpoint : Checkpoint) : Prop :=
  checkpoint.marksRemoved.elements.length ≤ u32Max

theorem reads_checkpointFields {checkpoint : Checkpoint} (h : checkpoint.Countable) :
    Reads readCheckpointFields (writeCheckpoint checkpoint) checkpoint := by
  obtain ⟨treeState, marksRemoved⟩ := checkpoint
  have hcount : leValue (leBytes 4 marksRemoved.elements.length) = marksRemoved.elements.length := by
    refine leValue_leBytes ?_
    have hle : marksRemoved.elements.length ≤ u32Max := h
    unfold u32Max at hle
    omega
  have hmarks : Reads (readU64.times (leValue (leBytes 4 marksRemoved.elements.length)))
      (marksRemoved.elements.flatMap fun mark => leBytes 8 mark.val) marksRemoved.elements := by
    rw [hcount]
    exact Reads.times _ fun mark _ => reads_u64 mark
  rw [writeCheckpoint, List.append_assoc]
  refine (reads_treeState treeState).bind
    ((reads_exactly (length_leBytes 4 _)).bind (hmarks.bind_nil ?_))
  rw [SortedSet.foldl_insert_elements]
  exact Reads.pure _

/-- A checkpoint with countable marks reads back. -/
theorem readCheckpoint_writeCheckpoint {checkpoint : Checkpoint} (h : checkpoint.Countable) :
    readCheckpoint (writeCheckpoint checkpoint) = some checkpoint := by
  rw [readCheckpoint, (reads_checkpointFields h).whole]
  rfl

/-! ## Truncated blobs -/

theorem incremental_byte : Incremental readByte := by
  intro input byte rest h more
  cases input with
  | nil => cases h
  | cons first input =>
    cases h
    rfl

section

variable [FieldRepr]

theorem incremental_hash : Incremental readHash := by
  refine (Incremental.exactly 32).bind fun bytes => ?_
  split
  · exact .pure _
  · exact .refuse

theorem incremental_ann : Incremental readAnn := by
  refine incremental_byte.bind fun annFlag => ?_
  split
  · exact incremental_hash.bind fun _ => .pure _
  · exact .pure _

theorem incremental_node (bound : Nat) : Incremental (readNode bound) := by
  induction bound with
  | zero => exact .refuse
  | succ bound ih =>
    refine incremental_byte.bind fun tag => ?_
    split
    · exact .pure _
    split
    · exact incremental_hash.bind fun _ => incremental_byte.bind fun _ => .pure _
    split
    · exact incremental_ann.bind fun _ => ih.bind fun _ => ih.bind fun _ => .pure _
    · exact .refuse

theorem incremental_versionedNode (bound : Nat) : Incremental (readVersionedNode bound) := by
  refine incremental_byte.bind fun version => ?_
  split
  · exact .refuse
  · exact incremental_node bound

/-- A larger bound reads more. -/
theorem readNode_within {bound bound' : Nat} (h : bound ≤ bound') :
    Within (readNode bound) (readNode bound') := by
  induction bound generalizing bound' with
  | zero => exact .refuse _
  | succ bound ih =>
    obtain ⟨bound', rfl⟩ := Nat.exists_eq_add_of_le' (Nat.le_of_add_left_le h)
    have ih := ih (Nat.le_of_succ_le_succ h)
    refine (Within.refl _).bind fun tag => ?_
    split
    · exact .refl _
    split
    · exact .refl _
    split
    · exact (Within.refl _).bind fun _ => ih.bind fun _ => ih.bind fun _ => .refl _
    · exact .refl _

theorem readVersionedNode_within {bound bound' : Nat} (h : bound ≤ bound') :
    Within (readVersionedNode bound) (readVersionedNode bound') := by
  refine (Within.refl _).bind fun version => ?_
  split
  · exact .refl _
  · exact readNode_within h

/-- A shard blob that lacks its end is refused. -/
theorem readShardVote_truncated {tree : PrunableTree} {part missing : Bytes}
    (h : part ++ missing = writeShardVote tree) (hmissing : missing ≠ []) :
    readShardVote part = none := by
  have hbound : part.length ≤ (writeShardVote tree).length := by
    rw [← h, List.length_append]
    omega
  have hnone := (incremental_versionedNode _).eq_none (reads_versionedNode tree le_rfl) h hmissing
  rw [readShardVote, Option.map_eq_none_iff, Option.eq_none_iff_forall_ne_some]
  intro result hresult
  rw [readVersionedNode_within hbound _ _ hresult] at hnone
  cases hnone

end

theorem incremental_u64 : Incremental readU64 := by
  refine (Incremental.exactly 8).bind fun bytes => ?_
  split
  · exact .pure _
  · exact .refuse

theorem incremental_treeState : Incremental readTreeState := by
  refine incremental_byte.bind fun flag => ?_
  split
  · exact .pure _
  · exact incremental_u64.bind fun _ => .pure _

theorem incremental_checkpointFields : Incremental readCheckpointFields :=
  incremental_treeState.bind fun _ => (Incremental.exactly 4).bind fun _ =>
    (incremental_u64.times _).bind fun _ => .pure _

/-- A checkpoint blob that lacks its end is refused. -/
theorem readCheckpoint_truncated {checkpoint : Checkpoint} (hcountable : checkpoint.Countable)
    {part missing : Bytes} (h : part ++ missing = writeCheckpoint checkpoint)
    (hmissing : missing ≠ []) : readCheckpoint part = none := by
  rw [readCheckpoint,
    incremental_checkpointFields.eq_none (reads_checkpointFields hcountable) h hmissing]
  rfl

/-- Shards and checkpoints read back.  Of two different values neither blob is the front of
the other, and a blob that lacks its end is refused. -/
theorem blobs_read_back [FieldRepr] :
    (∀ tree, readShardVote (writeShardVote tree) = some tree) ∧
    (∀ tree tree', writeShardVote tree <+: writeShardVote tree' → tree = tree') ∧
    (∀ tree part, part <+: writeShardVote tree → part ≠ writeShardVote tree →
      readShardVote part = none) ∧
    (∀ checkpoint : Checkpoint, checkpoint.Countable →
      readCheckpoint (writeCheckpoint checkpoint) = some checkpoint) ∧
    (∀ checkpoint checkpoint' : Checkpoint, checkpoint.Countable → checkpoint'.Countable →
      writeCheckpoint checkpoint <+: writeCheckpoint checkpoint' → checkpoint = checkpoint') ∧
    ∀ (checkpoint : Checkpoint) part, checkpoint.Countable → part <+: writeCheckpoint checkpoint →
      part ≠ writeCheckpoint checkpoint → readCheckpoint part = none := by
  refine ⟨readShardVote_writeShardVote, ?_, ?_, fun _ => readCheckpoint_writeCheckpoint, ?_, ?_⟩
  · rintro tree tree' ⟨rest, hrest⟩
    have hbound : (writeShardVote tree).length ≤ (writeShardVote tree').length := by
      rw [← hrest, List.length_append]
      omega
    exact ((reads_versionedNode tree hbound).unique (reads_versionedNode tree' le_rfl) hrest).1
  · rintro tree part ⟨missing, hsplit⟩ hne
    refine readShardVote_truncated hsplit fun hnil => hne ?_
    rwa [hnil, List.append_nil] at hsplit
  · rintro checkpoint checkpoint' hcountable hcountable' ⟨rest, hrest⟩
    exact ((reads_checkpointFields hcountable).unique (reads_checkpointFields hcountable') hrest).1
  · rintro checkpoint part hcountable ⟨missing, hsplit⟩ hne
    refine readCheckpoint_truncated hcountable hsplit fun hnil => hne ?_
    rwa [hnil, List.append_nil] at hsplit

/-- The little-endian bytes of the canonical representative. -/
@[reducible] def littleEndian : FieldRepr where
  toRepr hash := leBytes 32 hash.value
  fromRepr bytes := if h : leValue bytes < pallasModulus then some ⟨leValue bytes, h⟩ else none
  length_toRepr _ := length_leBytes 32 _
  fromRepr_toRepr hash := by
    have hvalue : leValue (leBytes 32 hash.value) = hash.value :=
      leValue_leBytes (lt_trans hash.canonical (by decide))
    simp [hvalue, hash.canonical]

/-- A marked leaf beside an empty subtree reads back, and not without its last byte. -/
theorem blobs_read_back_leaf :
    letI := littleEndian
    let tree : PrunableTree := .parent none (.leaf ⟨7, by decide⟩ ⟨false, true, false⟩) .nil
    readShardVote (writeShardVote tree) = some tree ∧
      readShardVote (writeShardVote tree).dropLast = none := by
  let _ := littleEndian
  exact ⟨blobs_read_back.1 _,
    blobs_read_back.2.2.1 _ _ (List.dropLast_prefix _) (by decide)⟩

end ZcashVoting.VoteCommitmentTree
