import Mathlib.Data.List.Nodup
import ZcashVoting.Lib.Merkle
import ZcashVoting.VoteCommitmentTree.Serde

/-!
# ZcashVoting.VoteCommitmentTree.ShardTree

The tree that a client keeps, as the `shardtree` crate documents it: leaves are appended,
checkpoints name a number of leaves, and roots and witnesses are those of the leaves below a
checkpoint.  The tree of all leaves keeps this contract.
-/

namespace ZcashVoting.VoteCommitmentTree

/-! ## Roots and paths -/

/-- `TREE_DEPTH`. -/
def treeDepth : Nat := 24

/-- `MAX_CHECKPOINTS`. -/
def maxCheckpoints : Nat := 1000

/-- `Fp::zero`. -/
def MerkleHashVote.zero : MerkleHashVote := ⟨0, by decide⟩

/-- The hash of the tree: Poseidon on two field elements. -/
structure VoteHash where
  poseidonHash : MerkleHashVote → MerkleHashVote → MerkleHashVote

namespace VoteHash

/-- `impl Hashable for MerkleHashVote`.  The level does not enter the hash. -/
def hasher (hash : VoteHash) : Merkle.Hasher MerkleHashVote where
  emptyLeaf := hash.poseidonHash .zero .zero
  combine _ left right := hash.poseidonHash left right

/-- The root over leaves. -/
def treeRoot (hash : VoteHash) (leaves : List MerkleHashVote) : MerkleHashVote :=
  Merkle.root hash.hasher treeDepth leaves

/-- `MerkleHashVote::empty_root` at the depth of the tree. -/
def emptyTreeRoot (hash : VoteHash) : MerkleHashVote := Merkle.emptyRoot hash.hasher treeDepth

theorem treeRoot_nil (hash : VoteHash) : hash.treeRoot [] = hash.emptyTreeRoot :=
  Merkle.root_nil hash.hasher treeDepth

end VoteHash

/-- `MerklePath`. -/
structure MerklePath where
  position : Nat
  authPath : List MerkleHashVote
  deriving DecidableEq

/-- `MerklePath::root`. -/
def MerklePath.root (hash : VoteHash) (path : MerklePath) (leaf : MerkleHashVote) :
    MerkleHashVote :=
  Merkle.climb hash.hasher path.position 0 leaf path.authPath

/-- `MerklePath::verify`. -/
def MerklePath.verify (hash : VoteHash) (path : MerklePath) (leaf root : MerkleHashVote) : Bool :=
  path.root hash leaf = root

/-! ## The contract -/

/-- `Retention`, as far as the client uses it. -/
inductive Retention where
  | ephemeral
  | marked
  deriving DecidableEq

/-- `ShardTreeError`, by what the client tells apart. -/
inductive ShardTreeError where
  | treeFull
  | other
  deriving DecidableEq

/-- The operations of `ShardTree` on trees `τ` that the client uses. -/
structure ShardTree (τ : Type) where
  /-- `ShardTree::new` on an empty store. -/
  empty : τ
  append : τ → MerkleHashVote → Retention → Except ShardTreeError Unit × τ
  /-- `checkpoint`: whether the checkpoint was added. -/
  checkpoint : τ → U32 → Except ShardTreeError Bool × τ
  /-- `root_at_checkpoint_id(..).ok().flatten()`. -/
  rootAtCheckpointId : τ → U32 → Option MerkleHashVote
  /-- `witness_at_checkpoint_id(..).ok().flatten()`. -/
  witnessAtCheckpointId : τ → Nat → U32 → Option MerklePath

/-- What a tree stands for: its leaves, and its checkpoints, the oldest first, each with the
number of leaves below it. -/
structure TreeView where
  leaves : List MerkleHashVote := []
  checkpoints : List (U32 × Nat) := []
  deriving DecidableEq

namespace TreeView

/-- The view with one more leaf. -/
def push (view : TreeView) (leaf : MerkleHashVote) : TreeView :=
  { view with leaves := view.leaves ++ [leaf] }

/-- The view with a checkpoint at all leaves.  The oldest checkpoints give way. -/
def mark (view : TreeView) (checkpointId : U32) : TreeView :=
  let checkpoints := view.checkpoints ++ [(checkpointId, view.leaves.length)]
  { view with checkpoints := checkpoints.drop (checkpoints.length - maxCheckpoints) }

theorem checkpoints_mark (view : TreeView) (checkpointId : U32) :
    (view.mark checkpointId).checkpoints =
      (view.checkpoints ++ [(checkpointId, view.leaves.length)]).drop
        ((view.checkpoints ++ [(checkpointId, view.leaves.length)]).length - maxCheckpoints) := by
  rw [mark]

theorem mem_mark {view : TreeView} {checkpointId : U32} {checkpoint : U32 × Nat}
    (h : checkpoint ∈ (view.mark checkpointId).checkpoints) :
    checkpoint ∈ view.checkpoints ∨ checkpoint = (checkpointId, view.leaves.length) := by
  rw [checkpoints_mark] at h
  have hmem := List.mem_of_mem_drop h
  rwa [List.mem_append, List.mem_singleton] at hmem

/-- A checkpoint above all others keeps them ascending. -/
theorem pairwise_mark {view : TreeView} {checkpointId : U32}
    (hascending : view.checkpoints.Pairwise (·.1 < ·.1))
    (habove : ∀ checkpoint ∈ view.checkpoints, checkpoint.1 < checkpointId) :
    (view.mark checkpointId).checkpoints.Pairwise (·.1 < ·.1) := by
  rw [checkpoints_mark]
  refine List.Pairwise.drop (List.pairwise_append.mpr ⟨hascending, List.pairwise_singleton _ _, ?_⟩)
  intro checkpoint hmem newest hnewest
  rw [List.mem_singleton.mp hnewest]
  exact habove checkpoint hmem

theorem getLast?_mark (view : TreeView) (checkpointId : U32) :
    (view.mark checkpointId).checkpoints.getLast? = some (checkpointId, view.leaves.length) := by
  have hlong : (view.checkpoints ++ [(checkpointId, view.leaves.length)]).length - maxCheckpoints ≤
      view.checkpoints.length := by
    rw [List.length_append, List.length_singleton, maxCheckpoints]
    omega
  rw [checkpoints_mark, List.drop_append_of_le_length hlong, List.getLast?_concat]

/-- The leaves below a checkpoint. -/
def leavesAt (view : TreeView) (checkpointId : U32) : Option (List MerkleHashVote) :=
  (view.checkpoints.find? (·.1 = checkpointId)).map fun checkpoint => view.leaves.take checkpoint.2

/-- No checkpoint is above the newest one. -/
theorem le_newest {view : TreeView} (hascending : view.checkpoints.Pairwise (·.1 < ·.1))
    {checkpoint : U32 × Nat} (hmem : checkpoint ∈ view.checkpoints) :
    ∃ newest, view.checkpoints.getLast? = some newest ∧ checkpoint.1 ≤ newest.1 := by
  rcases List.eq_nil_or_concat' view.checkpoints with hnil | ⟨older, newest, hsplit⟩
  · rw [hnil] at hmem
    cases hmem
  rw [hsplit] at hmem hascending ⊢
  refine ⟨newest, List.getLast?_concat .., ?_⟩
  rcases List.mem_append.mp hmem with holder | hlast
  · exact le_of_lt ((List.pairwise_append.mp hascending).2.2 _ holder _ (List.mem_singleton_self _))
  · rw [List.mem_singleton.mp hlast]

/-- All leaves are below the newest checkpoint when it counts all of them. -/
theorem leavesAt_newest {view : TreeView} (hascending : view.checkpoints.Pairwise (·.1 < ·.1))
    {height : U32} (hnewest : view.checkpoints.getLast? = some (height, view.leaves.length)) :
    view.leavesAt height = some view.leaves := by
  have hmem := List.mem_of_getLast? hnewest
  -- the heights are distinct, so the newest checkpoint is the one that is found
  have hdistinct : (view.checkpoints.map Prod.fst).Nodup :=
    List.pairwise_map.mpr (hascending.imp ne_of_lt)
  have hsome : (view.checkpoints.find? (·.1 = height)).isSome :=
    List.find?_isSome.mpr ⟨_, hmem, by simp⟩
  obtain ⟨found, hfound⟩ := Option.isSome_iff_exists.mp hsome
  have hheight : found.1 = height := by simpa using List.find?_some hfound
  obtain rfl : found = (height, view.leaves.length) :=
    List.inj_on_of_nodup_map hdistinct (List.mem_of_find?_eq_some hfound) hmem hheight
  rw [leavesAt, hfound, Option.map_some, List.take_length]

end TreeView

/-- The documented behaviour of `ShardTree`, by what its trees stand for. -/
structure ShardTree.Lawful {τ : Type} (tree : ShardTree τ) (hash : VoteHash) (view : τ → TreeView) :
    Prop where
  view_empty : view tree.empty = {}
  append : ∀ t leaf retention, (view t).leaves.length < treeCapacity →
    (tree.append t leaf retention).1 = .ok () ∧
      view (tree.append t leaf retention).2 = (view t).push leaf
  /-- A checkpoint above all others is added. -/
  checkpoint : ∀ t checkpointId, (∀ other ∈ (view t).checkpoints, other.1 < checkpointId) →
    (tree.checkpoint t checkpointId).1 = .ok true ∧
      view (tree.checkpoint t checkpointId).2 = (view t).mark checkpointId
  root : ∀ t checkpointId,
    tree.rootAtCheckpointId t checkpointId = ((view t).leavesAt checkpointId).map hash.treeRoot
  /-- A witness leads from the leaf to the root at the checkpoint. -/
  witness : ∀ t position checkpointId path,
    tree.witnessAtCheckpointId t position checkpointId = some path →
      ∃ leaves leaf, (view t).leavesAt checkpointId = some leaves ∧
        leaves[position]? = some leaf ∧ path.root hash leaf = hash.treeRoot leaves

/-! ## All leaves -/

/-- A tree that keeps all its leaves, and the positions that were marked. -/
structure ListTree where
  view : TreeView := {}
  marked : List Nat := []
  deriving DecidableEq

/-- The tree of all leaves as a `ShardTree`.  It has witnesses for marked positions. -/
def listTree (hash : VoteHash) : ShardTree ListTree where
  empty := {}
  append t leaf retention :=
    if t.view.leaves.length < treeCapacity then
      (.ok (), { view := t.view.push leaf
                 marked := if retention = .marked then t.view.leaves.length :: t.marked
                   else t.marked })
    else (.error .treeFull, t)
  checkpoint t checkpointId :=
    if t.view.checkpoints.all (·.1 < checkpointId) then
      (.ok true, { t with view := t.view.mark checkpointId })
    else (.ok false, t)
  rootAtCheckpointId t checkpointId := (t.view.leavesAt checkpointId).map hash.treeRoot
  witnessAtCheckpointId t position checkpointId :=
    (t.view.leavesAt checkpointId).bind fun leaves =>
      if position ∈ t.marked ∧ position < leaves.length ∧ position < treeCapacity then
        some ⟨position, Merkle.siblings hash.hasher treeDepth leaves position⟩
      else none

theorem listTree_lawful (hash : VoteHash) : (listTree hash).Lawful hash ListTree.view where
  view_empty := rfl
  append t leaf retention h := by simp [listTree, h]
  checkpoint t checkpointId h := by
    have hall : t.view.checkpoints.all (·.1 < checkpointId) = true := by simpa using h
    rw [listTree]
    dsimp only
    rw [if_pos hall]
    exact ⟨rfl, rfl⟩
  root _ _ := rfl
  witness t position checkpointId path h := by
    obtain ⟨leaves, hleaves, hpath⟩ := Option.bind_eq_some_iff.mp h
    split at hpath
    · next hposition =>
      obtain ⟨-, hlength, hcapacity⟩ := hposition
      cases hpath
      refine ⟨leaves, leaves[position], hleaves, List.getElem?_eq_getElem hlength, ?_⟩
      exact Merkle.climb_siblings _ hcapacity (List.getElem?_eq_getElem hlength)
    · cases hpath

end ZcashVoting.VoteCommitmentTree
