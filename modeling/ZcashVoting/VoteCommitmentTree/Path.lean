import ZcashVoting.VoteCommitmentTree.ShardTree

/-!
# ZcashVoting.VoteCommitmentTree.Path

Authentication paths bind their leaf: two paths at one position that verify against one root
have the same leaf and the same siblings.  The path of the siblings of a position verifies the
leaf there, and the precomputed empty roots are those of trees of empty leaves.
-/

namespace ZcashVoting.VoteCommitmentTree

variable (hash : VoteHash)

/-! ## Empty subtrees -/

/-- The `scan` of `EMPTY_ROOTS`: from the root of an empty subtree those above it. -/
def VoteHash.scanEmptyRoots (emptyRoot : MerkleHashVote) : List Nat → List MerkleHashVote
  | [] => []
  | level :: levels =>
    let next := hash.hasher.combine level emptyRoot emptyRoot
    next :: scanEmptyRoots next levels

/-- `EMPTY_ROOTS`. -/
def VoteHash.emptyRoots : List MerkleHashVote :=
  hash.hasher.emptyLeaf :: hash.scanEmptyRoots hash.hasher.emptyLeaf (List.range treeDepth)

theorem getElem?_scanEmptyRoots (count start i : Nat) (h : i < count) :
    (hash.scanEmptyRoots (Merkle.emptyRoot hash.hasher start) (List.range' start count))[i]? =
      some (Merkle.emptyRoot hash.hasher (start + i + 1)) := by
  induction count generalizing start i with
  | zero => omega
  | succ count ih =>
    rw [List.range'_succ, VoteHash.scanEmptyRoots]
    cases i with
    | zero => rfl
    | succ i =>
      have hrest := ih (start + 1) i (by omega)
      rw [List.getElem?_cons_succ, Nat.add_comm i 1, ← Nat.add_assoc]
      exact hrest

/-- The leaves filled up with empty ones. -/
def VoteHash.padded (leaves : List MerkleHashVote) : List MerkleHashVote :=
  leaves ++ List.replicate (treeCapacity - leaves.length) hash.hasher.emptyLeaf

/-- `EMPTY_ROOTS` holds the roots of trees of empty leaves. -/
theorem getElem?_emptyRoots {level : Nat} (h : level ≤ treeDepth) :
    hash.emptyRoots[level]? =
      some (Merkle.root hash.hasher level (List.replicate (2 ^ level) hash.hasher.emptyLeaf)) := by
  have hroot := Merkle.root_append_replicate hash.hasher level (2 ^ level) []
  rw [List.nil_append, Merkle.root_nil] at hroot
  rw [hroot, VoteHash.emptyRoots]
  cases level with
  | zero => rfl
  | succ level =>
    have hscan := getElem?_scanEmptyRoots hash treeDepth 0 level h
    rw [Nat.zero_add] at hscan
    rw [List.getElem?_cons_succ, List.range_eq_range']
    exact hscan

/-! ## Paths -/

/-- The path has a sibling for every level, as the array `auth_path` has. -/
def MerklePath.Full (path : MerklePath) : Prop := path.authPath.length = treeDepth

/-- The pairs that `MerklePath::root` hashes. -/
def MerklePath.hashed (path : MerklePath) (leaf : MerkleHashVote) :
    List (MerkleHashVote × MerkleHashVote) :=
  (Merkle.hashed hash.hasher path.position 0 leaf path.authPath).map (·.2)

/-- No pair of the one list collides with a different one of the other. -/
def VoteHash.CollisionFree (pairs pairs' : List (MerkleHashVote × MerkleHashVote)) : Prop :=
  ∀ pair ∈ pairs, ∀ pair' ∈ pairs',
    hash.poseidonHash pair.1 pair.2 = hash.poseidonHash pair'.1 pair'.2 → pair = pair'

/-- Paths that verify against one root at positions with the same low bits have the same leaf
and the same siblings. -/
theorem MerklePath.eq_of_verify {path path' : MerklePath} {leaf leaf' root : MerkleHashVote}
    (hfull : path.Full) (hfull' : path'.Full)
    (hposition : path.position % 2 ^ treeDepth = path'.position % 2 ^ treeDepth)
    (hfree : hash.CollisionFree (path.hashed hash leaf) (path'.hashed hash leaf'))
    (hverify : path.verify hash leaf root = true) (hverify' : path'.verify hash leaf' root = true) :
    leaf = leaf' ∧ path.authPath = path'.authPath := by
  rw [MerklePath.verify, decide_eq_true_eq] at hverify hverify'
  refine Merkle.climb_injective hash.hasher (hfull.trans hfull'.symm) ?_ ?_
    (hverify.trans hverify'.symm)
  · intro l hl
    rw [hfull, Nat.zero_add] at hl
    have hbit := congrArg (Nat.testBit · l) hposition
    simpa [Nat.testBit_mod_two_pow, hl] using hbit
  · intro l pair pair' hpair hpair'
    exact hfree pair (List.mem_map_of_mem hpair) pair' (List.mem_map_of_mem hpair')

/-- The siblings of a position of the tree lead from its leaf to the root. -/
theorem verify_siblings {leaves : List MerkleHashVote} {position : Nat} {leaf : MerkleHashVote}
    (hposition : position < treeCapacity) (hleaf : leaves[position]? = some leaf) :
    (MerklePath.mk position (Merkle.siblings hash.hasher treeDepth leaves position)).verify hash leaf
      (hash.treeRoot leaves) = true := by
  rw [MerklePath.verify, decide_eq_true_eq]
  exact Merkle.climb_siblings hash.hasher hposition hleaf

theorem getElem?_padded {leaves : List MerkleHashVote} {position : Nat}
    (hfits : leaves.length ≤ treeCapacity) (hposition : position < treeCapacity) :
    (hash.padded leaves)[position]? = some (leaves.getD position hash.hasher.emptyLeaf) := by
  rw [VoteHash.padded, List.getD_eq_getElem?_getD]
  by_cases hmem : position < leaves.length
  · rw [List.getElem?_append_left hmem, List.getElem?_eq_getElem hmem, Option.getD_some]
  · rw [List.getElem?_append_right (by omega), List.getElem?_replicate_of_lt (by omega),
      List.getElem?_eq_none (by omega), Option.getD_none]

/-- Paths bind.  A hash of two field elements to one is not injective as a whole; what binds is
that no two of the pairs that the two paths hash collide.  The path of the siblings of a
position of the padded tree verifies the leaf there, and a tree without the padding has the
same root and siblings. -/
theorem merkle_path_binding (hash : VoteHash) :
    (∀ (root : MerkleHashVote) (path path' : MerklePath) (leaf leaf' : MerkleHashVote),
      path.Full → path'.Full →
      path.position % 2 ^ treeDepth = path'.position % 2 ^ treeDepth →
      hash.CollisionFree (path.hashed hash leaf) (path'.hashed hash leaf') →
      path.verify hash leaf root = true → path'.verify hash leaf' root = true →
        leaf = leaf' ∧ path.authPath = path'.authPath) ∧
    (∀ leaves : List MerkleHashVote, leaves.length ≤ treeCapacity → ∀ position < treeCapacity,
      (hash.padded leaves)[position]? = some (leaves.getD position hash.hasher.emptyLeaf) ∧
      (MerklePath.mk position
          (Merkle.siblings hash.hasher treeDepth (hash.padded leaves) position)).verify hash
        (leaves.getD position hash.hasher.emptyLeaf) (hash.treeRoot (hash.padded leaves)) = true ∧
      hash.treeRoot (hash.padded leaves) = hash.treeRoot leaves ∧
      Merkle.siblings hash.hasher treeDepth (hash.padded leaves) position =
        Merkle.siblings hash.hasher treeDepth leaves position) ∧
    ∀ level ≤ treeDepth, hash.emptyRoots[level]? =
      some (Merkle.root hash.hasher level (List.replicate (2 ^ level) hash.hasher.emptyLeaf)) := by
  refine ⟨?_, ?_, fun level hlevel => getElem?_emptyRoots hash hlevel⟩
  · intro root path path' leaf leaf' hfull hfull' hposition hfree hverify hverify'
    exact MerklePath.eq_of_verify hash hfull hfull' hposition hfree hverify hverify'
  · intro leaves hfits position hposition
    have hleaf := getElem?_padded hash hfits hposition
    exact ⟨hleaf, verify_siblings hash hposition hleaf,
      Merkle.root_append_replicate hash.hasher treeDepth _ leaves,
      Merkle.siblings_append_replicate hash.hasher treeDepth _ leaves position⟩

/-- A hash that tells the pairs on a left spine apart. -/
def countingHash : VoteHash :=
  ⟨fun left right => ⟨(left.value + 2 * right.value + 1) % pallasModulus,
    Nat.mod_lt _ (by decide)⟩⟩

/-- The path at a position with empty siblings. -/
def zeroPath (position : Nat) : MerklePath := ⟨position, List.replicate treeDepth .zero⟩

/-- Two paths at positions that agree in their low bits verify a leaf against one root, and the
pairs that they hash do not collide. -/
theorem merkle_path_binding_low_bits :
    (zeroPath 0).verify countingHash ⟨7, by decide⟩ ⟨31, by decide⟩ = true ∧
    (zeroPath (2 ^ 24)).verify countingHash ⟨7, by decide⟩ ⟨31, by decide⟩ = true ∧
    countingHash.CollisionFree ((zeroPath 0).hashed countingHash ⟨7, by decide⟩)
      ((zeroPath (2 ^ 24)).hashed countingHash ⟨7, by decide⟩) ∧
    (zeroPath 0).authPath = (zeroPath (2 ^ 24)).authPath := by
  have hverify : (zeroPath 0).verify countingHash ⟨7, by decide⟩ ⟨31, by decide⟩ = true := by
    decide +kernel
  have hverify' : (zeroPath (2 ^ 24)).verify countingHash ⟨7, by decide⟩ ⟨31, by decide⟩ = true := by
    decide +kernel
  have hfree : countingHash.CollisionFree ((zeroPath 0).hashed countingHash ⟨7, by decide⟩)
      ((zeroPath (2 ^ 24)).hashed countingHash ⟨7, by decide⟩) := by
    unfold VoteHash.CollisionFree
    decide +kernel
  have hfull : ∀ position, (zeroPath position).Full := fun _ => List.length_replicate
  exact ⟨hverify, hverify', hfree, ((merkle_path_binding countingHash).1 _ _ _ _ _
    (hfull 0) (hfull (2 ^ 24)) (by decide) hfree hverify hverify').2⟩

end ZcashVoting.VoteCommitmentTree
