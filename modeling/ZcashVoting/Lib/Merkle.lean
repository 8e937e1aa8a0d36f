import Mathlib.Data.Nat.Bitwise

/-!
# Lib.Merkle

Binary hash trees of a fixed height over a list of leaves, filled up with empty leaves.  The
siblings on the way from a leaf to the root lead from the leaf back to the root.  Two climbs
to one root start at one leaf and pass the same siblings, unless they hash different pairs to
the same node.
-/

namespace Merkle

/-- The hash of an empty leaf, and of two nodes at a level. -/
structure Hasher (α : Type) where
  emptyLeaf : α
  combine : Nat → α → α → α

variable {α : Type} (H : Hasher α)

/-- The root of an empty tree of the height. -/
def emptyRoot : Nat → α
  | 0 => H.emptyLeaf
  | level + 1 => H.combine level (emptyRoot level) (emptyRoot level)

/-- The root of the tree of the height over the leaves. -/
def root : Nat → List α → α
  | 0, leaves => leaves.headD H.emptyLeaf
  | level + 1, leaves =>
    H.combine level (root level (leaves.take (2 ^ level))) (root level (leaves.drop (2 ^ level)))

theorem root_nil (level : Nat) : root H level [] = emptyRoot H level := by
  induction level with
  | zero => rfl
  | succ level ih => rw [root, emptyRoot, List.take_nil, List.drop_nil, ih]

/-- The siblings of the nodes between a leaf and the root, from the leaf up. -/
def siblings : Nat → List α → Nat → List α
  | 0, _, _ => []
  | level + 1, leaves, position =>
    if position < 2 ^ level then
      siblings level (leaves.take (2 ^ level)) position ++ [root H level (leaves.drop (2 ^ level))]
    else
      siblings level (leaves.drop (2 ^ level)) (position - 2 ^ level) ++
        [root H level (leaves.take (2 ^ level))]

/-- Climb from a node at the level, beside the siblings. -/
def climb (position : Nat) : Nat → α → List α → α
  | _, node, [] => node
  | level, node, sibling :: above =>
    climb position (level + 1)
      (if position.testBit level then H.combine level sibling node
        else H.combine level node sibling) above

theorem length_siblings (level : Nat) (leaves : List α) (position : Nat) :
    (siblings H level leaves position).length = level := by
  induction level generalizing leaves position with
  | zero => rfl
  | succ level ih =>
    rw [siblings]
    split <;> rw [List.length_append, ih, List.length_singleton]

theorem climb_append (position level : Nat) (node : α) (below above : List α) :
    climb H position level node (below ++ above) =
      climb H position (level + below.length) (climb H position level node below) above := by
  induction below generalizing level node with
  | nil => rfl
  | cons sibling below ih =>
    rw [List.cons_append, climb, ih, climb, List.length_cons]
    congr 1
    omega

/-- Only the bits of the position at the levels passed matter. -/
theorem climb_congr {position position' level : Nat} {node : α} {above : List α}
    (h : ∀ l < level + above.length, position.testBit l = position'.testBit l) :
    climb H position level node above = climb H position' level node above := by
  induction above generalizing level node with
  | nil => rfl
  | cons sibling above ih =>
    have hlevel : position.testBit level = position'.testBit level := h level (by simp)
    rw [climb, climb, hlevel]
    refine ih fun l hl => h l ?_
    rw [List.length_cons]
    omega

/-- The siblings of a leaf lead from it to the root. -/
theorem climb_siblings {level position : Nat} {leaves : List α} {leaf : α}
    (hposition : position < 2 ^ level) (hleaf : leaves[position]? = some leaf) :
    climb H position 0 leaf (siblings H level leaves position) = root H level leaves := by
  induction level generalizing leaves position with
  | zero =>
    obtain rfl : position = 0 := by simpa using hposition
    cases leaves with
    | nil => simp at hleaf
    | cons first leaves => simpa [siblings, climb, root] using hleaf.symm
  | succ level ih =>
    rw [siblings, root]
    split
    · next hleft =>
      have hbit : position.testBit level = false := Nat.testBit_lt_two_pow hleft
      rw [climb_append, length_siblings, Nat.zero_add, ih hleft
        (by rwa [List.getElem?_take_of_lt hleft])]
      simp [climb, hbit]
    · next hright =>
      have hle : 2 ^ level ≤ position := Nat.le_of_not_lt hright
      have hlt : position - 2 ^ level < 2 ^ level := by
        rw [Nat.pow_succ] at hposition
        omega
      have hbit : position.testBit level = true := by
        rw [show position = 2 ^ level + (position - 2 ^ level) by omega,
          Nat.testBit_two_pow_add_eq, Nat.testBit_lt_two_pow hlt]
        rfl
      -- below this level the two positions have the same bits
      have hbelow : climb H position 0 leaf
          (siblings H level (leaves.drop (2 ^ level)) (position - 2 ^ level)) =
            root H level (leaves.drop (2 ^ level)) := by
        rw [← ih hlt (by rwa [List.getElem?_drop, Nat.add_sub_cancel' hle])]
        refine climb_congr H fun l hl => ?_
        rw [length_siblings, Nat.zero_add] at hl
        conv_lhs => rw [show position = 2 ^ level + (position - 2 ^ level) by omega]
        exact Nat.testBit_two_pow_add_gt hl _
      rw [climb_append, length_siblings, Nat.zero_add, hbelow]
      simp [climb, hbit]

/-! ## Empty leaves -/

/-- Empty leaves behind the others change no root. -/
theorem root_append_replicate (level n : Nat) (leaves : List α) :
    root H level (leaves ++ List.replicate n H.emptyLeaf) = root H level leaves := by
  induction level generalizing leaves n with
  | zero =>
    cases leaves with
    | nil => cases n <;> rfl
    | cons leaf leaves => rfl
  | succ level ih =>
    rw [root, root, List.take_append, List.drop_append, List.take_replicate, List.drop_replicate,
      ih, ih]

theorem siblings_append_replicate (level n : Nat) (leaves : List α) (position : Nat) :
    siblings H level (leaves ++ List.replicate n H.emptyLeaf) position =
      siblings H level leaves position := by
  induction level generalizing leaves n position with
  | zero => rfl
  | succ level ih =>
    rw [siblings, siblings, List.take_append, List.drop_append, List.take_replicate,
      List.drop_replicate, ih, ih, root_append_replicate, root_append_replicate]

/-! ## Binding -/

/-- The pairs that a climb hashes, with their levels. -/
def hashed (position : Nat) : Nat → α → List α → List (Nat × α × α)
  | _, _, [] => []
  | level, node, sibling :: above =>
    (level, if position.testBit level then (sibling, node) else (node, sibling)) ::
      hashed position (level + 1)
        (if position.testBit level then H.combine level sibling node
          else H.combine level node sibling) above

/-- Two climbs of one length to one root, with the same turns, start at the same node and pass
the same siblings, as long as no two pairs they hash collide. -/
theorem climb_injective {position position' level : Nat} {node node' : α} {above above' : List α}
    (hlength : above.length = above'.length)
    (hturns : ∀ l < level + above.length, position.testBit l = position'.testBit l)
    (hfree : ∀ l pair pair', (l, pair) ∈ hashed H position level node above →
      (l, pair') ∈ hashed H position' level node' above' →
      H.combine l pair.1 pair.2 = H.combine l pair'.1 pair'.2 → pair = pair')
    (hroot : climb H position level node above = climb H position' level node' above') :
    node = node' ∧ above = above' := by
  induction above generalizing level node node' above' with
  | nil =>
    obtain rfl : above' = [] := List.eq_nil_of_length_eq_zero hlength.symm
    exact ⟨hroot, rfl⟩
  | cons sibling above ih =>
    cases above' with
    | nil => simp at hlength
    | cons sibling' above' =>
      have hturn : position.testBit level = position'.testBit level := hturns level (by simp)
      rw [climb, climb] at hroot
      obtain ⟨hnodes, habove⟩ := ih (by simpa using hlength)
        (fun l hl => hturns l (by rw [List.length_cons]; omega))
        (fun l pair pair' hpair hpair' => hfree l pair pair' (List.mem_cons_of_mem _ hpair)
          (List.mem_cons_of_mem _ hpair')) hroot
      -- the nodes one level up are equal, so the pairs below them are
      have hpairs := hfree level _ _ List.mem_cons_self List.mem_cons_self
      rw [hturn] at hpairs hnodes
      cases hbit : position'.testBit level with
      | true => simp_all
      | false => simp_all

end Merkle
