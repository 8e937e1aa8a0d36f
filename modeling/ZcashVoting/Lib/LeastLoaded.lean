import Mathlib

/-!
# Lib.LeastLoaded

Choosing the least loaded members of a pool, round after round.  Loads that start equal
stay within one of each other, the total grows by the number chosen, and a quota that
leaves room in total leaves room for the next choice.
-/

namespace LeastLoaded

variable {α : Type} {load : α → Nat} {pool chosen : List α}

/-- The loads of the pool differ by at most one. -/
def Balanced (load : α → Nat) (pool : List α) : Prop :=
  ∃ low, ∀ a ∈ pool, load a = low ∨ load a = low + 1

/-- The load of the whole pool. -/
def total (load : α → Nat) (pool : List α) : Nat := (pool.map load).sum

/-- Distinct members of the pool, none loaded more than a member left out. -/
structure Least (load : α → Nat) (pool chosen : List α) : Prop where
  subset : chosen ⊆ pool
  nodup : chosen.Nodup
  least : ∀ a ∈ chosen, ∀ b ∈ pool, b ∉ chosen → load a ≤ load b

theorem Balanced.le_succ (h : Balanced load pool) {a b : α} (ha : a ∈ pool) (hb : b ∈ pool) :
    load a ≤ load b + 1 := by
  obtain ⟨low, hlow⟩ := h
  have := hlow a ha
  have := hlow b hb
  omega

theorem balanced_of_const {low : Nat} (h : ∀ a ∈ pool, load a = low) : Balanced load pool :=
  ⟨low, fun a ha => .inl (h a ha)⟩

section Charge

variable [DecidableEq α]

/-- One more for each that is chosen. -/
def charge (load : α → Nat) (chosen : List α) (a : α) : Nat :=
  load a + if a ∈ chosen then 1 else 0

/-- A choice of the least loaded keeps the loads balanced. -/
theorem Balanced.charge (h : Balanced load pool) (hleast : Least load pool chosen) :
    Balanced (charge load chosen) pool := by
  obtain ⟨low, hlow⟩ := h
  by_cases hall : ∀ a ∈ pool, load a = low → a ∈ chosen
  · -- everyone at the bottom is chosen, so the bottom rises
    refine ⟨low + 1, fun a ha => ?_⟩
    have hload := hlow a ha
    by_cases hmem : a ∈ chosen
    · simp only [LeastLoaded.charge, hmem, if_true]
      omega
    · have := mt (hall a ha) hmem
      simp only [LeastLoaded.charge, hmem, if_false]
      omega
  · -- someone at the bottom is left out, so only the bottom is chosen
    push Not at hall
    obtain ⟨b, hb, hbottom, hout⟩ := hall
    refine ⟨low, fun a ha => ?_⟩
    have hload := hlow a ha
    by_cases hmem : a ∈ chosen
    · have := hleast.least a hmem b hb hout
      simp only [LeastLoaded.charge, hmem, if_true]
      omega
    · simp only [LeastLoaded.charge, hmem, if_false]
      omega

theorem sum_ite_mem (hnodup : chosen.Nodup) (hsub : chosen ⊆ pool) (hpool : pool.Nodup) :
    (pool.map fun a => if a ∈ chosen then 1 else 0).sum = chosen.length := by
  have hfilter : (pool.filter (· ∈ chosen)).Perm chosen := by
    refine (List.perm_ext_iff_of_nodup (hpool.filter _) hnodup).mpr fun a => ?_
    simp only [List.mem_filter, decide_eq_true_eq]
    exact ⟨And.right, fun ha => ⟨hsub ha, ha⟩⟩
  rw [← hfilter.length_eq, ← List.countP_eq_length_filter]
  clear hfilter hpool hsub
  induction pool with
  | nil => rfl
  | cons a pool ih =>
    rw [List.map_cons, List.sum_cons, ih, List.countP_cons, Nat.add_comm]
    simp

/-- The choice adds its size to the total. -/
theorem total_charge (hpool : pool.Nodup) (hleast : Least load pool chosen) :
    total (charge load chosen) pool = total load pool + chosen.length := by
  rw [← sum_ite_mem hleast.nodup hleast.subset hpool, total, total, ← List.sum_map_add]
  rfl

end Charge

/-- What the loads of a balanced pool sum to, by how many are at the bottom. -/
theorem total_of_low {low : Nat} (h : ∀ a ∈ pool, load a = low ∨ load a = low + 1) :
    total load pool + pool.countP (load · = low) = (low + 1) * pool.length := by
  induction pool with
  | nil => simp [total]
  | cons a pool ih =>
    have ha := h a List.mem_cons_self
    have hrest := ih fun b hb => h b (List.mem_cons_of_mem _ hb)
    simp only [total, List.map_cons, List.sum_cons, List.countP_cons, List.length_cons,
      Nat.mul_succ, decide_eq_true_eq] at hrest ⊢
    split <;> omega

/-- If the quota leaves room for `count` more in total, at least `count` members of a
balanced pool are below it. -/
theorem Balanced.room (h : Balanced load pool) {cap count : Nat}
    (htotal : total load pool + count ≤ cap * pool.length) (hcount : count ≤ pool.length) :
    count ≤ pool.countP (load · < cap) := by
  obtain ⟨low, hlow⟩ := h
  have hsum := total_of_low hlow
  obtain hbelow | rfl | habove : low + 1 < cap ∨ low + 1 = cap ∨ cap ≤ low := by omega
  · -- everyone is below the quota
    rw [List.countP_eq_length.mpr]
    · exact hcount
    · intro a ha
      have := hlow a ha
      rw [decide_eq_true_eq]
      omega
  · -- exactly those at the bottom are
    have hsame : pool.countP (load · < low + 1) = pool.countP (load · = low) := by
      refine List.countP_congr fun a ha => ?_
      have := hlow a ha
      simp only [decide_eq_true_eq]
      omega
    omega
  · -- no room at all
    have hle : cap * pool.length ≤ low * pool.length := Nat.mul_le_mul_right _ habove
    have hcountP : pool.countP (load · = low) ≤ pool.length := List.countP_le_length
    rw [Nat.succ_mul] at hsum
    omega

/-- The front of an order by load, of those that pass a filter by load, is a choice of
the least loaded. -/
theorem least_take_filter {order : List α} (hperm : order.Perm pool) (hnodup : pool.Nodup)
    (hsorted : order.Pairwise fun a b => load a ≤ load b) {p : α → Bool}
    (hp : ∀ a b, p a = true → p b = false → load a ≤ load b) (count : Nat) :
    Least load pool ((order.filter p).take count) where
  subset := fun _ ha =>
    hperm.subset (List.filter_sublist.subset ((List.take_sublist _ _).subset ha))
  nodup := ((hperm.nodup_iff.mpr hnodup).filter p).sublist (List.take_sublist _ _)
  least := by
    intro a ha b hb hout
    have hpa : p a = true := (List.mem_filter.mp ((List.take_sublist _ _).subset ha)).2
    cases hpb : p b with
    | false => exact hp a b hpa hpb
    | true =>
      have hfiltered : b ∈ order.filter p := List.mem_filter.mpr ⟨hperm.mem_iff.mpr hb, hpb⟩
      have hdropped : b ∈ (order.filter p).drop count := by
        rw [← List.take_append_drop count (order.filter p), List.mem_append] at hfiltered
        exact hfiltered.resolve_left hout
      have hpairwise := hsorted.sublist (List.filter_sublist (p := p))
      rw [← List.take_append_drop count (order.filter p)] at hpairwise
      exact (List.pairwise_append.mp hpairwise).2.2 a ha b hdropped

end LeastLoaded
