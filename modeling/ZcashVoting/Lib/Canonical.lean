import Mathlib.Data.List.Sort
import Mathlib.Data.List.Perm.Subperm
import Mathlib.Data.List.Dedup

/-!
# Lib.Canonical

Lists brought to a form that depends only on what they hold.  `distinctBy` keeps the
first element of every key; where the key tells the elements apart, two lists of the
same elements keep the same ones.  Sorting by an order that tells them apart then
forgets the order they came in.
-/

namespace Canonical

variable {α κ : Type} [DecidableEq κ]

/-- The elements whose key was not seen before, each key once. -/
def distinctFrom (key : α → κ) : List κ → List α → List α
  | _, [] => []
  | seen, a :: as =>
    if key a ∈ seen then distinctFrom key seen as
    else a :: distinctFrom key (key a :: seen) as

/-- The first element of every key. -/
def distinctBy (key : α → κ) (as : List α) : List α := distinctFrom key [] as

section Distinct

variable {key : α → κ}

theorem mem_of_mem_distinctFrom {seen : List κ} {as : List α} {a : α}
    (h : a ∈ distinctFrom key seen as) : a ∈ as ∧ key a ∉ seen := by
  induction as generalizing seen with
  | nil => cases h
  | cons b as ih =>
    rw [distinctFrom] at h
    by_cases hb : key b ∈ seen
    · rw [if_pos hb] at h
      exact ⟨List.mem_cons_of_mem _ (ih h).1, (ih h).2⟩
    · rw [if_neg hb, List.mem_cons] at h
      obtain rfl | h := h
      · exact ⟨List.mem_cons_self, hb⟩
      · exact ⟨List.mem_cons_of_mem _ (ih h).1, fun hseen => (ih h).2 (List.mem_cons_of_mem _ hseen)⟩

/-- No key is kept twice. -/
theorem nodup_distinctFrom (seen : List κ) (as : List α) :
    ((distinctFrom key seen as).map key).Nodup := by
  induction as generalizing seen with
  | nil => exact List.nodup_nil
  | cons a as ih =>
    rw [distinctFrom]
    by_cases ha : key a ∈ seen
    · rw [if_pos ha]
      exact ih seen
    · rw [if_neg ha, List.map_cons, List.nodup_cons]
      refine ⟨fun h => ?_, ih _⟩
      obtain ⟨b, hb, hkey⟩ := List.mem_map.mp h
      exact (mem_of_mem_distinctFrom hb).2 (by rw [hkey]; exact List.mem_cons_self)

/-- Every key that was not seen is kept. -/
theorem exists_mem_distinctFrom {seen : List κ} {as : List α} {a : α} (ha : a ∈ as)
    (hseen : key a ∉ seen) : ∃ b ∈ distinctFrom key seen as, key b = key a := by
  induction as generalizing seen with
  | nil => cases ha
  | cons b as ih =>
    rw [distinctFrom]
    by_cases hb : key b ∈ seen
    · have hne : a ≠ b := fun h => hseen (h ▸ hb)
      rw [if_pos hb]
      exact ih ((List.mem_cons.mp ha).resolve_left hne) hseen
    · rw [if_neg hb]
      by_cases hkey : key b = key a
      · exact ⟨b, List.mem_cons_self, hkey⟩
      · have hne : a ≠ b := fun h => hkey (h ▸ rfl)
        have hfresh : key a ∉ key b :: seen := by simp [hseen, Ne.symm hkey]
        obtain ⟨c, hc, heq⟩ := ih ((List.mem_cons.mp ha).resolve_left hne) hfresh
        exact ⟨c, List.mem_cons_of_mem _ hc, heq⟩

theorem nodup_distinctBy (as : List α) : (distinctBy key as).Nodup :=
  (nodup_distinctFrom [] as).of_map

variable {as : List α} (hinj : ∀ a ∈ as, ∀ b ∈ as, key a = key b → a = b)

include hinj

/-- Where the key tells the elements apart, exactly the elements are kept. -/
theorem mem_distinctBy {a : α} : a ∈ distinctBy key as ↔ a ∈ as := by
  constructor
  · exact fun h => (mem_of_mem_distinctFrom h).1
  · intro h
    obtain ⟨b, hb, hkey⟩ := exists_mem_distinctFrom h (List.not_mem_nil (a := key a))
    rwa [← hinj b (mem_of_mem_distinctFrom hb).1 a h hkey]

end Distinct

/-! ## The only element -/

/-- The element of a list that has exactly one. -/
def sole : List α → Option α
  | [a] => some a
  | _ => none

/-- Two elements are enough to see that there is not exactly one. -/
theorem sole_take_two (as : List α) : sole (as.take 2) = sole as := by
  match as with
  | [] | [_] | [_, _] | _ :: _ :: _ :: _ => rfl

/-- Lists without duplicates that hold the same elements have the same only element. -/
theorem sole_eq_of_mem_iff {as bs : List α} (has : as.Nodup) (hbs : bs.Nodup)
    (h : ∀ a, a ∈ as ↔ a ∈ bs) : sole as = sole bs := by
  have hperm : as.Perm bs := (List.perm_ext_iff_of_nodup has hbs).mpr h
  match as, bs with
  | [], bs => rw [hperm.nil_eq]
  | [a], bs => rw [List.perm_singleton.mp hperm.symm]
  | a :: b :: as, [] => cases hperm.eq_nil
  | a :: b :: as, [c] => cases List.perm_singleton.mp hperm
  | a :: b :: as, c :: d :: bs => rfl

/-- Sorting by an order that tells the elements apart forgets their order. -/
theorem insertionSort_eq_of_perm {r : α → α → Prop} [DecidableRel r] [Std.Total r] [IsTrans α r]
    {as bs : List α} (hanti : ∀ a ∈ as, ∀ b ∈ as, r a b → r b a → a = b) (hperm : bs.Perm as) :
    bs.insertionSort r = as.insertionSort r := by
  have hsorts : (bs.insertionSort r).Perm (as.insertionSort r) :=
    (List.perm_insertionSort r bs).trans (hperm.trans (List.perm_insertionSort r as).symm)
  have hapart : ∀ a b, a ∈ bs.insertionSort r → b ∈ as.insertionSort r → r a b → r b a → a = b := by
    intro a b ha hb
    rw [List.mem_insertionSort] at ha hb
    exact hanti a (hperm.mem_iff.mp ha) b hb
  exact hsorts.eq_of_pairwise hapart (List.pairwise_insertionSort r bs)
    (List.pairwise_insertionSort r as)

end Canonical
