import Mathlib.Data.List.Sort

/-!
# Lib.SortedSet

Finite sets as their elements in ascending order, the way an ordered set is stored and
iterated.  Two sets with the same members are equal, so a set is reasoned about by its
members alone.
-/

/-- A finite set, as the strictly ascending list of its elements. -/
structure SortedSet (α : Type) [LinearOrder α] where
  elements : List α
  sorted : elements.Pairwise (· < ·)
  deriving DecidableEq

namespace SortedSet

variable {α : Type} [LinearOrder α]

instance : Membership α (SortedSet α) := ⟨fun s a => a ∈ s.elements⟩

instance (a : α) (s : SortedSet α) : Decidable (a ∈ s) :=
  inferInstanceAs (Decidable (a ∈ s.elements))

instance : EmptyCollection (SortedSet α) := ⟨⟨[], .nil⟩⟩

theorem mem_elements {s : SortedSet α} {a : α} : a ∈ s.elements ↔ a ∈ s := Iff.rfl

@[simp] theorem notMem_empty (a : α) : a ∉ (∅ : SortedSet α) := List.not_mem_nil

@[ext] theorem ext {s t : SortedSet α} (h : ∀ a, a ∈ s ↔ a ∈ t) : s = t := by
  obtain ⟨elements, hs⟩ := s
  obtain ⟨elements', ht⟩ := t
  obtain rfl : elements = elements' := hs.eq_of_mem_iff ht h
  rfl

/-- An element that is not there is put into its place. -/
theorem sorted_orderedInsert {s : SortedSet α} {a : α} (ha : a ∉ s) :
    (s.elements.orderedInsert (· ≤ ·) a).Pairwise (· < ·) := by
  have hle : (s.elements.orderedInsert (· ≤ ·) a).Pairwise (· ≤ ·) :=
    List.Pairwise.orderedInsert _ _ (s.sorted.imp le_of_lt)
  have hne : (s.elements.orderedInsert (· ≤ ·) a).Nodup :=
    (List.perm_orderedInsert _ _ _).nodup_iff.mpr
      (List.nodup_cons.mpr ⟨ha, s.sorted.imp ne_of_lt⟩)
  exact (hle.and hne).imp fun h => lt_of_le_of_ne h.1 h.2

/-- Add an element. -/
def insert (s : SortedSet α) (a : α) : SortedSet α :=
  if ha : a ∈ s then s else ⟨s.elements.orderedInsert (· ≤ ·) a, sorted_orderedInsert ha⟩

/-- Take an element out. -/
def erase (s : SortedSet α) (a : α) : SortedSet α :=
  ⟨s.elements.filter (· ≠ a), s.sorted.filter _⟩

@[simp] theorem mem_insert {s : SortedSet α} {a b : α} : b ∈ s.insert a ↔ b = a ∨ b ∈ s := by
  by_cases ha : a ∈ s
  · rw [insert, dif_pos ha]
    constructor
    · exact .inr
    · rintro (rfl | hb)
      · exact ha
      · exact hb
  · rw [insert, dif_neg ha]
    exact List.mem_orderedInsert _

@[simp] theorem mem_erase {s : SortedSet α} {a b : α} : b ∈ s.erase a ↔ b ∈ s ∧ b ≠ a := by
  show b ∈ s.elements.filter (· ≠ a) ↔ _
  rw [List.mem_filter, mem_elements]
  simp

/-- Inserting elements one after the other adds them. -/
theorem mem_foldl_insert {elements : List α} {s : SortedSet α} {a : α} :
    a ∈ elements.foldl insert s ↔ a ∈ s ∨ a ∈ elements := by
  induction elements generalizing s with
  | nil => simp
  | cons b elements ih =>
    rw [List.foldl_cons, ih, mem_insert, List.mem_cons]
    tauto

/-- A set is rebuilt from its elements. -/
theorem foldl_insert_elements (s : SortedSet α) : s.elements.foldl insert ∅ = s := by
  ext a
  rw [mem_foldl_insert, mem_elements]
  simp

end SortedSet
