import Mathlib.Data.List.Sort
import Mathlib.Logic.Function.Basic

/-!
# Lib.Keyspace

Finite maps that share one ordered store, each under keys of its own.  `Stores` says that
the store holds one map and nothing else under the keys that belong to it; a write under
one of its keys is a write to the map, a write anywhere else leaves it, and iterating over
its keys is iterating over the map.
-/

namespace Keyspace

variable {κ K ρ : Type} {inside : K → Prop} {key : κ → K} {view : K → Option ρ}
  {content : κ → Option ρ}

/-- The store holds the map under its keys, and holds no other key that belongs to it. -/
structure Stores (inside : K → Prop) (key : κ → K) (view : K → Option ρ)
    (content : κ → Option ρ) : Prop where
  lookup : ∀ k, view (key k) = content k
  keys : ∀ stored, (view stored).isSome → inside stored → ∃ k, stored = key k

/-- A write under a key of the map. -/
theorem Stores.update [DecidableEq κ] [DecidableEq K] (h : Stores inside key view content)
    (hkey : Function.Injective key) (k : κ) (value : Option ρ) :
    Stores inside key (Function.update view (key k) value) (Function.update content k value) where
  lookup := by
    intro k'
    by_cases hk : k' = k
    · subst hk
      simp
    · rw [Function.update_of_ne (hkey.ne hk), Function.update_of_ne hk, h.lookup]
  keys := by
    intro stored hsome hinside
    by_cases hstored : stored = key k
    · exact ⟨k, hstored⟩
    · rw [Function.update_of_ne hstored] at hsome
      exact h.keys stored hsome hinside

/-- Keys deleted from the store. -/
theorem Stores.delete (h : Stores inside key view content) (deleted : List K)
    [DecidablePred (· ∈ deleted)] :
    Stores inside key (fun stored => if stored ∈ deleted then none else view stored)
      fun k => if key k ∈ deleted then none else content k where
  lookup := by
    intro k
    rw [h.lookup]
  keys := by
    intro stored hsome hinside
    split at hsome
    · cases hsome
    · exact h.keys stored hsome hinside

/-- Writes outside the map. -/
theorem Stores.congr (h : Stores inside key view content) (hkey : ∀ k, inside (key k))
    {view' : K → Option ρ} (hagree : ∀ stored, inside stored → view' stored = view stored) :
    Stores inside key view' content where
  lookup := by
    intro k
    rw [hagree _ (hkey k), h.lookup]
  keys := by
    intro stored hsome hinside
    rw [hagree stored hinside] at hsome
    exact h.keys stored hsome hinside

/-- The entries of the store under the keys of the map, in order, are those of the map. -/
theorem Stores.entries_eq [LinearOrder κ] (h : Stores inside key view content)
    (hkey : ∀ k, inside (key k)) {lt : K → K → Prop} (hirrefl : ∀ a, ¬lt a a)
    (hasymm : ∀ a b, lt a b → ¬lt b a) (hmono : ∀ a b, a < b → lt (key a) (key b))
    {entries : List (K × ρ)} (hsorted : entries.Pairwise fun a b => lt a.1 b.1)
    (hmem : ∀ stored r, (stored, r) ∈ entries ↔ view stored = some r ∧ inside stored)
    {ascending : List (κ × ρ)} (hascending : ascending.Pairwise fun a b => a.1 < b.1)
    (hcontent : ∀ k r, (k, r) ∈ ascending ↔ content k = some r) :
    entries = ascending.map fun entry => (key entry.1, entry.2) := by
  let before : K × ρ → K × ρ → Prop := fun a b => lt a.1 b.1
  have hirr : Std.Irrefl before := ⟨fun a => hirrefl a.1⟩
  have hanti : Std.Antisymm before := ⟨fun a b hab hba => absurd hba (hasymm _ _ hab)⟩
  have hmap : (ascending.map fun entry => (key entry.1, entry.2)).Pairwise before :=
    List.pairwise_map.mpr (hascending.imp fun hlt => hmono _ _ hlt)
  refine List.Pairwise.eq_of_mem_iff (r := before) hsorted hmap ?_
  rintro ⟨stored, r⟩
  rw [hmem, List.mem_map]
  constructor
  · rintro ⟨hview, hinside⟩
    obtain ⟨k, rfl⟩ := h.keys stored (by rw [hview]; rfl) hinside
    rw [h.lookup] at hview
    exact ⟨(k, r), (hcontent k r).mpr hview, rfl⟩
  · rintro ⟨⟨k, r'⟩, hentry, heq⟩
    obtain ⟨rfl, rfl⟩ := Prod.mk.inj heq
    rw [h.lookup]
    exact ⟨(hcontent k r').mp hentry, hkey k⟩

end Keyspace
