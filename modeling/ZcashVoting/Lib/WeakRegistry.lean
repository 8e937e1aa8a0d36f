import Mathlib.Logic.Function.Basic

/-!
# Lib.WeakRegistry

Registries of weak references.  An entry does not keep its object alive, and entries of dead
objects are pruned before a lookup.  `Registers.unique` says why two owners of a key's object
agree on it, as long as what owners rely on stays registered.
-/

namespace WeakRegistry

variable {K T : Type} {registry pruned : K → Option Nat} {alive : Nat → Prop} {key : K}
  {object : Nat}

/-- The registry without the entries of dead objects. -/
def Pruned (registry : K → Option Nat) (alive : Nat → Prop) (pruned : K → Option Nat) : Prop :=
  ∀ key object, pruned key = some object ↔ registry key = some object ∧ alive object

theorem exists_pruned (registry : K → Option Nat) (alive : Nat → Prop) :
    ∃ pruned, Pruned registry alive pruned := by
  classical
  exact ⟨fun key => (registry key).filter (alive ·), by simp [Pruned, Option.filter_eq_some_iff]⟩

theorem Pruned.eq_none (h : Pruned registry alive pruned)
    (hdead : ∀ object, registry key = some object → ¬ alive object) : pruned key = none := by
  cases hkey : pruned key with
  | none => rfl
  | some object =>
    obtain ⟨hregistered, halive⟩ := (h key object).mp hkey
    exact absurd halive (hdead object hregistered)

/-- Whoever relies on an object for a key finds it registered. -/
def Registers (registry : K → Option Nat) (bound : T → Option (K × Nat)) : Prop :=
  ∀ t key object, bound t = some (key, object) → registry key = some object

variable {bound : T → Option (K × Nat)}

theorem Registers.unique (h : Registers registry bound) (t t' : T) (key : K) {object' : Nat}
    (ht : bound t = some (key, object)) (ht' : bound t' = some (key, object')) :
    object = object' := by
  have heq := (h t key object ht).symm.trans (h t' key object' ht')
  exact Option.some.inj heq

/-- Pruning keeps what is relied on, for that is alive. -/
theorem Registers.prune (h : Registers registry bound) (hpruned : Pruned registry alive pruned)
    (halive : ∀ t key object, bound t = some (key, object) → alive object) :
    Registers pruned bound :=
  fun t key object ht =>
    (hpruned key object).mpr ⟨h t key object ht, halive t key object ht⟩

/-- An entry for a key that has none takes nothing away. -/
theorem Registers.insert [DecidableEq K] (h : Registers registry bound)
    (hkey : registry key = none) : Registers (Function.update registry key (some object)) bound := by
  intro t other own ht
  have hother := h t other own ht
  have hne : other ≠ key := by
    rintro rfl
    rw [hkey] at hother
    cases hother
  rw [Function.update_of_ne hne, hother]

end WeakRegistry
