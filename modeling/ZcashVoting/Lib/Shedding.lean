import Mathlib

/-!
# Lib.Shedding

Shedding items within a budget.  The items are listed lightest first; the first one goes
while more than a target are left and the budget still covers it.  No choice of items to
remove leaves fewer: as many items as any choice takes, taken from the front, weigh no
more.
-/

namespace Shedding

variable {α : Type*} (weight : α → Nat)

/-- The weight of the items. -/
def load (items : List α) : Nat := (items.map weight).sum

@[simp] theorem load_nil : load weight [] = 0 := rfl

@[simp] theorem load_cons (item : α) (items : List α) :
    load weight (item :: items) = weight item + load weight items := by
  simp [load]

@[simp] theorem load_append (front back : List α) :
    load weight (front ++ back) = load weight front + load weight back := by
  simp [load]

theorem load_perm {items others : List α} (h : items.Perm others) :
    load weight items = load weight others := (h.map _).sum_nat

section Shed

variable (budget target : Nat)

/-- The items left, after `spent` of the budget is gone. -/
def keep (spent : Nat) : List α → List α
  | [] => []
  | item :: rest =>
    if rest.length + 1 ≤ target ∨ budget < spent + weight item then item :: rest
    else keep (spent + weight item) rest

/-- The items shed. -/
def shed (spent : Nat) : List α → List α
  | [] => []
  | item :: rest =>
    if rest.length + 1 ≤ target ∨ budget < spent + weight item then []
    else item :: shed (spent + weight item) rest

variable {budget target} {spent : Nat} {items : List α}

theorem shed_append_keep :
    shed weight budget target spent items ++ keep weight budget target spent items = items := by
  induction items generalizing spent with
  | nil => rfl
  | cons item rest ih =>
    by_cases hstop : rest.length + 1 ≤ target ∨ budget < spent + weight item
    · simp only [shed, keep, if_pos hstop, List.nil_append]
    · simp only [shed, keep, if_neg hstop, List.cons_append, ih]

/-- What is shed fits the budget. -/
theorem load_shed_le (h : spent ≤ budget) :
    spent + load weight (shed weight budget target spent items) ≤ budget := by
  induction items generalizing spent with
  | nil => exact h
  | cons item rest ih =>
    by_cases hstop : rest.length + 1 ≤ target ∨ budget < spent + weight item
    · simpa only [shed, if_pos hstop, load_nil, Nat.add_zero] using h
    · simp only [shed, hstop, if_false, load_cons]
      have := @ih (spent + weight item) (by omega)
      omega

/-- The target is left, or everything if there was less. -/
theorem min_le_length_keep :
    min target items.length ≤ (keep weight budget target spent items).length := by
  induction items generalizing spent with
  | nil => simp
  | cons item rest ih =>
    by_cases hstop : rest.length + 1 ≤ target ∨ budget < spent + weight item
    · simp only [keep, if_pos hstop, min_le_right]
    · simp only [keep, hstop, if_false, List.length_cons]
      have := @ih (spent + weight item)
      omega

/-- No more than the target at the start is no more than the target at the end. -/
theorem keep_of_length_le (h : items.length ≤ target) :
    keep weight budget target spent items = items := by
  cases items with
  | nil => rfl
  | cons item rest => exact if_pos (.inl (by simpa using h))

/-- As many items as the budget covers from the front are shed. -/
theorem length_keep_le {count : Nat} (hcount : count + target ≤ items.length)
    (hload : spent + load weight (items.take count) ≤ budget) :
    count + (keep weight budget target spent items).length ≤ items.length := by
  induction count generalizing spent items with
  | zero =>
    have hsplit : shed weight budget target spent items ++ keep weight budget target spent items =
        items := shed_append_keep weight
    have hlength := congrArg List.length hsplit
    rw [List.length_append] at hlength
    omega
  | succ count ih =>
    cases items with
    | nil => simp at hcount
    | cons item rest =>
      simp only [List.take_succ_cons, load_cons, List.length_cons] at hload hcount ⊢
      have hgo : ¬(rest.length + 1 ≤ target ∨ budget < spent + weight item) := by omega
      simp only [keep, hgo, if_false]
      have := @ih (spent + weight item) rest (by omega) (by omega)
      omega

end Shed

/-- A lighter item in front makes the front of the list no heavier. -/
theorem load_take_cons_le {item : α} {rest : List α} {count : Nat}
    (hleast : ∀ other ∈ rest, weight item ≤ weight other) (hcount : count ≤ rest.length) :
    load weight ((item :: rest).take count) ≤ load weight (rest.take count) := by
  cases count with
  | zero => simp
  | succ count =>
    have hlast := hleast rest[count] (List.getElem_mem hcount)
    rw [List.take_succ_cons, load_cons, List.take_add_one, List.getElem?_eq_getElem hcount,
      load_append, Option.toList_some, load_cons, load_nil]
    omega

section Leaves

variable {budget target count : Nat} {items : List α}

/-- A choice of items within the budget can be removed so that the count is left, and the
count is not below the target. -/
def Leaves (budget target : Nat) (items : List α) (count : Nat) : Prop :=
  target ≤ count ∧ ∃ removed, List.Subperm removed items ∧
    load weight removed ≤ budget ∧ count + removed.length = items.length

variable {weight}

/-- What can be removed does not depend on how the items are listed. -/
theorem leaves_perm {others : List α} (h : items.Perm others) :
    Leaves weight budget target items count ↔ Leaves weight budget target others count := by
  simp only [Leaves, h.subperm_left, h.length_eq]

theorem leaves_congr {other : α → Nat} (h : ∀ item ∈ items, weight item = other item) :
    Leaves weight budget target items count ↔ Leaves other budget target items count := by
  have hload (removed : List α) (hsub : removed.Subperm items) :
      load weight removed = load other removed :=
    congrArg List.sum (List.map_congr_left fun item hitem => h item (hsub.subset hitem))
  simp only [Leaves]
  grind

theorem leaves_map {β : Type*} (f : β → α) {sources : List β} :
    Leaves weight budget target (sources.map f) count ↔
      Leaves (fun source => weight (f source)) budget target sources count := by
  have hload (removed : List β) :
      load weight (removed.map f) = load (fun source => weight (f source)) removed := by
    simp [load, Function.comp_def]
  simp only [Leaves, List.length_map]
  constructor
  · rintro ⟨htarget, removed, ⟨chosen, hperm, hsub⟩, hle, hcount⟩
    obtain ⟨origin, horigin, rfl⟩ := List.sublist_map_iff.mp hsub
    rw [← load_perm weight hperm, hload] at hle
    rw [← hperm.length_eq, List.length_map] at hcount
    exact ⟨htarget, origin, horigin.subperm, hle, hcount⟩
  · rintro ⟨htarget, removed, ⟨chosen, hperm, hsub⟩, hle, hcount⟩
    exact ⟨htarget, removed.map f, ⟨chosen.map f, hperm.map f, hsub.map f⟩,
      (hload removed).trans_le hle, by simpa using hcount⟩

end Leaves

section Least

variable [DecidableEq α] {items chosen : List α}

/-- The front of the list is the lightest choice of its size. -/
theorem load_take_le (hsorted : items.Pairwise (weight · ≤ weight ·))
    (hchosen : chosen.Subperm items) :
    load weight (items.take chosen.length) ≤ load weight chosen := by
  induction items generalizing chosen with
  | nil => simp
  | cons item rest ih =>
    obtain ⟨hleast, hrest⟩ := List.pairwise_cons.mp hsorted
    have hothers : (chosen.erase item).Subperm rest := by
      simpa using hchosen.erase item
    by_cases hmem : item ∈ chosen
    · -- The lightest item is chosen: the others are a choice from the rest.
      have hperm := List.perm_cons_erase hmem
      rw [load_perm weight hperm, hperm.length_eq, List.length_cons, List.take_succ_cons]
      simpa using ih hrest hothers
    · -- It is not: it takes the place of an item of the rest that is no lighter.
      rw [List.erase_of_not_mem hmem] at hothers
      exact (load_take_cons_le weight hleast hothers.length_le).trans (ih hrest hothers)

/-- Shedding leaves the least count there is. -/
theorem isLeast_length_keep {budget target : Nat}
    (hsorted : items.Pairwise (weight · ≤ weight ·)) (htarget : target ≤ items.length) :
    IsLeast {count | Leaves weight budget target items count}
      (keep weight budget target 0 items).length := by
  have hsplit : shed weight budget target 0 items ++ keep weight budget target 0 items = items :=
    shed_append_keep weight
  constructor
  · have hleft : min target items.length ≤ (keep weight budget target 0 items).length :=
      min_le_length_keep weight
    have hload : 0 + load weight (shed weight budget target 0 items) ≤ budget :=
      load_shed_le weight (Nat.zero_le _)
    have hlength := congrArg List.length hsplit
    rw [List.length_append] at hlength
    have hsub : (shed weight budget target 0 items).Subperm items :=
      (List.IsPrefix.sublist ⟨_, hsplit⟩).subperm
    exact ⟨by omega, _, hsub, by omega, by omega⟩
  · rintro count ⟨hcount, removed, hremoved, hload, hlength⟩
    have hfront := load_take_le weight hsorted hremoved
    have hkeep : removed.length + (keep weight budget target 0 items).length ≤ items.length :=
      length_keep_le weight (by omega) (by omega)
    omega

end Least

end Shedding
