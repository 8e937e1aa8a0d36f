import Mathlib.Data.List.AList
import Mathlib.Data.List.Sort

/-!
# Lib.Table

Keyed tables: finite maps from keys to rows with at most one row a key.  The
carrier is `AList`, whose key-uniqueness is part of the type; this module adds
the row queries a store needs (`any`, `rows`) and relates each
to `lookup`, so that table contents are reasoned about pointwise.
-/

/-- A table of rows `ρ` under unique keys `κ`. -/
abbrev Table (κ ρ : Type) := AList (fun _ : κ => ρ)

namespace Table

variable {κ ρ : Type} {t : Table κ ρ} {k : κ} {r : ρ}

/-- Some row satisfies the condition (`SELECT EXISTS`). -/
def any (t : Table κ ρ) (p : κ → ρ → Bool) : Bool := t.entries.any fun e => p e.1 e.2

/-- The rows in table order with their keys (`SELECT`). -/
def rows (t : Table κ ρ) : List (κ × ρ) := t.entries.map fun e => (e.1, e.2)

/-- No key has two rows. -/
theorem nodup_rows_keys (t : Table κ ρ) : (t.rows.map (·.1)).Nodup := by
  have h : t.rows.map (·.1) = t.keys := by simp [rows, AList.keys, List.keys, Function.comp_def]
  rw [h]
  exact t.keys_nodup

/-- The matches of a row, or one missing match (`LEFT JOIN`). -/
def leftJoin (found : List ρ) : List (Option ρ) :=
  match found with
  | [] => [none]
  | found => found.map some

theorem exists_mem_leftJoin (found : List ρ) : ∃ row, row ∈ leftJoin found := by
  cases found <;> simp [leftJoin]

/-- The rows in the order of their keys, as an ordered map is iterated. -/
def ascending (t : Table κ ρ) (le : κ → κ → Prop) [DecidableRel le] : List (κ × ρ) :=
  t.rows.insertionSort fun a b => le a.1 b.1

/-- The keys ascend strictly. -/
theorem pairwise_ascending (t : Table κ ρ) {le : κ → κ → Prop} [DecidableRel le]
    (htotal : ∀ a b, le a b ∨ le b a) (htrans : ∀ a b c, le a b → le b c → le a c) :
    (t.ascending le).Pairwise fun a b => le a.1 b.1 ∧ a.1 ≠ b.1 := by
  let before : κ × ρ → κ × ρ → Prop := fun a b => le a.1 b.1
  have : Std.Total before := ⟨fun a b => htotal a.1 b.1⟩
  have : IsTrans _ before := ⟨fun a b c => htrans a.1 b.1 c.1⟩
  have hle : (t.ascending le).Pairwise before := List.pairwise_insertionSort before _
  have hne : ((t.ascending le).map (·.1)).Nodup :=
    ((List.perm_insertionSort _ _).map _).nodup_iff.mpr t.nodup_rows_keys
  exact hle.and (List.pairwise_map.mp hne)

variable [DecidableEq κ]

theorem any_eq_true {p : κ → ρ → Bool} :
    t.any p = true ↔ ∃ k r, t.lookup k = some r ∧ p k r = true := by
  simp only [any, List.any_eq_true]
  constructor
  · rintro ⟨⟨k, r⟩, hmem, hp⟩
    exact ⟨k, r, AList.mem_lookup_iff.mpr hmem, hp⟩
  · rintro ⟨k, r, hlook, hp⟩
    exact ⟨⟨k, r⟩, AList.mem_lookup_iff.mp hlook, hp⟩

theorem any_eq_false {p : κ → ρ → Bool} :
    t.any p = false ↔ ∀ k r, t.lookup k = some r → p k r = false := by
  rw [← Bool.not_eq_true, any_eq_true]
  constructor
  · intro h k r hlook
    by_contra hp
    exact h ⟨k, r, hlook, by simpa using hp⟩
  · rintro h ⟨k, r, hlook, hp⟩
    rw [h k r hlook] at hp
    exact Bool.noConfusion hp

theorem mem_rows : (k, r) ∈ t.rows ↔ t.lookup k = some r := by
  simp only [rows, List.mem_map, Prod.mk.injEq]
  constructor
  · rintro ⟨⟨k', r'⟩, hmem, rfl, rfl⟩
    exact AList.mem_lookup_iff.mpr hmem
  · intro h
    exact ⟨⟨k, r⟩, AList.mem_lookup_iff.mp h, rfl, rfl⟩

theorem mem_ascending {le : κ → κ → Prop} [DecidableRel le] :
    (k, r) ∈ t.ascending le ↔ t.lookup k = some r := by
  rw [ascending, List.mem_insertionSort, mem_rows]

/-- The row of a key is counted once. -/
theorem countP_ascending (t : Table κ ρ) (le : κ → κ → Prop) [DecidableRel le] (k : κ)
    (p : ρ → Bool) :
    (t.ascending le).countP (fun e => decide (e.1 = k) && p e.2) =
      if (t.lookup k).any p then 1 else 0 := by
  rw [ascending, (List.perm_insertionSort _ _).countP_eq, rows, List.countP_map, AList.lookup]
  have hnodup := t.nodupKeys
  generalize t.entries = entries at hnodup
  induction entries with
  | nil => rfl
  | cons entry entries ih =>
    obtain ⟨k', r⟩ := entry
    obtain ⟨hfresh, hnodup⟩ := List.nodupKeys_cons.mp hnodup
    rw [List.countP_cons, ih hnodup]
    by_cases hk : k' = k
    · subst hk
      rw [List.dlookup_eq_none.mpr hfresh, List.dlookup_cons_eq]
      simp
    · have hskip : List.dlookup k (⟨k', r⟩ :: entries) = List.dlookup k entries :=
        List.dlookup_cons_ne _ _ (Ne.symm hk)
      rw [hskip]
      simp [hk]

/-- The rows that satisfy the condition. -/
def retain (t : Table κ ρ) (p : κ → ρ → Bool) : Table κ ρ :=
  ⟨t.entries.filter fun e => p e.1 e.2, t.nodupKeys.sublist List.filter_sublist⟩

theorem lookup_retain (t : Table κ ρ) (p : κ → ρ → Bool) (k : κ) :
    (t.retain p).lookup k = (t.lookup k).filter (p k) := by
  ext r
  rw [← Option.mem_def, AList.mem_lookup_iff, Option.filter_eq_some_iff, ← Option.mem_def,
    AList.mem_lookup_iff, retain, List.mem_filter]

/-- A condition on the key keeps or deletes the row of a key. -/
theorem lookup_retain_key (t : Table κ ρ) (p : κ → Bool) (k : κ) :
    (t.retain fun k _ => p k).lookup k = if p k then t.lookup k else none := by
  rw [lookup_retain]
  cases hrow : t.lookup k with
  | none => simp
  | some r => simp [Option.filter]

/-- Every row rewritten by its key (`UPDATE`). -/
def mapRows (t : Table κ ρ) (f : κ → ρ → ρ) : Table κ ρ :=
  ⟨t.entries.map fun e => ⟨e.1, f e.1 e.2⟩, by
    have h := t.nodupKeys
    rw [List.NodupKeys, List.keys] at h ⊢
    rwa [List.map_map]⟩

theorem lookup_mapRows (t : Table κ ρ) (f : κ → ρ → ρ) (k : κ) :
    (t.mapRows f).lookup k = (t.lookup k).map (f k) := by
  ext r
  rw [← Option.mem_def, AList.mem_lookup_iff, Option.map_eq_some_iff, mapRows, List.mem_map]
  constructor
  · rintro ⟨⟨k', r'⟩, hmem, heq⟩
    cases heq
    exact ⟨r', AList.mem_lookup_iff.mpr hmem, rfl⟩
  · rintro ⟨r', hlookup, rfl⟩
    exact ⟨⟨k, r'⟩, AList.mem_lookup_iff.mp hlookup, rfl⟩

/-- Replacing the row of one key shows through `lookup` at that key only. -/
theorem lookup_insert_eq (t : Table κ ρ) (k k' : κ) (r : ρ) :
    AList.lookup k' (t.insert k r) = if k' = k then some r else t.lookup k' := by
  by_cases h : k' = k
  · subst h; rw [AList.lookup_insert, if_pos rfl]
  · rw [AList.lookup_insert_ne h, if_neg h]

/-- Deleting the row of one key shows through `lookup` at that key only. -/
theorem lookup_erase_eq (t : Table κ ρ) (k k' : κ) :
    AList.lookup k' (t.erase k) = if k' = k then none else t.lookup k' := by
  by_cases h : k' = k
  · subst h; rw [AList.lookup_erase, if_pos rfl]
  · rw [AList.lookup_erase_ne h, if_neg h]

/-- The entries as a map; of two entries under one key the later stays. -/
def collect (entries : List (κ × ρ)) : Table κ ρ :=
  entries.foldl (fun t entry => t.insert entry.1 entry.2) ∅

/-- What a key shows after the entries were inserted one by one. -/
theorem lookup_foldl_insert (entries : List (κ × ρ)) (t : Table κ ρ) (k : κ) :
    (entries.foldl (fun t entry => t.insert entry.1 entry.2) t).lookup k =
      (((entries.filter (·.1 = k)).getLast?.map (·.2)).or (t.lookup k)) := by
  induction entries generalizing t with
  | nil => rfl
  | cons entry entries ih =>
    rw [List.foldl_cons, ih, lookup_insert_eq, List.filter_cons]
    by_cases h : entry.1 = k
    · simp only [h, decide_true, if_true, List.getLast?_cons]
      cases (entries.filter (·.1 = k)).getLast? <;> simp
    · simp [h, Ne.symm h]

/-- What a map shows is one of its entries. -/
theorem mem_of_lookup_collect {entries : List (κ × ρ)}
    (h : (collect entries).lookup k = some r) : (k, r) ∈ entries := by
  rw [collect, lookup_foldl_insert, AList.lookup_empty, Option.or_none,
    Option.map_eq_some_iff] at h
  obtain ⟨entry, hlast, rfl⟩ := h
  obtain ⟨hmem, hkey⟩ := List.mem_filter.mp (List.mem_of_getLast? hlast)
  rwa [← of_decide_eq_true hkey]

/-- Every key of the entries has a row. -/
theorem exists_lookup_collect {entries : List (κ × ρ)} (h : (k, r) ∈ entries) :
    ∃ r', (collect entries).lookup k = some r' := by
  rw [collect, lookup_foldl_insert, AList.lookup_empty, Option.or_none]
  have hne : entries.filter (·.1 = k) ≠ [] :=
    List.ne_nil_of_mem (List.mem_filter.mpr ⟨h, by simp⟩)
  exact ⟨_, by rw [List.getLast?_eq_some_getLast hne, Option.map_some]⟩

/-- Deleting rows one after the other. -/
theorem lookup_foldl_erase_eq {α : Type} (key : α → κ) (xs : List α) (t : Table κ ρ) (k : κ) :
    (xs.foldl (fun t x => t.erase (key x)) t).lookup k =
      if k ∈ xs.map key then none else t.lookup k := by
  induction xs generalizing t with
  | nil => simp
  | cons x xs ih =>
    rw [List.foldl_cons, ih, lookup_erase_eq]
    by_cases hk : k = key x <;> simp [hk]

/-- Deleting the rows of other keys does not show at a key. -/
theorem lookup_foldl_erase (rows : List (κ × ρ)) (h : ∀ row ∈ rows, row.1 ≠ k)
    (t : Table κ ρ) : (rows.foldl (fun t row => t.erase row.1) t).lookup k = t.lookup k := by
  rw [lookup_foldl_erase_eq, if_neg]
  rw [List.mem_map]
  rintro ⟨row, hrow, rfl⟩
  exact h row hrow rfl

end Table
