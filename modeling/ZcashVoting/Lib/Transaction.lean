import Mathlib.Data.List.Forall2
import Mathlib.Order.Defs.Unbundled

/-!
# Lib.Transaction

Atomic transactions over a store of type `σ`: a body reads and rewrites the
store and may abort with an error, and `transact` runs a body so that an
aborted one leaves the store as it was.

Bodies are written in `do` notation from three primitives — `read` (a query),
`write` (a statement) and `abort` — and are taken apart by one inversion lemma
per primitive (`bind_eq_ok`, `read_eq_ok`, `write_eq_ok`, …), so no proof about
a body unfolds the monad.  `Within r` is the frame rule: a body whose
statements all stay within a preorder `r` stays within `r`.
-/

namespace Transaction

variable {σ ε ε' α β : Type}

/-- A transaction body over the store `σ` that may abort with an `ε`. -/
abbrev Txn (σ ε α : Type) := StateT σ (Except ε) α

variable {x body x' : Txn σ ε α} {f : α → Txn σ ε β} {s s' : σ} {b : β} {a : α}
  {query : σ → Except ε α} {e : ε} {c : Bool}

/-- Run a query: it sees the store and cannot change it. -/
def read (query : σ → Except ε α) : Txn σ ε α := fun s =>
  match query s with
  | .ok a => .ok (a, s)
  | .error e => .error e

/-- Run a statement: it replaces the store or aborts. -/
def write (statement : σ → Except ε σ) : Txn σ ε Unit := fun s =>
  match statement s with
  | .ok s' => .ok ((), s')
  | .error e => .error e

/-- Abandon the transaction. -/
def abort (e : ε) : Txn σ ε α := fun _ => .error e

/-- Abandon the transaction unless a condition holds. -/
def require (condition : Bool) (e : ε) : Txn σ ε Unit :=
  if condition then pure () else abort e

/-- A query that fails unless a condition holds. -/
def check (condition : Bool) (e : ε) : Except ε Unit :=
  if condition then .ok () else .error e

/-- Run a body, translating the error it aborts with. -/
def mapError (f : ε → ε') (body : Txn σ ε α) : Txn σ ε' α := fun s =>
  match body s with
  | .ok r => .ok r
  | .error e => .error (f e)

/-- Run a body as one transaction: its store is committed on success and
rolled back on error. -/
def transact (body : Txn σ ε α) (s : σ) : Except ε α × σ :=
  match body s with
  | .ok (a, s') => (.ok a, s')
  | .error e => (.error e, s)

/-! ## Inversion of queries -/

section Queries

variable {x : Except ε α} {a b : α} {f : α → Except ε β} {e : ε} {xs : List α} {bs : List β}

@[simp] theorem except_bind_eq_ok {b : β} :
    (x >>= f) = .ok b ↔ ∃ a, x = .ok a ∧ f a = .ok b := by
  cases x <;> simp [bind, Except.bind]

@[simp] theorem except_pure_eq_ok : (pure a : Except ε α) = .ok b ↔ a = b := by
  simp [pure, Except.pure]

@[simp] theorem except_throw_eq_ok : (throw e : Except ε α) = .ok a ↔ False := by
  simp [throw, throwThe, MonadExceptOf.throw]

@[simp] theorem check_eq_ok {c : Bool} {u : Unit} :
    check c e = .ok u ↔ c = true := by
  cases c <;> simp [check]

theorem except_bind_eq_error :
    (x >>= f) = .error e ↔ x = .error e ∨ ∃ a, x = .ok a ∧ f a = .error e := by
  cases x <;> simp [bind, Except.bind]

theorem check_eq_error {c : Bool} {e' : ε} : check c e = .error e' ↔ c = false ∧ e = e' := by
  cases c <;> simp [check]

@[simp] theorem except_mapError_eq_ok {f : ε → ε'} : x.mapError f = .ok a ↔ x = .ok a := by
  cases x <;> simp [Except.mapError]

@[simp] theorem except_map_eq_ok {f : α → β} {b : β} :
    x.map f = .ok b ↔ ∃ a, x = .ok a ∧ f a = b := by
  cases x <;> simp [Except.map]

/-- A query for each element of a list. -/
theorem except_mapM_eq_ok :
    xs.mapM f = .ok bs ↔ List.Forall₂ (fun x b => f x = .ok b) xs bs := by
  induction xs generalizing bs with
  | nil => rw [List.mapM_nil, except_pure_eq_ok, List.forall₂_nil_left_iff, eq_comm]
  | cons x xs ih =>
    rw [List.mapM_cons, List.forall₂_cons_left_iff]
    simp only [except_bind_eq_ok, except_pure_eq_ok, ih]
    constructor
    · rintro ⟨b, hb, rest, hrest, rfl⟩
      exact ⟨b, rest, hb, hrest, rfl⟩
    · rintro ⟨b, rest, hb, hrest, rfl⟩
      exact ⟨b, hb, rest, hrest, rfl⟩

/-- Each answer is the answer for some element. -/
theorem except_mapM_mem (h : xs.mapM f = .ok bs) {b : β} (hb : b ∈ bs) : ∃ x ∈ xs, f x = .ok b := by
  rw [except_mapM_eq_ok] at h
  induction h with
  | nil => simp at hb
  | @cons x _ _ _ hx _ ih =>
    rcases List.mem_cons.mp hb with rfl | hb
    · exact ⟨x, by simp, hx⟩
    · obtain ⟨y, hy, hfy⟩ := ih hb
      exact ⟨y, by simp [hy], hfy⟩

/-- Each element has its answer among them. -/
theorem except_mapM_of_mem (h : xs.mapM f = .ok bs) {x : α} (hx : x ∈ xs) : ∃ b ∈ bs, f x = .ok b := by
  rw [except_mapM_eq_ok] at h
  induction h with
  | nil => simp at hx
  | @cons _ b _ _ hb _ ih =>
    rcases List.mem_cons.mp hx with rfl | hx
    · exact ⟨b, by simp, hb⟩
    · obtain ⟨b', hb', hfx⟩ := ih hx
      exact ⟨b', by simp [hb'], hfx⟩

/-- Elements that all have an answer are answered together. -/
theorem except_mapM_exists (h : ∀ x ∈ xs, ∃ b, f x = .ok b) :
    ∃ bs, xs.mapM f = .ok bs := by
  induction xs with
  | nil => exact ⟨[], rfl⟩
  | cons x xs ih =>
    obtain ⟨b, hb⟩ := h x (by simp)
    obtain ⟨bs, hbs⟩ := ih fun y hy => h y (by simp [hy])
    exact ⟨b :: bs, by simp [List.mapM_cons, hb, hbs]⟩

end Queries

/-! ## Inversion -/

@[simp] theorem bind_eq_ok {s'' : σ} :
    (x >>= f) s = .ok (b, s'') ↔ ∃ a s', x s = .ok (a, s') ∧ f a s' = .ok (b, s'') := by
  simp only [bind, StateT.bind, Except.bind]
  cases h : x s with
  | error e => simp
  | ok r =>
    obtain ⟨a, s'⟩ := r
    simp only [Except.ok.injEq, Prod.mk.injEq]
    exact ⟨fun hf => ⟨a, s', ⟨rfl, rfl⟩, hf⟩, by rintro ⟨_, _, ⟨rfl, rfl⟩, hf⟩; exact hf⟩

@[simp] theorem pure_eq_ok {b : α} :
    (pure a : Txn σ ε α) s = .ok (b, s') ↔ a = b ∧ s = s' := by
  change Except.ok (a, s) = .ok (b, s') ↔ _
  simp

@[simp] theorem read_eq_ok :
    read query s = .ok (a, s') ↔ query s = .ok a ∧ s = s' := by
  unfold read
  cases h : query s <;> simp

@[simp] theorem write_eq_ok {statement : σ → Except ε σ} {u : Unit} :
    write statement s = .ok (u, s') ↔ statement s = .ok s' := by
  unfold write
  cases h : statement s <;> simp

@[simp] theorem abort_eq_ok :
    (abort e : Txn σ ε α) s = .ok (a, s') ↔ False := by
  simp [abort]

@[simp] theorem require_eq_ok {u : Unit} :
    require c e s = .ok (u, s') ↔ c = true ∧ s = s' := by
  unfold require
  cases c <;> simp

/-- A query followed by more: the rest runs on the same store. -/
theorem read_bind_eq_ok :
    (read query >>= f) s = .ok (b, s') ↔ ∃ a, query s = .ok a ∧ f a s = .ok (b, s') := by
  rw [bind_eq_ok]
  constructor
  · rintro ⟨a, mid, hread, hrest⟩
    obtain ⟨hquery, rfl⟩ := read_eq_ok.mp hread
    exact ⟨a, hquery, hrest⟩
  · rintro ⟨a, hquery, hrest⟩
    exact ⟨a, s, read_eq_ok.mpr ⟨hquery, rfl⟩, hrest⟩

/-- A query followed by more fails in the query or in the rest. -/
theorem read_bind_of_ok (h : query s = .ok a) : (read query >>= f) s = f a s := by
  simp [bind, StateT.bind, Except.bind, read, h]

theorem read_bind_eq_error :
    (read query >>= f) s = .error e ↔
      query s = .error e ∨ ∃ a, query s = .ok a ∧ f a s = .error e := by
  cases h : query s <;> simp [read, bind, StateT.bind, Except.bind, h]

/-- A guard followed by more: the rest runs on the same store. -/
theorem require_bind_eq_ok {f : Unit → Txn σ ε β} :
    (require c e >>= f) s = .ok (b, s') ↔ c = true ∧ f () s = .ok (b, s') := by
  rw [bind_eq_ok]
  constructor
  · rintro ⟨⟨⟩, mid, hrequire, hrest⟩
    obtain ⟨hc, rfl⟩ := require_eq_ok.mp hrequire
    exact ⟨hc, hrest⟩
  · rintro ⟨hc, hrest⟩
    exact ⟨(), s, require_eq_ok.mpr ⟨hc, rfl⟩, hrest⟩

theorem require_bind_of_true {f : Unit → Txn σ ε β} (h : c = true) :
    (require c e >>= f) s = f () s := by
  subst h
  rfl

theorem map_eq_ok {f : α → β} :
    (f <$> body) s = .ok (b, s') ↔ ∃ a, body s = .ok (a, s') ∧ f a = b := by
  simp only [Functor.map, StateT.map, bind, Except.bind, pure, Except.pure]
  cases h : body s with
  | error e => simp
  | ok r =>
    obtain ⟨a, mid⟩ := r
    simp only [Except.ok.injEq, Prod.mk.injEq]
    exact ⟨fun ⟨hf, hs⟩ => ⟨a, ⟨rfl, hs⟩, hf⟩, by rintro ⟨_, ⟨rfl, hs⟩, hf⟩; exact ⟨hf, hs⟩⟩

@[simp] theorem mapError_eq_ok {f : ε → ε'} :
    mapError f body s = .ok (a, s') ↔ body s = .ok (a, s') := by
  unfold mapError
  cases h : body s <;> simp

/-- A loop of queries. -/
theorem forM_read_eq_ok {query : β → σ → Except ε PUnit} {bs : List β} {u : PUnit} :
    ForM.forM bs (fun b => read (query b)) s = .ok (u, s') ↔
      (∀ b ∈ bs, query b s = .ok ⟨⟩) ∧ s = s' := by
  induction bs with
  | nil => rw [List.forM_nil]; simp
  | cons b bs ih =>
    rw [List.forM_cons, read_bind_eq_ok, List.forall_mem_cons, and_assoc]
    constructor
    · rintro ⟨⟨⟩, hb, hrest⟩
      exact ⟨hb, ih.mp hrest⟩
    · rintro ⟨hb, hrest⟩
      exact ⟨⟨⟩, hb, ih.mpr hrest⟩

theorem transact_eq_ok :
    transact body s = (.ok a, s') ↔ body s = .ok (a, s') := by
  unfold transact
  cases h : body s with
  | error e => simp
  | ok r => simp [Prod.ext_iff]

theorem map_eq_error {f : α → β} {m : Txn σ ε α} :
    (f <$> m) s = .error e ↔ m s = .error e := by
  cases h : m s <;> simp [Functor.map, StateT.map, bind, Except.bind, pure, Except.pure, h]

theorem transact_eq_error :
    transact body s = (.error e, s) ↔ body s = .error e := by
  unfold transact
  cases body s <;> simp

/-- An aborted transaction leaves the store as it was. -/
theorem transact_error (h : transact body s = (.error e, s')) : s' = s := by
  unfold transact at h
  cases hb : body s with
  | error e' => simp only [hb, Prod.mk.injEq] at h; exact h.2.symm
  | ok r => simp [hb] at h

/-! ## Congruence

Two bodies agree on a store when their steps agree on the stores they reach. -/

theorem bind_congr_at {f' : α → Txn σ ε β} (hx : x s = x' s)
    (hf : ∀ a s', x s = .ok (a, s') → f a s' = f' a s') : (x >>= f) s = (x' >>= f') s := by
  simp only [bind, StateT.bind, Except.bind, ← hx]
  cases h : x s with
  | error e => rfl
  | ok r => exact hf r.1 r.2 h

theorem read_bind_congr {f' : α → Txn σ ε β}
    (hf : ∀ a, query s = .ok a → f a s = f' a s) : (read query >>= f) s = (read query >>= f') s := by
  refine bind_congr_at rfl fun a s' h => ?_
  obtain ⟨hquery, rfl⟩ := read_eq_ok.mp h
  exact hf a hquery

theorem require_bind_congr {f f' : Unit → Txn σ ε β}
    (hf : c = true → f () s = f' () s) : (require c e >>= f) s = (require c e >>= f') s := by
  refine bind_congr_at rfl fun a s' h => ?_
  obtain ⟨hc, rfl⟩ := require_eq_ok.mp h
  exact hf hc

theorem map_congr_at {f : α → β} (hx : x s = x' s) :
    (f <$> x) s = (f <$> x') s := by
  simp only [Functor.map, StateT.map, bind, Except.bind, hx]

theorem mapError_congr_at {f : ε → ε'} (hx : x s = x' s) :
    mapError f x s = mapError f x' s := by
  simp only [mapError, hx]

/-! ## The frame rule -/

/-- Every successful run of the body relates the store before to the store
after. -/
def Within (r : σ → σ → Prop) (body : Txn σ ε α) : Prop :=
  ∀ s a s', body s = .ok (a, s') → r s s'

/-- The store agrees with itself on a view of it. -/
def Same (view : σ → β) (s s' : σ) : Prop := view s' = view s

instance (view : σ → β) : Std.Refl (Same view) := ⟨fun _ => rfl⟩

instance (view : σ → β) : IsTrans σ (Same view) := ⟨fun _ _ _ h h' => h'.trans h⟩

namespace Within

variable {r : σ → σ → Prop} {f : β → Txn σ ε PUnit} {bs : List β} {s : σ}

theorem bind [IsTrans σ r] {x : Txn σ ε α} {f : α → Txn σ ε β}
    (hx : Within r x) (hf : ∀ a, Within r (f a)) : Within r (x >>= f) := by
  intro s b s'' h
  obtain ⟨a, s', h₁, h₂⟩ := bind_eq_ok.mp h
  exact trans_of r (hx s a s' h₁) (hf a s' b s'' h₂)

theorem mono {r' : σ → σ → Prop} {x : Txn σ ε α} (hx : Within r x)
    (h : ∀ s s', r s s' → r' s s') : Within r' x :=
  fun s a s' hrun => h s s' (hx s a s' hrun)

theorem pure [Std.Refl r] (a : α) : Within r (Pure.pure a : Txn σ ε α) := by
  intro s b s' h
  obtain ⟨-, rfl⟩ := pure_eq_ok.mp h
  exact refl_of r s

theorem read [Std.Refl r] (query : σ → Except ε α) : Within r (read query) := by
  intro s a s' h
  obtain ⟨-, rfl⟩ := read_eq_ok.mp h
  exact refl_of r s

/-- What follows a query runs on an answer of the query. -/
theorem read_bind {query : σ → Except ε α} {f : α → Txn σ ε β}
    (hf : ∀ a s, query s = .ok a → Within r (f a)) : Within r (Transaction.read query >>= f) := by
  intro s b s' h
  obtain ⟨a, hquery, hrest⟩ := read_bind_eq_ok.mp h
  exact hf a s hquery s b s' hrest

theorem write {statement : σ → Except ε σ} (h : ∀ s s', statement s = .ok s' → r s s') :
    Within r (write statement) := by
  intro s u s' hw
  exact h s s' (write_eq_ok.mp hw)

theorem abort (e : ε) : Within r (abort e : Txn σ ε α) := by
  intro s a s' h
  exact (abort_eq_ok.mp h).elim

theorem require [Std.Refl r] (c : Bool) (e : ε) : Within r (require c e) := by
  intro s u s' h
  obtain ⟨-, rfl⟩ := require_eq_ok.mp h
  exact refl_of r s

/-- A loop whose body stays within a preorder for its elements stays within it. -/
theorem forM_of_mem [Std.Refl r] [IsTrans σ r]
    (hf : ∀ b ∈ bs, Within r (f b)) : Within r (ForM.forM bs f) := by
  induction bs with
  | nil => exact pure _
  | cons b bs ih =>
    rw [List.forM_cons]
    exact bind (hf b (by simp)) fun _ => ih fun c hc => hf c (by simp [hc])

theorem forM [Std.Refl r] [IsTrans σ r] (hf : ∀ b, Within r (f b))
    (bs : List β) : Within r (ForM.forM bs f) :=
  forM_of_mem fun b _ => hf b

/-- A loop that ran to its end ran its body for each element, between the stores it
started and ended in. -/
theorem forM_step_of_mem [Std.Refl r] [IsTrans σ r]
    (hf : ∀ b ∈ bs, Within r (f b)) {s' : σ} {u : PUnit}
    (h : ForM.forM bs f s = .ok (u, s')) {b : β} (hb : b ∈ bs) :
    ∃ s₁ s₂, r s s₁ ∧ f b s₁ = .ok (⟨⟩, s₂) ∧ r s₂ s' := by
  induction bs generalizing s with
  | nil => cases hb
  | cons c bs ih =>
    have htail := fun c hc => hf c (List.mem_cons_of_mem _ hc)
    rw [List.forM_cons] at h
    obtain ⟨_, mid, hstep, hrest⟩ := bind_eq_ok.mp h
    rcases List.mem_cons.mp hb with rfl | hb
    · exact ⟨s, mid, refl_of r s, hstep, forM_of_mem htail mid u s' hrest⟩
    · obtain ⟨s₁, s₂, h₁, h, h₂⟩ := ih htail hrest hb
      exact ⟨s₁, s₂, trans_of r (hf c (by simp) s _ mid hstep) h₁, h, h₂⟩

theorem forM_step [Std.Refl r] [IsTrans σ r] (hf : ∀ b, Within r (f b)) {s' : σ} {u : PUnit}
    (h : ForM.forM bs f s = .ok (u, s')) {b : β} (hb : b ∈ bs) :
    ∃ s₁ s₂, r s s₁ ∧ f b s₁ = .ok (⟨⟩, s₂) ∧ r s₂ s' :=
  forM_step_of_mem (fun b _ => hf b) h hb

/-- A loop runs to its end when each element's body does and does not undo what the
others need. -/
theorem exists_forM [Std.Refl r] [IsTrans σ r] {A : β → σ → Prop}
    (hstable : ∀ b s s', r s s' → A b s → A b s')
    (hstep : ∀ b s, A b s → ∃ s', f b s = .ok (⟨⟩, s') ∧ r s s')
    (h : ∀ b ∈ bs, A b s) : ∃ s', ForM.forM bs f s = .ok (⟨⟩, s') ∧ r s s' := by
  induction bs generalizing s with
  | nil => exact ⟨s, rfl, refl_of r s⟩
  | cons c bs ih =>
    obtain ⟨mid, hmid, hr⟩ := hstep c s (h c (by simp))
    obtain ⟨s', hrest, hr'⟩ := ih fun b hb => hstable b s mid hr (h b (by simp [hb]))
    refine ⟨s', ?_, trans_of r hr hr'⟩
    rw [List.forM_cons]
    exact bind_eq_ok.mpr ⟨_, mid, hmid, hrest⟩

/-- A committed transaction moved the store within the relation; an aborted
one did not move it. -/
theorem transact [Std.Refl r] {body : Txn σ ε α} (h : Within r body) (s : σ) :
    r s (transact body s).2 := by
  unfold Transaction.transact
  cases hb : body s with
  | error e => exact refl_of r s
  | ok p => exact h s p.1 p.2 hb

end Within

end Transaction
