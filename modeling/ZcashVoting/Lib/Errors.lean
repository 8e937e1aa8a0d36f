import ZcashVoting.Lib.Transaction

/-!
# Lib.Errors

Which errors a computation can fail with.  `Avoids bad x` says that the query `x` does
not fail with a bad error, and `Spares bad body` that a transaction body does not,
whatever store it runs on; one rule per primitive carries both through a program.
-/

namespace Transaction

variable {σ ε α β : Type} {bad : ε → Prop}

/-- The query does not fail with a bad error. -/
def Avoids (bad : ε → Prop) (x : Except ε α) : Prop := ∀ e, x = .error e → ¬ bad e

namespace Avoids

theorem ok (a : α) : Avoids bad (.ok a) := by
  intro e h
  cases h

theorem pure (a : α) : Avoids bad (Pure.pure a : Except ε α) := ok a

theorem error {e : ε} (he : ¬ bad e) : Avoids bad (.error e : Except ε α) := by
  intro e' h
  cases h
  exact he

theorem check {c : Bool} {e : ε} (he : ¬ bad e) : Avoids bad (check c e) := by
  cases c
  · exact error he
  · exact ok ()

theorem bind {x : Except ε α} {f : α → Except ε β} (hx : Avoids bad x)
    (hf : ∀ a, x = .ok a → Avoids bad (f a)) : Avoids bad (x >>= f) := by
  intro e h
  obtain h | ⟨a, ha, h⟩ := except_bind_eq_error.mp h
  · exact hx e h
  · exact hf a ha e h

theorem map {x : Except ε α} (hx : Avoids bad x) (f : α → β) : Avoids bad (x.map f) := by
  cases x with
  | ok a => exact ok (f a)
  | error e => exact error (hx e rfl)

theorem mapM {f : α → Except ε β} {xs : List α} (hf : ∀ x ∈ xs, Avoids bad (f x)) :
    Avoids bad (xs.mapM f) := by
  induction xs with
  | nil => exact pure []
  | cons x xs ih =>
    rw [List.mapM_cons]
    refine (hf x (by simp)).bind fun b _ => ?_
    exact (ih fun y hy => hf y (by simp [hy])).bind fun bs _ => pure _

theorem foldlM {f : β → α → Except ε β} {xs : List α} {b : β}
    (hf : ∀ x ∈ xs, ∀ b, Avoids bad (f b x)) : Avoids bad (xs.foldlM f b) := by
  induction xs generalizing b with
  | nil => exact pure b
  | cons x xs ih =>
    rw [List.foldlM_cons]
    exact (hf x (by simp) b).bind fun _ _ => ih fun y hy => hf y (by simp [hy])

end Avoids

/-- The body does not abort with a bad error on any store. -/
def Spares (bad : ε → Prop) (body : Txn σ ε α) : Prop := ∀ s, Avoids bad (body s)

namespace Spares

theorem pure (a : α) : Spares bad (Pure.pure a : Txn σ ε α) := fun _ => .ok _

theorem abort {e : ε} (he : ¬ bad e) : Spares bad (abort e : Txn σ ε α) := fun _ => .error he

theorem read {query : σ → Except ε α} (h : ∀ s, Avoids bad (query s)) :
    Spares bad (read query) := by
  intro s
  unfold Transaction.read
  cases hq : query s with
  | ok a => exact .ok _
  | error e => exact .error (h s e hq)

theorem write {statement : σ → Except ε σ} (h : ∀ s, Avoids bad (statement s)) :
    Spares bad (write statement) := by
  intro s
  unfold Transaction.write
  cases hq : statement s with
  | ok s' => exact .ok _
  | error e => exact .error (h s e hq)

theorem bind {x : Txn σ ε α} {f : α → Txn σ ε β} (hx : Spares bad x) (hf : ∀ a, Spares bad (f a)) :
    Spares bad (x >>= f) := fun s => (hx s).bind fun p _ => hf p.1 p.2

theorem forM {f : β → Txn σ ε PUnit} {bs : List β} (hf : ∀ b ∈ bs, Spares bad (f b)) :
    Spares bad (ForM.forM bs f) := by
  induction bs with
  | nil => exact pure _
  | cons b bs ih =>
    rw [List.forM_cons]
    exact (hf b (by simp)).bind fun _ => ih fun c hc => hf c (by simp [hc])

end Spares

end Transaction
