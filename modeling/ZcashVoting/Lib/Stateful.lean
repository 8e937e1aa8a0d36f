import Mathlib.Init

/-!
# Lib.Stateful

Calls on a state that is kept when the call fails.  `Ends` says how a call ends from a state,
well or badly; its rules follow the way calls are put together.
-/

namespace Stateful

variable {ε σ α β : Type} {call : EStateM ε σ α} {next : α → EStateM ε σ β} {s s' : σ}

theorem bind_of_ok {a : α} (h : call s = .ok a s') : (call >>= next) s = next a s' := by
  change EStateM.bind call next s = _
  rw [EStateM.bind, h]

theorem bind_of_error {e : ε} (h : call s = .error e s') : (call >>= next) s = .error e s' := by
  change EStateM.bind call next s = _
  rw [EStateM.bind, h]

theorem bind_eq_ok {b : β} (h : (call >>= next) s = .ok b s') :
    ∃ a s₁, call s = .ok a s₁ ∧ next a s₁ = .ok b s' := by
  change EStateM.bind call next s = _ at h
  rw [EStateM.bind] at h
  split at h
  · next a s₁ hcall => exact ⟨a, s₁, hcall, h⟩
  · cases h

/-- The state in which a call ends. -/
def after (call : EStateM ε σ α) (s : σ) : σ :=
  match call s with
  | .ok _ s' => s'
  | .error _ s' => s'

/-- The call ends well with the one, or badly with the other. -/
def Ends (call : EStateM ε σ α) (s : σ) (ok : α → σ → Prop) (bad : ε → σ → Prop) : Prop :=
  match call s with
  | .ok a s' => ok a s'
  | .error e s' => bad e s'

instance (call : EStateM ε σ α) (s : σ) (ok : α → σ → Prop) (bad : ε → σ → Prop)
    [∀ a s, Decidable (ok a s)] [∀ e s, Decidable (bad e s)] : Decidable (Ends call s ok bad) :=
  match hcall : call s with
  | .ok a s' => decidable_of_iff (ok a s') (by unfold Ends; rw [hcall])
  | .error e s' => decidable_of_iff (bad e s') (by unfold Ends; rw [hcall])

namespace Ends

variable {call : EStateM ε σ α} {next : α → EStateM ε σ β} {s : σ} {ok ok' : α → σ → Prop}
  {okNext : β → σ → Prop} {bad bad' : ε → σ → Prop}

theorem pure {a : α} (h : ok a s) : Ends (Pure.pure a : EStateM ε σ α) s ok bad := h

theorem throw {e : ε} (h : bad e s) : Ends (throw e : EStateM ε σ α) s ok bad := h

theorem get {ok : σ → σ → Prop} (h : ok s s) : Ends (get : EStateM ε σ σ) s ok bad := h

theorem set {ok : PUnit → σ → Prop} {s' : σ} (h : ok ⟨⟩ s') :
    Ends (set s' : EStateM ε σ PUnit) s ok bad := h

theorem bind (h : Ends call s (fun a s' => Ends (next a) s' okNext bad) bad) :
    Ends (call >>= next) s okNext bad := by
  unfold Ends at h ⊢
  cases hcall : call s with
  | ok a s' =>
    rw [hcall] at h
    rw [bind_of_ok hcall]
    exact h
  | error e s' =>
    rw [hcall] at h
    rw [bind_of_error hcall]
    exact h

theorem mono (h : Ends call s ok bad) (hok : ∀ a s', ok a s' → ok' a s')
    (hbad : ∀ e s', bad e s' → bad' e s') : Ends call s ok' bad' := by
  unfold Ends at h ⊢
  split
  · next hcall =>
    rw [hcall] at h
    exact hok _ _ h
  · next hcall =>
    rw [hcall] at h
    exact hbad _ _ h

/-- A call ends as each of two facts about it says. -/
theorem and (h : Ends call s ok bad) (h' : Ends call s ok' bad') :
    Ends call s (fun a s' => ok a s' ∧ ok' a s') (fun e s' => bad e s' ∧ bad' e s') := by
  unfold Ends at h h' ⊢
  cases hcall : call s with
  | ok a s' =>
    rw [hcall] at h h'
    exact ⟨h, h'⟩
  | error e s' =>
    rw [hcall] at h h'
    exact ⟨h, h'⟩

theorem of_ok {a : α} {s' : σ} (h : Ends call s ok bad) (hcall : call s = .ok a s') : ok a s' := by
  rw [Ends, hcall] at h
  exact h

theorem of_error {e : ε} {s' : σ} (h : Ends call s ok bad) (hcall : call s = .error e s') :
    bad e s' := by
  rw [Ends, hcall] at h
  exact h

theorem eq_ok_after {call : EStateM ε σ Unit} {ok : Unit → σ → Prop}
    (h : Ends call s ok fun _ _ => False) : call s = .ok () (after call s) := by
  unfold Ends at h
  unfold after
  split at h
  · next hcall => rw [hcall]
  · exact h.elim

/-- What holds however the call ends holds of the state in which it ends. -/
theorem holds_after {P : σ → Prop} (h : Ends call s (fun _ => P) fun _ => P) :
    P (after call s) := by
  unfold Ends at h
  unfold after
  split <;> simp_all

end Ends

/-- However the call ends, a property of the state is kept. -/
def Keeps (P : σ → Prop) (call : EStateM ε σ α) : Prop :=
  ∀ s, P s → Ends call s (fun _ => P) (fun _ => P)

namespace Keeps

variable {P : σ → Prop} {call : EStateM ε σ α} {next : α → EStateM ε σ β}

theorem pure (a : α) : Keeps P (Pure.pure a : EStateM ε σ α) := fun _ h => h

theorem throw (e : ε) : Keeps P (throw e : EStateM ε σ α) := fun _ h => h

theorem bind (hcall : Keeps P call) (hnext : ∀ a, Keeps P (next a)) : Keeps P (call >>= next) :=
  fun s h => Ends.bind ((hcall s h).mono (fun a s' h' => hnext a s' h') fun _ _ h' => h')

/-- The state is read, and then there is a call from that very state. -/
theorem get_bind {next : σ → EStateM ε σ β}
    (h : ∀ s, P s → Ends (next s) s (fun _ => P) (fun _ => P)) : Keeps P (get >>= next) :=
  fun s hs => Ends.bind (Ends.get (h s hs))

end Keeps

end Stateful
