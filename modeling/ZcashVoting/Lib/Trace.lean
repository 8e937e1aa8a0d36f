import Mathlib.Logic.Basic

/-!
# Lib.Trace

Runs of a labelled transition system.  `Reachable.invariant` carries what every step keeps to
all reachable states, and `Run.unless` carries along a run what steps keep as long as a
condition holds and no label of some kind is taken.  `Run.since` finds the step since which a
condition holds.
-/

namespace Trace

variable {σ ε : Type}

/-- A run: the labels taken, each with the state that it leads to. -/
inductive Run (step : σ → ε → σ → Prop) : σ → List (ε × σ) → σ → Prop where
  | nil (s : σ) : Run step s [] s
  | cons {s s' t : σ} {e : ε} {es : List (ε × σ)} :
      step s e s' → Run step s' es t → Run step s ((e, s') :: es) t

/-- The states that runs from an initial state lead to. -/
inductive Reachable (init : σ → Prop) (step : σ → ε → σ → Prop) : σ → Prop where
  | init {s : σ} : init s → Reachable init step s
  | step {s t : σ} {e : ε} : Reachable init step s → step s e t → Reachable init step t

variable {init : σ → Prop} {step : σ → ε → σ → Prop} {s t : σ} {es : List (ε × σ)}

theorem Reachable.invariant {I : σ → Prop} (hinit : ∀ s, init s → I s)
    (hstep : ∀ s e t, I s → step s e t → I t) (h : Reachable init step s) : I s := by
  induction h with
  | init hs => exact hinit _ hs
  | step _ hs ih => exact hstep _ _ _ ih hs

theorem Reachable.run (h : Reachable init step s) (hrun : Run step s es t) :
    Reachable init step t := by
  induction hrun with
  | nil => exact h
  | cons hstep _ ih => exact ih (h.step hstep)

theorem Run.invariant {I : σ → Prop} (hstep : ∀ s e t, I s → step s e t → I t)
    (h : Run step s es t) (hs : I s) : I t := by
  induction h with
  | nil => exact hs
  | cons hfirst _ ih => exact ih (hstep _ _ _ hs hfirst)

theorem Run.append {es' : List (ε × σ)} {t' : σ} (h : Run step s es t) (h' : Run step t es' t') :
    Run step s (es ++ es') t' := by
  induction h with
  | nil => exact h'
  | cons hstep _ ih => exact .cons hstep (ih h')

/-- What steps keep while `during` holds and no label in `stop` is taken. -/
theorem Run.unless (P during : σ → Prop) (stop : ε → Prop)
    (hstep : ∀ s e t, step s e t → during s → during t → ¬ stop e → P s → P t)
    (h : Run step s es t) (hstart : during s) (hduring : ∀ x ∈ es, during x.2)
    (hstop : ∀ x ∈ es, ¬ stop x.1) (hs : P s) : P t ∧ during t := by
  induction h with
  | nil s => exact ⟨hs, hstart⟩
  | cons hfirst hrest ih =>
    rw [List.forall_mem_cons] at hduring hstop
    exact ih hduring.1 hduring.2 hstop.2
      (hstep _ _ _ hfirst hstart hduring.1 hstop.1 hs)

/-- The last step of a run that makes `Q` true. -/
def Since (step : σ → ε → σ → Prop) (Q : σ → Prop) (s : σ) (es : List (ε × σ)) (t : σ) : Prop :=
  ∃ es₁ e es₂ before after, es = es₁ ++ (e, after) :: es₂ ∧ Run step s es₁ before ∧
    step before e after ∧ ¬ Q before ∧ Run step after es₂ t ∧ Q after ∧ ∀ x ∈ es₂, Q x.2

theorem Since.cons {Q : σ → Prop} {s' : σ} {e : ε} (hfirst : step s e s')
    (h : Since step Q s' es t) : Since step Q s ((e, s') :: es) t := by
  obtain ⟨es₁, e', es₂, before, after, rfl, hrun, hlast⟩ := h
  exact ⟨(e, s') :: es₁, e', es₂, before, after, rfl, .cons hfirst hrun, hlast⟩

/-- What holds at the end of a run holds throughout it or since some step. -/
theorem Run.throughout_or_since (Q : σ → Prop) (h : Run step s es t) (ht : Q t) :
    (Q s ∧ ∀ x ∈ es, Q x.2) ∨ Since step Q s es t := by
  induction h with
  | nil s => exact .inl ⟨ht, by simp⟩
  | @cons s s' t e es hfirst hrest ih =>
    rcases ih ht with ⟨hs', hes⟩ | hsince
    · by_cases hs : Q s
      · exact .inl ⟨hs, List.forall_mem_cons.mpr ⟨hs', hes⟩⟩
      · exact .inr ⟨[], e, es, s, s', rfl, .nil s, hfirst, hs, hrest, hs', hes⟩
    · exact .inr (hsince.cons hfirst)

theorem Run.since (Q : σ → Prop) (h : Run step s es t) (hs : ¬ Q s) (ht : Q t) :
    Since step Q s es t :=
  (h.throughout_or_since Q ht).resolve_left fun hthroughout => hs hthroughout.1

/-- What every step keeps holds before and after each label. -/
theorem Run.forall_step {I : σ → Prop} {Q : σ → ε → σ → Prop}
    (hstep : ∀ s e t, I s → step s e t → I t ∧ Q s e t) (h : Run step s es t) (hs : I s) :
    I t ∧ ∀ x ∈ es, ∃ before, Q before x.1 x.2 := by
  induction h with
  | nil s => exact ⟨hs, by simp⟩
  | cons hfirst hrest ih =>
    obtain ⟨hI, hQ⟩ := hstep _ _ _ hs hfirst
    obtain ⟨hI, hQs⟩ := ih hI
    exact ⟨hI, List.forall_mem_cons.mpr ⟨⟨_, hQ⟩, hQs⟩⟩

end Trace
