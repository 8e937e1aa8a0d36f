import Mathlib.Init

/-!
# Lib.Simulation

A machine that answers operations simulates another one: from related states, an operation
that the guard lets through gets the same answer from both and leaves related states.  Then
whole runs get the same answers.
-/

namespace Simulation

variable {σ τ ι ο : Type}

/-- The answers to operations in turn, and the state in the end. -/
def run (step : σ → ι → ο × σ) : σ → List ι → List ο × σ
  | s, [] => ([], s)
  | s, op :: ops =>
    let (answer, s') := step s op
    let (answers, final) := run step s' ops
    (answer :: answers, final)

/-- The guard lets every operation through in the state it meets. -/
def Guarded (step : τ → ι → ο × τ) (guard : τ → ι → Prop) : τ → List ι → Prop
  | _, [] => True
  | t, op :: ops => guard t op ∧ Guarded step guard (step t op).2 ops

/-- One operation is answered alike, and keeps the relation. -/
def Simulates (step : σ → ι → ο × σ) (spec : τ → ι → ο × τ) (guard : τ → ι → Prop)
    (rel : σ → τ → Prop) : Prop :=
  ∀ s t op, rel s t → guard t op →
    (step s op).1 = (spec t op).1 ∧ rel (step s op).2 (spec t op).2

/-- A run is answered alike. -/
theorem Simulates.run_eq {step : σ → ι → ο × σ} {spec : τ → ι → ο × τ} {guard : τ → ι → Prop}
    {rel : σ → τ → Prop} (h : Simulates step spec guard rel) {s : σ} {t : τ} {ops : List ι}
    (hrel : rel s t) (hguard : Guarded spec guard t ops) :
    (run step s ops).1 = (run spec t ops).1 ∧ rel (run step s ops).2 (run spec t ops).2 := by
  induction ops generalizing s t with
  | nil => exact ⟨rfl, hrel⟩
  | cons op ops ih =>
    obtain ⟨hanswer, hnext⟩ := h s t op hrel hguard.1
    obtain ⟨hanswers, hfinal⟩ := ih hnext hguard.2
    exact ⟨by simp only [run, hanswer, hanswers], hfinal⟩

end Simulation
