import Mathlib.Logic.Basic
import Mathlib.Order.Defs.Unbundled

/-!
# Lib.Interaction

Programs that call an environment.

A `Prog` returns, fails, or calls an operation and continues with its answer.  The environment
is a function `react` that answers an operation in a world and says which world it leaves.
`Prog.run` runs a program to its end, with the calls it made, and `Concludes` states what holds
of such a run; it is closed under the program combinators (`Concludes.bind`, `Concludes.call`,
…), so a program is verified along its own structure.
-/

namespace Interaction

variable {Op : Type} {Ans : Op → Type} {ε α β W : Type}

/-- A program that calls operations `Op`, the call of `o` being answered by an
`Ans o`, and that ends with an `α` or fails with an `ε`. -/
inductive Prog (Op : Type) (Ans : Op → Type) (ε α : Type) where
  | ret (value : α)
  | fail (error : ε)
  | call (op : Op) (next : Ans op → Prog Op Ans ε α)

namespace Prog

/-- Run a program, then continue with its result; a failure is final. -/
def bind : Prog Op Ans ε α → (α → Prog Op Ans ε β) → Prog Op Ans ε β
  | .ret a, f => f a
  | .fail e, _ => .fail e
  | .call o k, f => .call o fun a => (k a).bind f

instance : Monad (Prog Op Ans ε) where
  pure := .ret
  bind := .bind

/-- Call one operation and return its answer. -/
def perform (o : Op) : Prog Op Ans ε (Ans o) := .call o .ret

end Prog

/-! ## Running a program to its end -/

section Running

/-- An answered call. -/
abbrev Call (Op : Type) (Ans : Op → Type) : Type := (o : Op) × Ans o

/-- Run a program to its end, each call answered by `react`: the calls in their order, the world
they leave, and the result. -/
def Prog.run (react : W → (o : Op) → Ans o × W) :
    Prog Op Ans ε α → W → List (Call Op Ans) × W × Except ε α
  | .ret a, w => ([], w, .ok a)
  | .fail e, w => ([], w, .error e)
  | .call o k, w =>
    let rest := (k (react w o).1).run react (react w o).2
    (⟨o, (react w o).1⟩ :: rest.1, rest.2)

/-- The run ends, and `Q` holds of its calls, the world they leave and its result. -/
def Concludes (react : W → (o : Op) → Ans o × W) (p : Prog Op Ans ε α) (w : W)
    (Q : List (Call Op Ans) → W → Except ε α → Prop) : Prop :=
  Q (p.run react w).1 (p.run react w).2.1 (p.run react w).2.2

namespace Concludes

variable {react : W → (o : Op) → Ans o × W} {p : Prog Op Ans ε α} {w : W}
  {Q Q' : List (Call Op Ans) → W → Except ε α → Prop}

theorem ret {a : α} (h : Q [] w (.ok a)) : Concludes react (pure a : Prog Op Ans ε α) w Q := h

theorem call {o : Op} {k : Ans o → Prog Op Ans ε α}
    (h : Concludes react (k (react w o).1) (react w o).2
      fun calls => Q (⟨o, (react w o).1⟩ :: calls)) : Concludes react (.call o k) w Q := h

theorem mono (h : Concludes react p w Q)
    (hQ : ∀ calls w' result, Q calls w' result → Q' calls w' result) :
    Concludes react p w Q' := hQ _ _ _ h

theorem bind {f : α → Prog Op Ans ε β} {R : List (Call Op Ans) → W → Except ε β → Prop}
    (hp : Concludes react p w Q)
    (hf : ∀ calls w' a, Q calls w' (.ok a) →
      Concludes react (f a) w' fun later => R (calls ++ later))
    (he : ∀ calls w' e, Q calls w' (.error e) → R calls w' (.error e)) :
    Concludes react (p >>= f) w R := by
  induction p generalizing w Q R with
  | ret a => exact hf [] w a hp
  | fail e => exact he [] w e hp
  | call o k ih =>
    refine call (ih _ (Q := fun calls => Q (⟨o, (react w o).1⟩ :: calls)) hp ?_ ?_)
    · exact fun calls w' a h => hf (⟨o, (react w o).1⟩ :: calls) w' a h
    · exact fun calls w' e h => he (⟨o, (react w o).1⟩ :: calls) w' e h

end Concludes

end Running

end Interaction
