import ZcashVoting.Lib.Trace
import ZcashVoting.Lib.WeakRegistry
import ZcashVoting.Types

/-!
# ZcashVoting.DelegationProof.SingleFlight

One proof of an identity at a time: `run_exclusively` runs an operation under a lock that is
looked up in a registry of weak references, and marks its thread so that an operation or a wait
callback that calls it again is turned away.

A lock object lives as long as a thread has a strong reference to it.  Threads interleave
between any two atomic actions, and both kinds of user code may panic; a poisoned lock is taken
like a free one.  What excludes two operations of one identity is that every thread which may
still hold its lock finds that lock registered.
-/

namespace ZcashVoting.DelegationProof

open Trace WeakRegistry

/-- `DelegationProofIdentity`. -/
structure DelegationProofIdentity where
  sidecarId : Nat
  walletId : String
  roundId : String
  bundleIndex : Nat
  deriving DecidableEq

/-- Where a thread is in `run_exclusively`. -/
inductive Phase where
  | idle
  /-- `ACTIVE_PROOF_IDENTITY` is set. -/
  | entered (identity : DelegationProofIdentity)
  /-- `proof_lock_for` has returned. -/
  | found (identity : DelegationProofIdentity) (lock : Nat)
  /-- In `on_wait`, or blocked on the lock after it. -/
  | waiting (identity : DelegationProofIdentity) (lock : Nat)
  /-- In `operation`, with the guard. -/
  | running (identity : DelegationProofIdentity) (lock : Nat)
  /-- `active_identity` is dropped. -/
  | unmarked (identity : DelegationProofIdentity) (lock : Nat)
  /-- `proof_guard` is dropped. -/
  | unlocked (identity : DelegationProofIdentity) (lock : Nat)
  /-- `remove_unused_lock` has returned. -/
  | forgotten (identity : DelegationProofIdentity) (lock : Nat)
  /-- A panic has dropped the guard, if there was one. -/
  | unwinding (identity : DelegationProofIdentity) (lock : Nat)
  /-- The panic has dropped the lock. -/
  | unwound (identity : DelegationProofIdentity)

namespace Phase

/-- User code runs, which may call `run_exclusively`. -/
def Calls : Phase → Prop
  | .idle | .waiting .. | .running .. => True
  | _ => False

/-- What the thread-local marker should be. -/
def marker : Phase → Option DelegationProofIdentity
  | .entered identity | .found identity _ | .waiting identity _ | .running identity _
  | .unwinding identity _ | .unwound identity => some identity
  | _ => none

/-- The lock of which the thread has the guard. -/
def guard : Phase → Option Nat
  | .running _ lock | .unmarked _ lock => some lock
  | _ => none

/-- The lock to which the thread has a strong reference. -/
def handle : Phase → Option Nat
  | .found _ lock | .waiting _ lock | .running _ lock | .unmarked _ lock | .unlocked _ lock
  | .forgotten _ lock | .unwinding _ lock => some lock
  | _ => none

/-- The lock that the thread relies on for its identity. -/
def bound : Phase → Option (DelegationProofIdentity × Nat)
  | .found identity lock | .waiting identity lock | .running identity lock
  | .unmarked identity lock | .unlocked identity lock => some (identity, lock)
  | _ => none

end Phase

/-- `DELEGATION_PROOF_LOCKS`, and of each thread its place and `ACTIVE_PROOF_IDENTITY`. -/
structure State (Thread : Type) where
  registry : DelegationProofIdentity → Option Nat
  /-- Locks are numbered as they are created. -/
  next : Nat
  phase : Thread → Phase
  active : Thread → Option DelegationProofIdentity

variable {Thread : Type} [DecidableEq Thread]

namespace State

def initial : State Thread := ⟨fun _ => none, 0, fun _ => .idle, fun _ => none⟩

/-- `strong_count() > 0`. -/
def Alive (s : State Thread) (lock : Nat) : Prop := ∃ t, (s.phase t).handle = some lock

/-- `Arc::strong_count(proof_lock) == 1`, seen by the thread that has the reference. -/
def Sole (s : State Thread) (t : Thread) (lock : Nat) : Prop :=
  ∀ t', (s.phase t').handle = some lock → t' = t

/-- No thread has the guard. -/
def Free (s : State Thread) (lock : Nat) : Prop := ∀ t, (s.phase t).guard ≠ some lock

/-- Move one thread. -/
def goto (s : State Thread) (t : Thread) (phase : Phase) : State Thread :=
  { s with phase := Function.update s.phase t phase }

/-- Set one thread's marker. -/
def mark (s : State Thread) (t : Thread) (active : Option DelegationProofIdentity) : State Thread :=
  { s with active := Function.update s.active t active }

end State

/-- The check at the start of `run_exclusively`. -/
def preflight (active : Option DelegationProofIdentity) (identity : DelegationProofIdentity) :
    Except VotingError Unit :=
  match active with
  | none => .ok ()
  | some own =>
    .error (.busy s!"delegation proof generation is already active on this thread for round {own.roundId} bundle {own.bundleIndex}; cannot enter round {identity.roundId} bundle {identity.bundleIndex}")

/-- One step of one thread. -/
inductive Step (s : State Thread) : Thread → State Thread → Prop where
  | enter (t identity) (hcalls : (s.phase t).Calls)
      (hpreflight : preflight (s.active t) identity = .ok ()) :
      Step s t ((s.goto t (.entered identity)).mark t (some identity))
  /-- `proof_lock_for` finds the lock alive. -/
  | upgrade (t identity lock registry) (hphase : s.phase t = .entered identity)
      (hpruned : Pruned s.registry s.Alive registry) (hfound : registry identity = some lock) :
      Step s t { s.goto t (.found identity lock) with registry }
  | create (t identity registry) (hphase : s.phase t = .entered identity)
      (hpruned : Pruned s.registry s.Alive registry) (hfound : registry identity = none) :
      Step s t { s.goto t (.found identity s.next) with
        registry := Function.update registry identity (some s.next)
        next := s.next + 1 }
  /-- `try_lock` would block. -/
  | wait (t identity lock) (hphase : s.phase t = .found identity lock) (hheld : ¬ s.Free lock) :
      Step s t (s.goto t (.waiting identity lock))
  /-- `try_lock`, or `lock` after the wait callback. -/
  | lock (t identity lock)
      (hphase : s.phase t = .found identity lock ∨ s.phase t = .waiting identity lock)
      (hfree : s.Free lock) : Step s t (s.goto t (.running identity lock))
  | finish (t identity lock) (hphase : s.phase t = .running identity lock) :
      Step s t ((s.goto t (.unmarked identity lock)).mark t none)
  | unlock (t identity lock) (hphase : s.phase t = .unmarked identity lock) :
      Step s t (s.goto t (.unlocked identity lock))
  /-- `remove_unused_lock` removes the entry. -/
  | forget (t identity lock) (hphase : s.phase t = .unlocked identity lock) (hsole : s.Sole t lock)
      (hregistered : s.registry identity = some lock) :
      Step s t { s.goto t (.forgotten identity lock) with
        registry := Function.update s.registry identity none }
  /-- `remove_unused_lock` leaves it. -/
  | keep (t identity lock) (hphase : s.phase t = .unlocked identity lock)
      (hneeded : ¬ (s.Sole t lock ∧ s.registry identity = some lock)) :
      Step s t (s.goto t (.forgotten identity lock))
  | leave (t identity lock) (hphase : s.phase t = .forgotten identity lock) :
      Step s t (s.goto t .idle)
  /-- The wait callback or the operation panics. -/
  | panic (t identity lock)
      (hphase : s.phase t = .waiting identity lock ∨ s.phase t = .running identity lock) :
      Step s t (s.goto t (.unwinding identity lock))
  | unwind (t identity lock) (hphase : s.phase t = .unwinding identity lock) :
      Step s t (s.goto t (.unwound identity))
  | unmark (t identity) (hphase : s.phase t = .unwound identity) :
      Step s t ((s.goto t .idle).mark t none)

/-! ## Exclusion -/

/-- What every interleaving keeps. -/
structure Exclusive (s : State Thread) : Prop where
  registered : Registers s.registry fun t => (s.phase t).bound
  guarded : ∀ t t' lock, (s.phase t).guard = some lock → (s.phase t').guard = some lock → t = t'
  marked : ∀ t, s.active t = (s.phase t).marker

variable {s s' : State Thread} {t : Thread}

theorem preflight_eq_ok {active : Option DelegationProofIdentity} {identity : DelegationProofIdentity} :
    preflight active identity = .ok () ↔ active = none := by
  cases active <;> simp [preflight]

theorem Phase.handle_of_bound {phase : Phase} {identity : DelegationProofIdentity} {lock : Nat}
    (h : phase.bound = some (identity, lock)) : phase.handle = some lock := by
  cases phase <;> simp_all [Phase.bound, Phase.handle]

/-- A thread that takes no guard and relies on no lock it did not rely on before keeps exclusion,
if the registry keeps what the others rely on. -/
theorem Exclusive.goto (h : Exclusive s) {phase : Phase} {registry : DelegationProofIdentity → Option Nat}
    {next : Nat} {active : Thread → Option DelegationProofIdentity}
    (hregistry : ∀ t' identity lock, t' ≠ t → (s.phase t').bound = some (identity, lock) →
      registry identity = some lock)
    (hbound : ∀ identity lock, phase.bound = some (identity, lock) → registry identity = some lock)
    (hguard : ∀ lock, phase.guard = some lock → ∀ t', t' ≠ t → (s.phase t').guard ≠ some lock)
    (hactive : active = Function.update s.active t phase.marker) :
    Exclusive ⟨registry, next, Function.update s.phase t phase, active⟩ where
  registered := by
    intro t' identity lock hphase
    by_cases heq : t' = t
    · subst heq
      exact hbound identity lock (by simpa using hphase)
    · exact hregistry t' identity lock heq (by simpa [Function.update_of_ne heq] using hphase)
  guarded := by
    intro a b lock ha hb
    by_cases hat : a = t <;> by_cases hbt : b = t
    · rw [hat, hbt]
    · subst hat
      simp only [Function.update_self, Function.update_of_ne hbt] at ha hb
      exact absurd hb (hguard lock ha b hbt)
    · subst hbt
      simp only [Function.update_self, Function.update_of_ne hat] at ha hb
      exact absurd ha (hguard lock hb a hat)
    · simp only [Function.update_of_ne hat, Function.update_of_ne hbt] at ha hb
      exact h.guarded a b lock ha hb
  marked := by
    intro t'
    rw [hactive]
    by_cases heq : t' = t
    · subst heq
      simp
    · simp [Function.update_of_ne heq, h.marked t']

theorem Exclusive.active_eq (h : Exclusive s) {phase : Phase}
    (hmarker : phase.marker = (s.phase t).marker) :
    s.active = Function.update s.active t phase.marker := by
  rw [hmarker, ← h.marked t, Function.update_eq_self]

/-- A thread that stays in the call and leaves the registry alone. -/
theorem Exclusive.goto_marked (h : Exclusive s) {phase : Phase}
    (hbound : ∀ identity lock, phase.bound = some (identity, lock) →
      s.registry identity = some lock)
    (hguard : ∀ lock, phase.guard = some lock → ∀ t', t' ≠ t → (s.phase t').guard ≠ some lock)
    (hmarker : phase.marker = (s.phase t).marker) : Exclusive (s.goto t phase) :=
  h.goto (fun t' identity lock _ => h.registered t' identity lock) hbound hguard
    (h.active_eq hmarker)

/-- A thread whose marker changes. -/
theorem Exclusive.goto_mark (h : Exclusive s) {phase : Phase}
    {active : Option DelegationProofIdentity}
    (hbound : ∀ identity lock, phase.bound = some (identity, lock) →
      s.registry identity = some lock)
    (hguard : ∀ lock, phase.guard = some lock → ∀ t', t' ≠ t → (s.phase t').guard ≠ some lock)
    (hmarker : phase.marker = active) : Exclusive ((s.goto t phase).mark t active) :=
  h.goto (fun t' identity lock _ => h.registered t' identity lock) hbound hguard
    (by simp [State.goto, hmarker])

omit [DecidableEq Thread] in
/-- Pruning keeps the locks that threads rely on: they are alive. -/
theorem Exclusive.pruned (h : Exclusive s) {registry : DelegationProofIdentity → Option Nat}
    (hpruned : Pruned s.registry s.Alive registry) :
    Registers registry fun t => (s.phase t).bound :=
  h.registered.prune hpruned fun t _ _ hbound => ⟨t, Phase.handle_of_bound hbound⟩

theorem Exclusive.step (hstep : Step s t s') (h : Exclusive s) : Exclusive s' := by
  cases hstep with
  | enter identity hcalls hpreflight =>
    exact h.goto_mark (by simp [Phase.bound]) (by simp [Phase.guard]) rfl
  | upgrade identity lock registry hphase hpruned hfound =>
    refine h.goto (fun t' identity lock _ => h.pruned hpruned t' identity lock) ?_
      (by simp [Phase.guard]) ?_
    · simp [Phase.bound, hfound]
    · exact h.active_eq (by simp [hphase, Phase.marker])
  | create identity registry hphase hpruned hfound =>
    refine h.goto ?_ (by simp [Phase.bound]) (by simp [Phase.guard]) ?_
    · exact fun t' other lock _ => (h.pruned hpruned).insert hfound t' other lock
    · exact h.active_eq (by simp [hphase, Phase.marker])
  | wait identity lock hphase hheld =>
    have hregistered := h.registered t identity lock (by simp [hphase, Phase.bound])
    exact h.goto_marked (by simp [Phase.bound, hregistered]) (by simp [Phase.guard])
      (by simp [hphase, Phase.marker])
  | lock identity lock hphase hfree =>
    have hregistered := h.registered t identity lock
      (by rcases hphase with hphase | hphase <;> simp [hphase, Phase.bound])
    refine h.goto_marked (by simp [Phase.bound, hregistered]) ?_
      (by rcases hphase with hphase | hphase <;> simp [hphase, Phase.marker])
    intro own hown t' _
    cases hown
    exact hfree t'
  | finish identity lock hphase =>
    have hregistered := h.registered t identity lock (by simp [hphase, Phase.bound])
    refine h.goto_mark (by simp [Phase.bound, hregistered]) ?_ rfl
    intro own hown t' hne hguard
    exact hne (h.guarded t' t own hguard (by simpa [hphase, Phase.guard] using hown))
  | unlock identity lock hphase =>
    have hregistered := h.registered t identity lock (by simp [hphase, Phase.bound])
    exact h.goto_marked (by simp [Phase.bound, hregistered]) (by simp [Phase.guard])
      (by simp [hphase, Phase.marker])
  | forget identity lock hphase hsole hregistered =>
    refine h.goto ?_ (by simp [Phase.bound]) (by simp [Phase.guard]) ?_
    · intro t' other own hne hbound
      have hother := h.registered t' other own hbound
      have hid : other ≠ identity := by
        rintro rfl
        rw [hregistered, Option.some.injEq] at hother
        subst hother
        exact hne (hsole t' (Phase.handle_of_bound hbound))
      rw [Function.update_of_ne hid, hother]
    · exact h.active_eq (by simp [hphase, Phase.marker])
  | keep identity lock hphase | leave identity lock hphase =>
    exact h.goto_marked (by simp [Phase.bound]) (by simp [Phase.guard])
      (by simp [hphase, Phase.marker])
  | panic identity lock hphase =>
    exact h.goto_marked (by simp [Phase.bound]) (by simp [Phase.guard])
      (by rcases hphase with hphase | hphase <;> simp [hphase, Phase.marker])
  | unwind identity lock hphase =>
    exact h.goto_marked (by simp [Phase.bound]) (by simp [Phase.guard])
      (by simp [hphase, Phase.marker])
  | unmark identity hphase =>
    exact h.goto_mark (by simp [Phase.bound]) (by simp [Phase.guard]) rfl

theorem exclusive_of_reachable (hs : Reachable (· = State.initial) Step s) : Exclusive s :=
  hs.invariant (I := Exclusive)
    (fun w (hinit : w = State.initial) => hinit ▸
      ⟨by simp [State.initial, Phase.bound, Registers], by simp [State.initial, Phase.guard],
        by simp [State.initial, Phase.marker]⟩)
    (fun _ _ _ h hstep => h.step hstep)

/-- In every interleaving at most one operation of an identity runs; a call from the wait
callback or the operation of another is turned away as busy; and a thread whose call has ended
is let in. -/
theorem run_exclusively_single_flight (hs : Reachable (· = State.initial) Step s) :
    (∀ t t' identity lock lock', s.phase t = .running identity lock →
      s.phase t' = .running identity lock' → t = t') ∧
    (∀ t own lock, s.phase t = .waiting own lock ∨ s.phase t = .running own lock →
      ∀ identity, preflight (s.active t) identity = .error (.busy
        s!"delegation proof generation is already active on this thread for round {own.roundId} bundle {own.bundleIndex}; cannot enter round {identity.roundId} bundle {identity.bundleIndex}")) ∧
    ∀ t, s.phase t = .idle → ∀ identity, preflight (s.active t) identity = .ok () ∧
      ∃ s', Step s t s' ∧ s'.phase t = .entered identity := by
  have h := exclusive_of_reachable hs
  refine ⟨?_, ?_, ?_⟩
  · intro t t' identity lock lock' ht ht'
    -- Both locks are the one that is registered, and one guard of it is given out.
    have hlock : lock = lock' := h.registered.unique t t' identity (by simp [ht, Phase.bound])
      (by simp [ht', Phase.bound])
    subst hlock
    exact h.guarded t t' lock (by simp [ht, Phase.guard]) (by simp [ht', Phase.guard])
  · intro t own lock hphase identity
    have hactive : s.active t = some own := by
      rw [h.marked t]
      rcases hphase with hphase | hphase <;> simp [hphase, Phase.marker]
    rw [hactive, preflight]
  · intro t hidle identity
    have hactive : s.active t = none := by simp [h.marked t, hidle, Phase.marker]
    have hpreflight : preflight (s.active t) identity = .ok () := preflight_eq_ok.mpr hactive
    refine ⟨hpreflight, _, .enter t identity (by simp [hidle, Phase.Calls]) hpreflight, ?_⟩
    simp [State.mark, State.goto]

/-- Of two threads the first runs its operation: it alone does, a call from the operation is
turned away as busy, and the second thread may enter. -/
theorem run_exclusively_single_flight_sample :
    ∃ s : State Bool, Reachable (· = State.initial) Step s ∧
      s.phase true = .running ⟨1, "w", "r", 0⟩ 0 ∧
      (∀ t, s.phase t = .running ⟨1, "w", "r", 0⟩ 0 → t = true) ∧
      preflight (s.active true) ⟨1, "w", "r", 3⟩ = .error (.busy
        "delegation proof generation is already active on this thread for round r bundle 0; cannot enter round r bundle 3") ∧
      ∃ s', Step s false s' ∧ s'.phase false = .entered ⟨1, "w", "r", 0⟩ := by
  have hinit : Reachable (· = State.initial) Step (State.initial : State Bool) := .init rfl
  have hentered := hinit.step (Step.enter true ⟨1, "w", "r", 0⟩ trivial rfl)
  have hfound := hentered.step (Step.create true ⟨1, "w", "r", 0⟩ (fun _ => none)
    (by simp [State.mark, State.goto]) (by simp [Pruned, State.mark, State.goto, State.initial])
    rfl)
  have hrunning := hfound.step (Step.lock true ⟨1, "w", "r", 0⟩ 0
    (.inl (by simp [State.mark, State.goto, State.initial])) (by
      intro t
      cases t <;> simp [State.mark, State.goto, State.initial, Phase.guard]))
  have hsingle := run_exclusively_single_flight hrunning
  refine ⟨_, hrunning, by simp [State.goto], fun t ht => ?_, ?_, ?_⟩
  · exact hsingle.1 t true _ 0 0 ht (by simp [State.goto])
  · exact hsingle.2.1 true ⟨1, "w", "r", 0⟩ 0 (.inr (by simp [State.goto])) ⟨1, "w", "r", 3⟩
  · exact (hsingle.2.2 false rfl _).2

end ZcashVoting.DelegationProof
