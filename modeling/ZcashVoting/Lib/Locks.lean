import Mathlib.Logic.Relation
import Mathlib.Logic.Function.Iterate
import Mathlib.Order.Defs.Unbundled
import ZcashVoting.Lib.Table

/-!
# Lib.Locks

Tasks that take keyed locks from registries of weak references.

A registry maps a key to a lock that it does not keep alive: a lock lives as long
as some task has a handle on it, and entries of locks that died are pruned.  A task
runs a call, which takes the locks of its plan one after the other, each shared or
exclusive; it ends as a lease on all of them, or gives up, and then drops its
handles one at a time.  Tasks interleave at every step.

`exclusive_leases` says that a key never has two locks that are alive, so leases
that name one key agree to share it; `no_wait_cycle` that tasks whose plans follow
one order of the keys do not wait on each other in a cycle.
-/

namespace Locks

/-- How a lock is taken. -/
inductive Mode where
  | shared
  | exclusive
  deriving DecidableEq

/-- Guards of these modes may exist side by side. -/
def Mode.compatible : Mode → Mode → Bool
  | .shared, .shared => true
  | _, _ => false

theorem Mode.compatible_comm (m m' : Mode) : m.compatible m' = m'.compatible m := by
  cases m <;> cases m' <;> rfl

/-- A task's strong reference to a lock: it waits for the guard or has it. -/
structure Handle where
  lock : Nat
  mode : Mode
  held : Bool
  deriving DecidableEq

/-- What a call locks, in order.  Where it is not `blocking` it gives up on a lock
that is taken. -/
structure Plan (K : Type) where
  blocking : Bool
  locks : List (K × Mode)

/-- Where a task is in its call. -/
inductive Phase (C K : Type) where
  | idle
  /-- About to look up the first of the rest. -/
  | acquiring (call : C) (rest : List (K × Mode))
  /-- Waits for the guard of a lock it has looked up. -/
  | waiting (call : C) (key : K) (mode : Mode) (rest : List (K × Mode))
  /-- Holds a lease. -/
  | live (call : C)
  | dropping
  deriving DecidableEq

/-- The registries and the tasks' handles. -/
structure State (T K C : Type) where
  registry : Table K Nat
  /-- Locks are numbered as they are created. -/
  next : Nat
  handles : Table (T × K) Handle
  phase : T → Phase C K

section Model

variable {T K C R : Type} [DecidableEq T] [DecidableEq K] [DecidableEq R]

namespace State

def initial : State T K C := ⟨∅, 0, ∅, fun _ => .idle⟩

/-- Some strong reference to the lock is left. -/
def alive (s : State T K C) (lock : Nat) : Bool := s.handles.any fun _ handle => handle.lock = lock

/-- No guard on the lock is in the way of one of this mode. -/
def available (s : State T K C) (lock : Nat) (mode : Mode) : Bool :=
  !s.handles.any fun _ handle =>
    handle.lock = lock && handle.held && !handle.mode.compatible mode

/-- Drop the entries of dead locks from one registry. -/
def prune (part : K → R) (r : R) (s : State T K C) : State T K C :=
  { s with registry := s.registry.retain fun key lock => part key ≠ r || s.alive lock }

/-- The lock of a key: the registered one while it is alive, a new one otherwise. -/
def sharedLock (part : K → R) (key : K) (s : State T K C) : Nat × State T K C :=
  let s := s.prune part (part key)
  match (s.registry.lookup key).filter s.alive with
  | some lock => (lock, s)
  | none => (s.next, { s with registry := s.registry.insert key s.next, next := s.next + 1 })

/-- Set where a task is. -/
def enter (s : State T K C) (t : T) (phase : Phase C K) : State T K C :=
  { s with phase := Function.update s.phase t phase }

/-- Set a task's handle at a key. -/
def setHandle (s : State T K C) (t : T) (key : K) (handle : Handle) : State T K C :=
  { s with handles := s.handles.insert (t, key) handle }

/-- Drop a task's handle at a key. -/
def dropHandle (s : State T K C) (t : T) (key : K) : State T K C :=
  { s with handles := s.handles.erase (t, key) }

omit [DecidableEq K] in
theorem phase_enter_self (s : State T K C) (t : T) (phase : Phase C K) :
    (s.enter t phase).phase t = phase :=
  Function.update_self ..

omit [DecidableEq K] in
theorem phase_enter_ne (s : State T K C) {t t' : T} (h : t' ≠ t) (phase : Phase C K) :
    (s.enter t phase).phase t' = s.phase t' :=
  Function.update_of_ne h ..

theorem lookup_setHandle (s : State T K C) (t t' : T) (key key' : K) (handle : Handle) :
    (s.setHandle t key handle).handles.lookup (t', key') =
      if (t', key') = (t, key) then some handle else s.handles.lookup (t', key') :=
  Table.lookup_insert_eq ..

theorem lookup_dropHandle (s : State T K C) (t t' : T) (key key' : K) :
    (s.dropHandle t key).handles.lookup (t', key') =
      if (t', key') = (t, key) then none else s.handles.lookup (t', key') :=
  Table.lookup_erase_eq ..

end State

open State

variable {part : K → R} {s : State T K C}

/-- One step of one task. -/
inductive Step (plan : C → Plan K) (part : K → R) (s : State T K C) : State T K C → Prop where
  | start (t call) (h : s.phase t = .idle) :
      Step plan part s (s.enter t (.acquiring call (plan call).locks))
  | lookup (t call key mode rest) (h : s.phase t = .acquiring call ((key, mode) :: rest)) :
      Step plan part s
        (((s.sharedLock part key).2.setHandle t key ⟨(s.sharedLock part key).1, mode, false⟩).enter t
          (.waiting call key mode rest))
  | grant (t call key mode rest handle) (h : s.phase t = .waiting call key mode rest)
      (hhandle : s.handles.lookup (t, key) = some handle)
      (havailable : s.available handle.lock mode = true) :
      Step plan part s
        ((s.setHandle t key { handle with held := true }).enter t (.acquiring call rest))
  | finish (t call) (h : s.phase t = .acquiring call []) : Step plan part s (s.enter t (.live call))
  /-- A call that does not wait finds the lock taken. -/
  | busy (t call key mode rest handle) (h : s.phase t = .waiting call key mode rest)
      (hplan : (plan call).blocking = false)
      (hhandle : s.handles.lookup (t, key) = some handle)
      (htaken : s.available handle.lock mode = false) :
      Step plan part s (s.enter t .dropping)
  /-- A call fails or is abandoned, or its lease is dropped. -/
  | drop (t) (h : s.phase t ≠ .idle) : Step plan part s (s.enter t .dropping)
  /-- Dropping a guard frees the lock; its strong reference goes after that. -/
  | release (t key handle) (h : s.phase t = .dropping)
      (hhandle : s.handles.lookup (t, key) = some handle) :
      Step plan part s (s.setHandle t key { handle with held := false })
  | forget (t key handle) (h : s.phase t = .dropping)
      (hhandle : s.handles.lookup (t, key) = some handle) (hreleased : handle.held = false) :
      Step plan part s (s.dropHandle t key)
  | done (t) (h : s.phase t = .dropping) (hnone : ∀ key, s.handles.lookup (t, key) = none) :
      Step plan part s (s.enter t .idle)
  /-- Another lookup prunes a registry in between. -/
  | prune (r) : Step plan part s (s.prune part r)

/-- The states any interleaving reaches. -/
def Reachable (plan : C → Plan K) (part : K → R) (s : State T K C) : Prop :=
  Relation.ReflTransGen (Step plan part) initial s

/-- Let a task begin a call. -/
def launch (plan : C → Plan K) (t : T) (call : C) (s : State T K C) : State T K C :=
  s.enter t (.acquiring call (plan call).locks)

theorem Reachable.launch {plan : C → Plan K}
    (h : Reachable plan part s) {t : T} (hidle : s.phase t = .idle) (call : C) :
    Reachable plan part (launch plan t call s) :=
  h.tail (.start t call hidle)

/-- Let a task go on with its call as far as one step. -/
def advance (plan : C → Plan K) (part : K → R) (t : T) (s : State T K C) : State T K C :=
  match s.phase t with
  | .acquiring call ((key, mode) :: rest) =>
    ((s.sharedLock part key).2.setHandle t key ⟨(s.sharedLock part key).1, mode, false⟩).enter t
      (.waiting call key mode rest)
  | .acquiring call [] => s.enter t (.live call)
  | .waiting call key mode rest =>
    match s.handles.lookup (t, key) with
    | some handle =>
      if s.available handle.lock mode then
        (s.setHandle t key { handle with held := true }).enter t (.acquiring call rest)
      else if (plan call).blocking then s
      else s.enter t .dropping
    | none => s
  | _ => s

theorem Reachable.advance {plan : C → Plan K}
    (h : Reachable plan part s) (t : T) : Reachable plan part (advance plan part t s) := by
  unfold Locks.advance
  split
  · next hphase => exact h.tail (.lookup t _ _ _ _ hphase)
  · next hphase => exact h.tail (.finish t _ hphase)
  · next call key mode rest hphase =>
    split
    · next handle hhandle =>
      by_cases havailable : s.available handle.lock mode = true
      · rw [if_pos havailable]
        exact h.tail (.grant t call key mode rest handle hphase hhandle havailable)
      · rw [if_neg havailable]
        split
        · exact h
        · next hblocking =>
          exact h.tail (.busy t call key mode rest handle hphase (by simpa using hblocking) hhandle
            (by simpa using havailable))
    · exact h
  · exact h

/-- Let a task go on for some steps. -/
def advances (plan : C → Plan K) (part : K → R) (t : T) (steps : Nat) (s : State T K C) :
    State T K C :=
  (advance plan part t)^[steps] s

theorem Reachable.advances {plan : C → Plan K} (h : Reachable plan part s) (t : T) (steps : Nat) :
    Reachable plan part (advances plan part t steps s) := by
  induction steps with
  | zero => exact h
  | succ steps ih =>
    rw [Locks.advances, Function.iterate_succ_apply']
    exact ih.advance t

/-! ## A key has one lock that is alive -/

/-- Every lock with a handle is the registered one of its key, and no lock has two
keys. -/
structure Registered (s : State T K C) : Prop where
  registered : ∀ t key handle, s.handles.lookup (t, key) = some handle →
    s.registry.lookup key = some handle.lock
  injective : ∀ key key' lock, s.registry.lookup key = some lock →
    s.registry.lookup key' = some lock → key = key'
  fresh : ∀ key lock, s.registry.lookup key = some lock → lock < s.next

theorem alive_of_lookup {t : T} {key : K} {handle : Handle}
    (h : s.handles.lookup (t, key) = some handle) : s.alive handle.lock = true :=
  Table.any_eq_true.mpr ⟨(t, key), handle, h, by simp⟩

section Registry

variable {s : State T K C} {part : K → R}

omit [DecidableEq T] in
theorem lookup_prune_eq_some {r : R} {key : K} {lock : Nat} :
    (s.prune part r).registry.lookup key = some lock ↔
      s.registry.lookup key = some lock ∧ (part key ≠ r ∨ s.alive lock = true) := by
  rw [prune, Table.lookup_retain, Option.filter_eq_some_iff]
  simp

/-- Pruning spares the locks that have handles. -/
theorem Registered.prune (h : Registered s) (r : R) : Registered (s.prune part r) where
  registered t key handle hhandle := lookup_prune_eq_some.mpr
    ⟨h.registered t key handle hhandle, .inr (alive_of_lookup hhandle)⟩
  injective key key' lock hlock hlock' := h.injective key key' lock
    (lookup_prune_eq_some.mp hlock).1 (lookup_prune_eq_some.mp hlock').1
  fresh key lock hlock := h.fresh key lock (lookup_prune_eq_some.mp hlock).1

omit [DecidableEq T] in
theorem sharedLock_handles (key : K) : (s.sharedLock part key).2.handles = s.handles := by
  unfold sharedLock
  dsimp only
  split <;> rfl

omit [DecidableEq T] in
theorem sharedLock_phase (key : K) : (s.sharedLock part key).2.phase = s.phase := by
  unfold sharedLock
  dsimp only
  split <;> rfl

omit [DecidableEq T] in
/-- The lock that is handed out is the registered one of its key. -/
theorem lookup_sharedLock (key : K) :
    (s.sharedLock part key).2.registry.lookup key = some (s.sharedLock part key).1 := by
  unfold sharedLock
  dsimp only
  split
  · next lock hlock => exact (Option.filter_eq_some_iff.mp hlock).1
  · exact AList.lookup_insert _

/-- A lock is created for a key only when no handle is left on the key. -/
theorem Registered.sharedLock (h : Registered s) (key : K) :
    Registered (s.sharedLock part key).2 := by
  have hpruned : Registered (s.prune part (part key)) := h.prune (part key)
  unfold State.sharedLock
  dsimp only
  split
  · exact hpruned
  · next hnone =>
    refine ⟨fun t other handle hhandle => ?_, fun other other' lock hlock hlock' => ?_,
      fun other lock hlock => ?_⟩
    · have hother := hpruned.registered t other handle hhandle
      by_cases hkey : other = key
      · subst hkey
        have halive : (s.prune part (part other)).alive handle.lock = true := alive_of_lookup hhandle
        simp [hother, halive] at hnone
      · rw [AList.lookup_insert_ne hkey]
        exact hother
    · rw [Table.lookup_insert_eq] at hlock hlock'
      split at hlock <;> split at hlock'
      · simp_all
      · have := hpruned.fresh other' lock hlock'
        simp_all
      · have := hpruned.fresh other lock hlock
        simp_all
      · exact hpruned.injective other other' lock hlock hlock'
    · rw [Table.lookup_insert_eq] at hlock
      split at hlock
      · cases hlock
        exact Nat.lt_succ_self _
      · exact Nat.lt_succ_of_lt (hpruned.fresh other lock hlock)

theorem Registered.setHandle (h : Registered s) {t : T} {key : K} {handle : Handle}
    (hlock : s.registry.lookup key = some handle.lock) :
    Registered (s.setHandle t key handle) := by
  refine { h with registered := fun t' key' handle' hhandle => ?_ }
  rw [lookup_setHandle] at hhandle
  split at hhandle
  · next hkey =>
    cases hhandle
    rw [(Prod.mk.inj hkey).2]
    exact hlock
  · exact h.registered t' key' handle' hhandle

theorem Registered.enter (h : Registered s) (t : T) (phase : Phase C K) :
    Registered (s.enter t phase) :=
  ⟨h.registered, h.injective, h.fresh⟩

theorem Registered.dropHandle (h : Registered s) (t : T) (key : K) :
    Registered (s.dropHandle t key) := by
  refine { h with registered := fun t' key' handle hhandle => ?_ }
  rw [lookup_dropHandle] at hhandle
  split at hhandle
  · cases hhandle
  · exact h.registered t' key' handle hhandle

end Registry

/-! ## Guards on one lock share it -/

/-- Guards on one lock have modes that may exist side by side. -/
def Compatible (s : State T K C) : Prop :=
  ∀ t key handle t' key' handle', s.handles.lookup (t, key) = some handle →
    s.handles.lookup (t', key') = some handle' → (t, key) ≠ (t', key') →
    handle.lock = handle'.lock → handle.held = true → handle'.held = true →
    handle.mode.compatible handle'.mode = true

theorem available_eq_true {lock : Nat} {mode : Mode}
    (h : s.available lock mode = true) {t : T} {key : K} {handle : Handle}
    (hhandle : s.handles.lookup (t, key) = some handle) (hlock : handle.lock = lock)
    (hheld : handle.held = true) : handle.mode.compatible mode = true := by
  rw [available, Bool.not_eq_true', Table.any_eq_false] at h
  simpa [hlock, hheld] using h (t, key) handle hhandle

/-- A new handle is compatible when it has no guard, or its lock was available. -/
theorem Compatible.setHandle (h : Compatible s) {t : T} {key : K} {handle : Handle}
    (hnew : handle.held = true → s.available handle.lock handle.mode = true) :
    Compatible (s.setHandle t key handle) := by
  intro t₁ key₁ h₁ t₂ key₂ h₂ hl₁ hl₂ hne hlock hheld₁ hheld₂
  rw [lookup_setHandle] at hl₁ hl₂
  split at hl₁ <;> split at hl₂
  · simp_all
  · cases hl₁
    rw [Mode.compatible_comm]
    exact available_eq_true (hnew hheld₁) hl₂ hlock.symm hheld₂
  · cases hl₂
    exact available_eq_true (hnew hheld₂) hl₁ hlock hheld₁
  · exact h t₁ key₁ h₁ t₂ key₂ h₂ hl₁ hl₂ hne hlock hheld₁ hheld₂

theorem Compatible.dropHandle (h : Compatible s) (t : T) (key : K) :
    Compatible (s.dropHandle t key) := by
  intro t₁ key₁ h₁ t₂ key₂ h₂ hl₁ hl₂
  rw [lookup_dropHandle] at hl₁ hl₂
  split at hl₁
  · cases hl₁
  · split at hl₂
    · cases hl₂
    · exact h t₁ key₁ h₁ t₂ key₂ h₂ hl₁ hl₂

/-! ## What a task holds -/

/-- A task has the guards of these locks and no other handle. -/
structure Holds (s : State T K C) (t : T) (done : List (K × Mode)) : Prop where
  sub : ∀ key handle, s.handles.lookup (t, key) = some handle →
    handle.held = true ∧ (key, handle.mode) ∈ done
  has : ∀ key mode, (key, mode) ∈ done → ∃ lock, s.handles.lookup (t, key) = some ⟨lock, mode, true⟩

/-- A task has the guards of these locks and waits for one more. -/
structure Waits (s : State T K C) (t : T) (done : List (K × Mode)) (key : K) (mode : Mode) :
    Prop where
  pending : ∃ lock, s.handles.lookup (t, key) = some ⟨lock, mode, false⟩
  sub : ∀ other handle, other ≠ key → s.handles.lookup (t, other) = some handle →
    handle.held = true ∧ (other, handle.mode) ∈ done
  has : ∀ other mode, (other, mode) ∈ done →
    ∃ lock, s.handles.lookup (t, other) = some ⟨lock, mode, true⟩

/-- A task has what its phase says. -/
def PhaseHolds (plan : C → Plan K) (s : State T K C) (t : T) : Phase C K → Prop
  | .idle => ∀ key, s.handles.lookup (t, key) = none
  | .acquiring call rest => ∃ done, (plan call).locks = done ++ rest ∧ Holds s t done
  | .waiting call key mode rest =>
    ∃ done, (plan call).locks = done ++ (key, mode) :: rest ∧ Waits s t done key mode
  | .live call => Holds s t (plan call).locks
  | .dropping => True

/-- What a task has depends on its own handles. -/
theorem PhaseHolds.congr {plan : C → Plan K} {s' : State T K C} {t : T} {phase : Phase C K}
    (h : PhaseHolds plan s t phase)
    (hsame : ∀ key, s'.handles.lookup (t, key) = s.handles.lookup (t, key)) :
    PhaseHolds plan s' t phase := by
  cases phase with
  | idle => exact fun key => (hsame key).trans (h key)
  | acquiring call rest =>
    obtain ⟨done, hdone, hsub, hhas⟩ := h
    exact ⟨done, hdone, by simpa only [hsame] using hsub, by simpa only [hsame] using hhas⟩
  | waiting call key mode rest =>
    obtain ⟨done, hdone, hpending, hsub, hhas⟩ := h
    exact ⟨done, hdone, by simpa only [hsame] using hpending, by simpa only [hsame] using hsub,
      by simpa only [hsame] using hhas⟩
  | live call => exact ⟨by simpa only [hsame] using h.sub, by simpa only [hsame] using h.has⟩
  | dropping => trivial

/-- The invariant of the interleavings. -/
structure Inv (plan : C → Plan K) (s : State T K C) : Prop where
  registry : Registered s
  compatible : Compatible s
  phases : ∀ t, PhaseHolds plan s t (s.phase t)

theorem inv_initial (plan : C → Plan K) : Inv plan (initial : State T K C) where
  registry := ⟨fun _ _ _ h => by simp [initial] at h, fun _ _ _ h => by simp [initial] at h,
    fun _ _ h => by simp [initial] at h⟩
  compatible _ _ _ _ _ _ h := by simp [initial] at h
  phases _ _ := rfl

section Preservation

variable {plan : C → Plan K} {part : K → R} {s s' : State T K C}

/-- A step of one task leaves the handles and the phase of the others alone. -/
theorem Inv.step_of (h : Inv plan s) (t : T) (hregistry : Registered s')
    (hcompatible : Compatible s') (hphase : PhaseHolds plan s' t (s'.phase t))
    (hother : ∀ t', t' ≠ t → s'.phase t' = s.phase t' ∧
      ∀ key, s'.handles.lookup (t', key) = s.handles.lookup (t', key)) : Inv plan s' := by
  refine ⟨hregistry, hcompatible, fun t' => ?_⟩
  by_cases ht : t' = t
  · rw [ht]
    exact hphase
  · obtain ⟨hsame, hhandles⟩ := hother t' ht
    rw [hsame]
    exact (h.phases t').congr hhandles

/-- A step that only moves a task to another phase. -/
theorem Inv.enter (h : Inv plan s) (t : T) {phase : Phase C K} (hphase : PhaseHolds plan s t phase) :
    Inv plan (s.enter t phase) := by
  refine h.step_of t (h.registry.enter t phase) h.compatible ?_
    fun t' ht => ⟨phase_enter_ne s ht phase, fun _ => rfl⟩
  rw [phase_enter_self]
  exact hphase.congr fun _ => rfl

omit [DecidableEq K] in
/-- The keys of a plan's locks are distinct. -/
theorem key_ne_of_nodup {locks done rest : List (K × Mode)} {key other : K} {mode m : Mode}
    (hnodup : (locks.map (·.1)).Nodup) (hlocks : locks = done ++ (key, mode) :: rest)
    (hother : (other, m) ∈ done) : other ≠ key := by
  rintro rfl
  rw [hlocks, List.map_append, List.nodup_append] at hnodup
  exact hnodup.2.2 _ (List.mem_map_of_mem hother) _ (by simp) rfl

/-- Looking up the next lock of a plan adds a handle that waits. -/
theorem Inv.lookup (h : Inv plan s) {t : T} {call : C} {key : K} {mode : Mode}
    {rest : List (K × Mode)} (hnodup : ((plan call).locks.map (·.1)).Nodup)
    (hphase : s.phase t = .acquiring call ((key, mode) :: rest)) :
    Inv plan (((s.sharedLock part key).2.setHandle t key ⟨(s.sharedLock part key).1, mode, false⟩).enter
      t (.waiting call key mode rest)) := by
  have hholds := h.phases t
  rw [hphase] at hholds
  obtain ⟨done, hdone, hsub, hhas⟩ := hholds
  have hhandles : (s.sharedLock part key).2.handles = s.handles := sharedLock_handles key
  have hcompatible : Compatible (s.sharedLock part key).2 := by
    have := h.compatible
    rwa [Compatible, ← hhandles] at this
  refine h.step_of t (((h.registry.sharedLock key).setHandle (lookup_sharedLock key)).enter t _)
    (hcompatible.setHandle (by simp)) ?_ fun t' ht => ⟨?_, fun key' => ?_⟩
  · rw [phase_enter_self]
    refine ⟨done, hdone, ⟨_, (lookup_setHandle ..).trans (if_pos rfl)⟩, fun other handle hne hhandle => ?_,
      fun other m hmem => ?_⟩
    · refine hsub other handle ?_
      rw [← hhandles, ← hhandle]
      exact ((lookup_setHandle ..).trans (if_neg (by simp [hne]))).symm
    · obtain ⟨lock, hlock⟩ := hhas other m hmem
      refine ⟨lock, (lookup_setHandle ..).trans ?_⟩
      rw [if_neg (by simp [key_ne_of_nodup hnodup hdone hmem]), hhandles, hlock]
  · rw [phase_enter_ne _ ht]
    exact congrFun (sharedLock_phase key) t'
  · refine (lookup_setHandle ..).trans ?_
    rw [if_neg (by simp [ht]), hhandles]

/-- A granted guard joins those the task has. -/
theorem Inv.grant (h : Inv plan s) {t : T} {call : C} {key : K} {mode : Mode}
    {rest : List (K × Mode)} {handle : Handle} (hnodup : ((plan call).locks.map (·.1)).Nodup)
    (hphase : s.phase t = .waiting call key mode rest)
    (hhandle : s.handles.lookup (t, key) = some handle)
    (havailable : s.available handle.lock mode = true) :
    Inv plan ((s.setHandle t key { handle with held := true }).enter t (.acquiring call rest)) := by
  have hholds := h.phases t
  rw [hphase] at hholds
  obtain ⟨done, hdone, ⟨lock, hpending⟩, hsub, hhas⟩ := hholds
  cases hhandle.symm.trans hpending
  have hlock := h.registry.registered t key _ hhandle
  have hregistry : Registered (s.setHandle t key ⟨lock, mode, true⟩) := h.registry.setHandle hlock
  refine h.step_of t (hregistry.enter t _) (h.compatible.setHandle fun _ => havailable) ?_ fun t' ht => ⟨phase_enter_ne _ ht _, fun key' => ?_⟩
  · rw [phase_enter_self]
    refine ⟨done ++ [(key, mode)], by simp [hdone], fun other handle hhandle => ?_,
      fun other m hmem => ?_⟩
    · have hlookup := (lookup_setHandle ..).symm.trans hhandle
      split at hlookup
      · next hkey =>
        cases hlookup
        simp [(Prod.mk.inj hkey).2]
      · next hkey =>
        obtain ⟨hheld, hmem⟩ := hsub other handle (by simpa using hkey) hlookup
        exact ⟨hheld, by simp [hmem]⟩
    · rcases List.mem_append.mp hmem with hmem | hmem
      · obtain ⟨lock', hlock⟩ := hhas other m hmem
        refine ⟨lock', (lookup_setHandle ..).trans ?_⟩
        rw [if_neg (by simp [key_ne_of_nodup hnodup hdone hmem]), hlock]
      · obtain ⟨rfl, rfl⟩ := Prod.mk.inj (List.mem_singleton.mp hmem)
        exact ⟨lock, (lookup_setHandle ..).trans (if_pos rfl)⟩
  · exact (lookup_setHandle ..).trans (if_neg (by simp [ht]))

theorem Inv.step (hplan : ∀ call, ((plan call).locks.map (·.1)).Nodup) (h : Inv plan s)
    (hstep : Step plan part s s') : Inv plan s' := by
  cases hstep with
  | start t call hphase =>
    have hnone := h.phases t
    rw [hphase] at hnone
    refine h.enter t ⟨[], rfl, fun key handle hhandle => ?_, fun _ _ hmem => by simp at hmem⟩
    rw [hnone key] at hhandle
    cases hhandle
  | lookup t call key mode rest hphase => exact h.lookup (hplan call) hphase
  | grant t call key mode rest handle hphase hhandle havailable =>
    exact h.grant (hplan call) hphase hhandle havailable
  | finish t call hphase =>
    have hholds := h.phases t
    rw [hphase] at hholds
    obtain ⟨done, hdone, hholds⟩ := hholds
    rw [List.append_nil] at hdone
    subst hdone
    exact h.enter t hholds
  | busy t => exact h.enter t trivial
  | drop t => exact h.enter t trivial
  | release t key handle hphase hhandle =>
    refine h.step_of t (h.registry.setHandle (h.registry.registered t key handle hhandle))
      (h.compatible.setHandle (by simp)) ?_ fun t' ht => ⟨rfl, fun key' => ?_⟩
    · rw [show (s.setHandle t key _).phase t = .dropping from hphase]
      trivial
    · rw [lookup_setHandle, if_neg (by simp [ht])]
  | forget t key handle hphase hhandle hreleased =>
    refine h.step_of t (h.registry.dropHandle t key) (h.compatible.dropHandle t key) ?_
      fun t' ht => ⟨rfl, fun key' => ?_⟩
    · rw [show (s.dropHandle t key).phase t = .dropping from hphase]
      trivial
    · rw [lookup_dropHandle, if_neg (by simp [ht])]
  | done t hphase hnone => exact h.enter t hnone
  | prune r =>
    exact ⟨h.registry.prune r, h.compatible, fun t => (h.phases t).congr fun _ => rfl⟩

theorem Reachable.inv (hplan : ∀ call, ((plan call).locks.map (·.1)).Nodup)
    (h : Reachable plan part s) : Inv plan s := by
  induction h with
  | refl => exact inv_initial plan
  | tail _ hstep ih => exact ih.step hplan hstep

end Preservation

/-! ## Leases -/

section Results

variable {plan : C → Plan K} {part : K → R} {s : State T K C}

/-- Two leases that name one key share it. -/
theorem exclusive_leases (hplan : ∀ call, ((plan call).locks.map (·.1)).Nodup)
    (h : Reachable plan part s) {t t' : T} (hne : t ≠ t') {call call' : C}
    (hlive : s.phase t = .live call) (hlive' : s.phase t' = .live call') {key : K} {m m' : Mode}
    (hmem : (key, m) ∈ (plan call).locks) (hmem' : (key, m') ∈ (plan call').locks) :
    m.compatible m' = true := by
  have hinv := h.inv hplan
  have hholds := hinv.phases t
  have hholds' := hinv.phases t'
  rw [hlive] at hholds
  rw [hlive'] at hholds'
  obtain ⟨lock, hlock⟩ := hholds.has key m hmem
  obtain ⟨lock', hlock'⟩ := hholds'.has key m' hmem'
  have hsame := (hinv.registry.registered t key _ hlock).symm.trans
    (hinv.registry.registered t' key _ hlock')
  exact hinv.compatible t key _ t' key _ hlock hlock' (by simp [hne]) (Option.some.inj hsame) rfl rfl

/-! ## Waiting -/

/-- A task waits for a key. -/
def WaitsFor (s : State T K C) (t : T) (key : K) : Prop :=
  ∃ call mode rest, s.phase t = .waiting call key mode rest

/-- A task waits on another: for a lock the other has a guard of, or is ahead of it
for. -/
def WaitsOn (ahead : T → T → Prop) (s : State T K C) (t t' : T) : Prop :=
  ∃ key handle key' handle', WaitsFor s t key ∧ s.handles.lookup (t, key) = some handle ∧
    s.handles.lookup (t', key') = some handle' ∧ handle'.lock = handle.lock ∧
    (handle'.held = true ∨ (handle'.held = false ∧ ahead t' t))

variable {r : K → K → Prop}

omit [DecidableEq T] [DecidableEq K] in
theorem WaitsFor.unique {t : T} {key key' : K} (h : WaitsFor s t key) (h' : WaitsFor s t key') :
    key = key' := by
  obtain ⟨_, _, _, hphase⟩ := h
  obtain ⟨_, _, _, hphase'⟩ := h'
  cases hphase.symm.trans hphase'
  rfl

/-- The other waits for a later key, or for the same one and is ahead. -/
theorem WaitsOn.next (hinv : Inv plan s) (hplan : ∀ call, ((plan call).locks.map (·.1)).Pairwise r)
    {ahead : T → T → Prop} {t t' : T} {key key' : K} (h : WaitsOn ahead s t t')
    (hwaits : WaitsFor s t key) (hwaits' : WaitsFor s t' key') :
    r key key' ∨ (key = key' ∧ ahead t' t) := by
  obtain ⟨own, handle, other, handle', hown, hlookup, hlookup', hlock, hcase⟩ := h
  obtain rfl := hwaits.unique hown
  -- One lock has one key.
  have hregistered := hinv.registry.registered t' other handle' hlookup'
  rw [hlock] at hregistered
  obtain rfl := hinv.registry.injective _ _ _ (hinv.registry.registered t key handle hlookup)
    hregistered
  obtain ⟨call, mode, rest, hphase⟩ := hwaits'
  have hholds := hinv.phases t'
  rw [hphase] at hholds
  obtain ⟨done, hdone, ⟨lock, hpending⟩, hsub, -⟩ := hholds
  by_cases hkey : key = key'
  · subst hkey
    cases hlookup'.symm.trans hpending
    exact .inr ⟨rfl, by simpa using hcase⟩
  · obtain ⟨-, hmem⟩ := hsub key handle' hkey hlookup'
    have hsorted := hplan call
    rw [hdone, List.map_append, List.pairwise_append] at hsorted
    exact .inl (hsorted.2.2 key (List.mem_map_of_mem hmem) key' (by simp))

theorem WaitsOn.path [IsTrans K r] (hinv : Inv plan s)
    (hplan : ∀ call, ((plan call).locks.map (·.1)).Pairwise r) {ahead : T → T → Prop}
    [IsTrans T ahead] {t t' : T} (h : Relation.TransGen (WaitsOn ahead s) t t') {key key' : K}
    (hwaits : WaitsFor s t key) (hwaits' : WaitsFor s t' key') :
    r key key' ∨ (key = key' ∧ ahead t' t) := by
  induction h generalizing key' with
  | single hedge => exact hedge.next hinv hplan hwaits hwaits'
  | @tail mid last _ hedge ih =>
    obtain ⟨between, _, _, _, hmid, -⟩ := id hedge
    rcases ih hmid with hbefore | ⟨rfl, hbefore⟩ <;>
      rcases hedge.next hinv hplan hmid hwaits' with hafter | ⟨rfl, hafter⟩
    · exact .inl (trans_of r hbefore hafter)
    · exact .inl hbefore
    · exact .inl hafter
    · exact .inr ⟨rfl, trans_of ahead hafter hbefore⟩

/-- Tasks that follow one order of the keys do not wait on each other in a cycle,
however the locks queue those who wait. -/
theorem no_wait_cycle [IsTrans K r] [Std.Irrefl r]
    (hplan : ∀ call, ((plan call).locks.map (·.1)).Pairwise r)
    (h : Reachable plan part s) {ahead : T → T → Prop} [IsTrans T ahead] [Std.Irrefl ahead] (t : T) :
    ¬ Relation.TransGen (WaitsOn ahead s) t t := by
  intro hcycle
  have hinv := h.inv fun call => (hplan call).imp fun hr heq => by
    subst heq
    exact irrefl_of r _ hr
  obtain ⟨_, ⟨key, _, _, _, hwaits, -⟩, -⟩ := Relation.TransGen.head'_iff.mp hcycle
  rcases WaitsOn.path hinv hplan hcycle hwaits hwaits with hr | ⟨-, hahead⟩
  · exact irrefl_of r key hr
  · exact irrefl_of ahead t hahead

end Results

end Model

end Locks
