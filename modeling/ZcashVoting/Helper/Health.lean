import Mathlib.Data.List.Perm.Basic
import Mathlib.Logic.Function.Basic
import ZcashVoting.Helper.Url

/-!
# ZcashVoting.Helper.Health

The health table of helper servers, shared by every client and tracking loop of the process.
After enough failures in a row a helper is demoted for a while.  Demotion only orders the
candidates: no helper is ever left out, a demoted one really failed often enough since it last
answered, and its demotion ends.

The table is locked for each operation on one helper, so the operations of all holders are one
sequence; a list of candidates is put together from several of them.  A helper without an entry
has the default state.  Poisoning is left out.
-/

namespace ZcashVoting.Helper

/-- `HelperState`. -/
structure HelperState where
  consecutiveFailures : Nat := 0
  openedAt : Option Nat := none

/-- `HelperHealth` without its table. -/
structure HelperHealth where
  failureThreshold : U32
  cooldownSeconds : Nat

abbrev HelperStates := String → HelperState

/-- `helper_identity_key`. -/
def helperIdentityKey (U : UrlCrate) (serverUrl : String) : String :=
  match canonicalizeHelperBaseUrl U serverUrl with
  | .ok canonical => canonical
  | .error _ => serverUrl

/-- An operation that locks the table. -/
inductive HealthOp where
  | isAvailable (serverUrl : String) (nowSeconds : Nat)
  | recordSuccess (serverUrl : String)
  | recordFailure (serverUrl : String) (nowSeconds : Nat)

namespace HelperHealth

/-- `HelperHealth::new`. -/
def new (failureThreshold : U32) (cooldownSeconds : Nat) : HelperHealth :=
  ⟨max failureThreshold ⟨1, by decide⟩, cooldownSeconds⟩

variable (U : UrlCrate) (health : HelperHealth)

/-- `expire_cooldown_if_elapsed`. -/
def expireCooldownIfElapsed (state : HelperState) (nowSeconds : Nat) : HelperState :=
  match state.openedAt with
  | none => state
  | some openedAt =>
    if nowSeconds - openedAt < health.cooldownSeconds then state
    else ⟨health.failureThreshold.val - 1, none⟩

/-- The update of `record_failure`. -/
def fail (state : HelperState) (nowSeconds : Nat) : HelperState :=
  let state := health.expireCooldownIfElapsed state nowSeconds
  let consecutiveFailures := min (state.consecutiveFailures + 1) u32Max
  if health.failureThreshold.val ≤ consecutiveFailures ∧ state.openedAt = none then
    ⟨consecutiveFailures, some nowSeconds⟩
  else { state with consecutiveFailures }

/-- `is_available`, `record_success` and `record_failure` on the table. -/
def perform (states : HelperStates) : HealthOp → HelperStates
  | .isAvailable serverUrl nowSeconds =>
    let key := helperIdentityKey U serverUrl
    Function.update states key (health.expireCooldownIfElapsed (states key) nowSeconds)
  | .recordSuccess serverUrl => Function.update states (helperIdentityKey U serverUrl) {}
  | .recordFailure serverUrl nowSeconds =>
    let key := helperIdentityKey U serverUrl
    Function.update states key (health.fail (states key) nowSeconds)

/-- The table after the operations of all holders, in the order of their locks. -/
def after (ops : List HealthOp) : HelperStates :=
  ops.foldl (health.perform U) fun _ => {}

/-- The answer of `is_available` after some operations. -/
def isAvailable (ops : List HealthOp) (serverUrl : String) (nowSeconds : Nat) : Bool :=
  (health.expireCooldownIfElapsed (health.after U ops (helperIdentityKey U serverUrl))
    nowSeconds).openedAt.isNone

/-- The checks of a call of `candidate_servers`, each with the operations before it: `turns` are the
helpers in the caller's order, each with what other holders did since the check before. -/
def checks (nowSeconds : Nat) (ops : List HealthOp) :
    List (List HealthOp × String) → List (List HealthOp × String)
  | [] => []
  | (others, serverUrl) :: turns =>
    (ops ++ others, serverUrl) ::
      checks nowSeconds (ops ++ others ++ [.isAvailable serverUrl nowSeconds]) turns

/-- `candidate_servers`, amid the operations of other holders. -/
def candidateServers (nowSeconds : Nat) (ops : List HealthOp)
    (turns : List (List HealthOp × String)) : List String :=
  let checked := checks nowSeconds ops turns
  let isAvailable check := health.isAvailable U check.1 check.2 nowSeconds
  let available := (checked.filter isAvailable).map Prod.snd
  let degraded := (checked.filter fun check => !isAvailable check).map Prod.snd
  if available.isEmpty then turns.map Prod.snd else available ++ degraded

end HelperHealth

/-! ## A helper's state and its history -/

/-- The times of a helper's failures since it last answered, after one more operation. -/
def nextFailures (U : UrlCrate) (key : String) (failures : List Nat) : HealthOp → List Nat
  | .isAvailable _ _ => failures
  | .recordSuccess serverUrl => if key = helperIdentityKey U serverUrl then [] else failures
  | .recordFailure serverUrl now =>
    if key = helperIdentityKey U serverUrl then failures ++ [now] else failures

/-- The times of a helper's failures since it last answered. -/
def failuresSince (U : UrlCrate) (key : String) (ops : List HealthOp) : List Nat :=
  ops.foldl (nextFailures U key) []

/-- What the table says of a helper, against its failures since it last answered. -/
structure Tracks (health : HelperHealth) (failures : List Nat) (state : HelperState) : Prop where
  counted : state.consecutiveFailures ≤ failures.length
  opened : ∀ openedAt, state.openedAt = some openedAt →
    health.failureThreshold.val ≤ state.consecutiveFailures ∧ openedAt ∈ failures

section

variable {U : UrlCrate} {health : HelperHealth} {key : String} {failures : List Nat}
  {state : HelperState} {now : Nat}

theorem Tracks.expire (h : Tracks health failures state) :
    Tracks health failures (health.expireCooldownIfElapsed state now) := by
  unfold HelperHealth.expireCooldownIfElapsed
  split
  · exact h
  · next openedAt hopened =>
    have hle := (h.opened openedAt hopened).1
    have hcounted := h.counted
    split
    · exact h
    · exact ⟨by simp only; omega, by simp⟩

theorem Tracks.fail (h : Tracks health failures state) :
    Tracks health (failures ++ [now]) (health.fail state now) := by
  have hexpired : Tracks health failures (health.expireCooldownIfElapsed state now) := h.expire
  have hbounded := health.failureThreshold.2
  simp only [HelperHealth.fail]
  generalize health.expireCooldownIfElapsed state now = expired at hexpired ⊢
  have hcounted := hexpired.counted
  split
  · next hcross =>
    refine ⟨by simp only [List.length_append, List.length_singleton]; omega, fun openedAt hat => ?_⟩
    obtain rfl := Option.some.inj hat
    exact ⟨hcross.1, by simp⟩
  · refine ⟨by simp only [List.length_append, List.length_singleton]; omega,
      fun openedAt hopened => ?_⟩
    obtain ⟨hle, hmem⟩ := hexpired.opened openedAt hopened
    exact ⟨by simp only; omega, List.mem_append_left _ hmem⟩

namespace HelperHealth

variable {ops : List HealthOp}

/-- One operation keeps the table in step with the history. -/
theorem tracks_perform {states : HelperStates} (op : HealthOp)
    (h : Tracks health failures (states key)) :
    Tracks health (nextFailures U key failures op) (health.perform U states op key) := by
  cases op <;> simp only [perform, nextFailures, Function.update_apply]
  case isAvailable =>
    split
    · next hkey => subst hkey; exact h.expire
    · exact h
  case recordSuccess =>
    split
    · exact ⟨by simp, by simp⟩
    · exact h
  case recordFailure =>
    split
    · next hkey => subst hkey; exact h.fail
    · exact h

/-- The run lemma: every helper's state is that of its failures. -/
theorem tracks_after (U : UrlCrate) (health : HelperHealth) (ops : List HealthOp) (key : String) :
    Tracks health (failuresSince U key ops) (health.after U ops key) := by
  induction ops using List.reverseRecOn with
  | nil => exact ⟨by simp [after], by simp [after]⟩
  | append_singleton ops op ih =>
    simp only [after, failuresSince, List.foldl_append, List.foldl_cons, List.foldl_nil]
    exact tracks_perform op ih

/-! ## The order of the candidates -/

theorem checks_map_snd (now : Nat) (ops : List HealthOp) (turns : List (List HealthOp × String)) :
    (checks now ops turns).map Prod.snd = turns.map Prod.snd := by
  induction turns generalizing ops with
  | nil => rfl
  | cons turn turns ih => simp [checks, ih]

/-- The helper failed as often as the threshold since it last answered, and one of these failures
is less than a cooldown ago. -/
def HasCause (U : UrlCrate) (health : HelperHealth) (now : Nat) (ops : List HealthOp)
    (serverUrl : String) : Prop :=
  let failures := failuresSince U (helperIdentityKey U serverUrl) ops
  health.failureThreshold.val ≤ failures.length ∧
    ∃ openedAt ∈ failures, now - openedAt < health.cooldownSeconds

theorem hasCause_of_unavailable {serverUrl : String}
    (h : health.isAvailable U ops serverUrl now = false) : HasCause U health now ops serverUrl := by
  have htracks := tracks_after U health ops (helperIdentityKey U serverUrl)
  rw [isAvailable, expireCooldownIfElapsed] at h
  split at h
  · next hclosed => simp [hclosed] at h
  · next openedAt hopened =>
    obtain ⟨hle, hmem⟩ := htracks.opened openedAt hopened
    split at h
    · next hnow => exact ⟨hle.trans htracks.counted, openedAt, hmem, hnow⟩
    · simp at h

/-- A call of `candidate_servers` amid operations of any holders of the table returns all helpers,
in the caller's order but for demoted ones at the back, and each of those was demoted for a
cause. -/
theorem candidate_servers_demotes_with_cause (U : UrlCrate) (health : HelperHealth) (now : Nat)
    (ops : List HealthOp) (turns : List (List HealthOp × String)) :
    ∃ kept demoted, health.candidateServers U now ops turns = kept ++ demoted ∧
      (kept ++ demoted).Perm (turns.map Prod.snd) ∧
      kept.Sublist (turns.map Prod.snd) ∧ demoted.Sublist (turns.map Prod.snd) ∧
      ∀ serverUrl ∈ demoted, ∃ before, (before, serverUrl) ∈ checks now ops turns ∧
        HasCause U health now before serverUrl := by
  simp only [candidateServers]
  rw [← checks_map_snd now ops turns]
  split
  · exact ⟨_, [], (List.append_nil _).symm, by simp, .refl _, by simp, by simp⟩
  · refine ⟨_, _, rfl, ?_, List.filter_sublist.map _, List.filter_sublist.map _, ?_⟩
    · rw [← List.map_append]
      exact (List.filter_append_perm _ _).map _
    · simp only [List.mem_map, List.mem_filter]
      rintro _ ⟨⟨before, serverUrl⟩, ⟨hmem, hdemoted⟩, rfl⟩
      exact ⟨before, hmem, hasCause_of_unavailable (by simpa using hdemoted)⟩

end HelperHealth

end

end ZcashVoting.Helper
