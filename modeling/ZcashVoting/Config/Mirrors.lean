import ZcashVoting.Types

/-!
# ZcashVoting.Config.Mirrors

The dynamic voting config is read from the first of several mirrors that serves one with
authenticated rounds.  `resolve_dynamic_voting_config_from_attempts` takes the attempts at
all mirrors; `resolve_dynamic_voting_config_over_mirrors` fetches one mirror after the other,
resolves the attempts made so far each time and stops as soon as rounds were authenticated.

A walk over the attempts only ever adds to what it passed over and keeps the first config
without rounds that it met, so the walk over more attempts continues the one over fewer.
-/

namespace ZcashVoting.Config

/-- `VotingConfigError`. -/
inductive VotingConfigError where
  | invalidInput (message : String)
  | decodeFailed (message : String)
  | unsupportedVersion (component advertised : String)
  | remoteAuthenticationFailed (message : String)
  | allMirrorsFailed (message : String)
  deriving DecidableEq

/-- The text of an error. -/
def VotingConfigError.display : VotingConfigError → String
  | .invalidInput message => s!"invalid input: {message}"
  | .decodeFailed message => s!"decode failed: {message}"
  | .unsupportedVersion component advertised =>
    s!"unsupported version for {component}: {advertised}"
  | .remoteAuthenticationFailed message => s!"remote authentication failed: {message}"
  | .allMirrorsFailed message => s!"all dynamic config mirrors failed: {message}"

/-- `ConfigConditionKind`. -/
inductive ConfigConditionKind where
  | staticHashPinVerified
  | staticConfigDecoded
  | dynamicConfigDecoded
  | dynamicSignaturesVerified
  | versionsSupported
  | dynamicMirrorFallbackUsed
  deriving DecidableEq

/-- `ConfigCondition`. -/
structure ConfigCondition where
  kind : ConfigConditionKind
  status : Bool
  message : String
  deriving DecidableEq

/-- `AuthenticatedRound`. -/
structure AuthenticatedRound where
  roundId : String
  eaPk : Bytes
  deriving DecidableEq

/-- `ResolvedVotingConfig`; what resolution over mirrors does not look at is in `service`. -/
structure ResolvedVotingConfig (Service : Type) where
  service : Service
  authenticatedRounds : List AuthenticatedRound
  conditions : List ConfigCondition
  deriving DecidableEq

/-- `DynamicConfigAttempt`. -/
structure DynamicConfigAttempt where
  url : String
  result : Except String Bytes

/-- `DynamicConfigMirrorFailure`. -/
structure DynamicConfigMirrorFailure where
  url : String
  reason : String
  deriving DecidableEq

variable {Service : Type}

/-- A config, and the mirrors that were passed over for it. -/
abbrev Resolution (Service : Type) :=
  ResolvedVotingConfig Service × List DynamicConfigMirrorFailure

/-- `finish`. -/
def finish (resolved : ResolvedVotingConfig Service) (url : String)
    (skipped : List DynamicConfigMirrorFailure) : Resolution Service :=
  if skipped.isEmpty then (resolved, skipped)
  else
    let count := skipped.length
    ({ resolved with
      conditions := resolved.conditions ++ [⟨.dynamicMirrorFallbackUsed, true,
        s!"resolved from fallback mirror {url} after skipping {count} mirror(s)"⟩] }, skipped)

@[simp] theorem authenticatedRounds_finish (resolved : ResolvedVotingConfig Service) (url : String)
    (skipped : List DynamicConfigMirrorFailure) :
    (finish resolved url skipped).1.authenticatedRounds = resolved.authenticatedRounds := by
  unfold finish
  split <;> rfl

/-! ## All attempts -/

/-- The local variables of the loop over the attempts. -/
structure Walk (Service : Type) where
  skipped : List DynamicConfigMirrorFailure := []
  lastError : Option VotingConfigError := none
  /-- The first config without rounds, its mirror, and how many were skipped before it. -/
  roundLess : Option (ResolvedVotingConfig Service × String × Nat) := none

namespace Walk

/-- Pass over a mirror for an error. -/
def fail (state : Walk Service) (url reason : String) (error : VotingConfigError) : Walk Service :=
  { state with skipped := state.skipped ++ [⟨url, reason⟩], lastError := some error }

/-- Pass over a mirror whose config has no rounds, and remember the first one. -/
def deprioritize (state : Walk Service) (resolved : ResolvedVotingConfig Service) (url : String) :
    Walk Service :=
  { state with
    roundLess := state.roundLess.or (some (resolved, url, state.skipped.length))
    skipped := state.skipped ++ [⟨url, "resolved config authenticated no rounds"⟩] }

end Walk

variable (resolve : Bytes → Except VotingConfigError (ResolvedVotingConfig Service))

/-- The body of the loop over the attempts: it returns, or goes on. -/
def visit (state : Walk Service) (attempt : DynamicConfigAttempt) :
    Resolution Service ⊕ Walk Service :=
  match attempt.result with
  | .error error =>
    .inr (state.fail attempt.url s!"fetch failed: {error}"
      (.remoteAuthenticationFailed s!"dynamic config fetch failed: {error}"))
  | .ok bytes =>
    match resolve bytes with
    | .ok resolved =>
      if resolved.authenticatedRounds.isEmpty then .inr (state.deprioritize resolved attempt.url)
      else .inl (finish resolved attempt.url state.skipped)
    | .error error => .inr (state.fail attempt.url error.display error)

/-- The loop over the attempts. -/
def walk (state : Walk Service) : List DynamicConfigAttempt → Resolution Service ⊕ Walk Service
  | [] => .inr state
  | attempt :: attempts => (visit resolve state attempt).elim .inl (walk · attempts)

/-- The message of `AllMirrorsFailed`. -/
def enumerateFailures (skipped : List DynamicConfigMirrorFailure) : String :=
  "; ".intercalate (skipped.map fun failure => s!"{failure.url}: {failure.reason}")

/-- What follows the loop.  A walk with neither a config nor an error panics. -/
def Walk.conclude (state : Walk Service) (attemptCount : Nat) :
    Option (Except VotingConfigError (Resolution Service)) :=
  match state.roundLess with
  | some (resolved, url, skippedBefore) =>
    some (.ok (finish resolved url (state.skipped.take skippedBefore)))
  | none => state.lastError.map fun onlyError =>
    if attemptCount = 1 then .error onlyError
    else .error (.allMirrorsFailed (enumerateFailures state.skipped))

/-- The answer to a list without mirrors. -/
def noMirrors : VotingConfigError :=
  .invalidInput "dynamic config attempts must contain at least one entry"

/-- `resolve_dynamic_voting_config_from_attempts`; `none` is a panic.  How the bytes of one
mirror resolve depends on nothing else that changes between calls. -/
def resolveDynamicVotingConfigFromAttempts (attempts : List DynamicConfigAttempt) :
    Option (Except VotingConfigError (Resolution Service)) :=
  if attempts.isEmpty then some (.error noMirrors)
  else
    match walk resolve {} attempts with
    | .inl resolution => some (.ok resolution)
    | .inr state => state.conclude attempts.length

/-! ## One mirror at a time -/

/-- How a fetch ends: with bytes, with an error, or not in time. -/
inductive Fetch where
  | fetched (bytes : Bytes)
  | failed (error : String)
  | timedOut

/-- The attempt that a fetch is recorded as. -/
def Fetch.attempt (timeoutSecs : Nat) (url : String) : Fetch → DynamicConfigAttempt
  | .fetched bytes => ⟨url, .ok bytes⟩
  | .failed error => ⟨url, .error error⟩
  | .timedOut => ⟨url, .error s!"timed out after {timeoutSecs}s"⟩

variable (timeoutSecs : Nat)

/-- The loop over the mirrors; `fetch` answers the calls in their order. -/
def mirrorsLoop (urlCount : Nat) (fetch : Nat → String → Fetch) (attempts : List DynamicConfigAttempt)
    (best : Option (Resolution Service)) :
    List String → Option (Except VotingConfigError (Resolution Service))
  | [] => some (match best with
    | some resolution => .ok resolution
    | none => .error noMirrors)
  | url :: urls =>
    let attempts := attempts ++ [(fetch attempts.length url).attempt timeoutSecs url]
    match resolveDynamicVotingConfigFromAttempts resolve attempts with
    | none => none
    | some (.ok resolution) =>
      if resolution.1.authenticatedRounds.isEmpty then
        mirrorsLoop urlCount fetch attempts (some resolution) urls
      else some (.ok resolution)
    | some (.error error) =>
      if attempts.length = urlCount ∧ best = none then some (.error error)
      else mirrorsLoop urlCount fetch attempts best urls

/-- `resolve_dynamic_voting_config_over_mirrors`. -/
def resolveDynamicVotingConfigOverMirrors (fetch : Nat → String → Fetch) (urls : List String) :
    Option (Except VotingConfigError (Resolution Service)) :=
  if urls.isEmpty then some (.error noMirrors)
  else mirrorsLoop resolve timeoutSecs urls.length fetch [] none urls

/-- The attempts at all mirrors, the next call of `fetch` being number `start`. -/
def allAttempts (fetch : Nat → String → Fetch) (start : Nat) (urls : List String) :
    List DynamicConfigAttempt :=
  (urls.zipIdx start).map fun (url, index) => (fetch index url).attempt timeoutSecs url

/-! ## Walks continue each other -/

section Walks

/-- The mirror's bytes resolve to a config with rounds. -/
def DynamicConfigAttempt.HasRounds (resolve : Bytes → Except VotingConfigError
    (ResolvedVotingConfig Service)) (attempt : DynamicConfigAttempt) : Prop :=
  ∃ bytes resolved, attempt.result = .ok bytes ∧ resolve bytes = .ok resolved ∧
    resolved.authenticatedRounds ≠ []

/-- Everything one attempt can do: return a config with rounds, or pass over a mirror without. -/
theorem visit_cases (state : Walk Service) (attempt : DynamicConfigAttempt) :
    (∃ resolution, visit resolve state attempt = .inl resolution ∧
      resolution.1.authenticatedRounds ≠ []) ∨
    ¬ attempt.HasRounds resolve ∧
      ((∃ reason error, visit resolve state attempt = .inr (state.fail attempt.url reason error)) ∨
        ∃ resolved, resolved.authenticatedRounds = [] ∧
          visit resolve state attempt = .inr (state.deprioritize resolved attempt.url)) := by
  cases hresult : attempt.result with
  | error error =>
    exact .inr ⟨by simp [DynamicConfigAttempt.HasRounds, hresult],
      .inl ⟨_, _, by rw [visit, hresult]⟩⟩
  | ok bytes =>
    cases hresolve : resolve bytes with
    | error error =>
      exact .inr ⟨by simp [DynamicConfigAttempt.HasRounds, hresult, hresolve],
        .inl ⟨error.display, error, by simp only [visit, hresult, hresolve]⟩⟩
    | ok resolved =>
      by_cases hempty : resolved.authenticatedRounds = []
      · exact .inr ⟨by simp [DynamicConfigAttempt.HasRounds, hresult, hresolve, hempty],
          .inr ⟨resolved, hempty, by simp [visit, hresult, hresolve, hempty]⟩⟩
      · exact .inl ⟨_, by simp [visit, hresult, hresolve, hempty]; rfl, by simpa using hempty⟩

variable {resolve} {state after : Walk Service} {attempts rest : List DynamicConfigAttempt}
  {resolution : Resolution Service}

theorem walk_append_of_inl (h : walk resolve state attempts = .inl resolution) :
    walk resolve state (attempts ++ rest) = .inl resolution := by
  induction attempts generalizing state with
  | nil => cases h
  | cons attempt attempts ih =>
    rw [List.cons_append, walk]
    rw [walk] at h
    cases hvisit : visit resolve state attempt <;> simp_all

theorem walk_append_of_inr (h : walk resolve state attempts = .inr after) :
    walk resolve state (attempts ++ rest) = walk resolve after rest := by
  induction attempts generalizing state with
  | nil =>
    cases h
    rfl
  | cons attempt attempts ih =>
    rw [List.cons_append, walk]
    rw [walk] at h
    cases hvisit : visit resolve state attempt <;> simp_all

/-- A walk that returns has met rounds. -/
theorem walk_inl_rounds (h : walk resolve state attempts = .inl resolution) :
    resolution.1.authenticatedRounds ≠ [] := by
  induction attempts generalizing state with
  | nil => cases h
  | cons attempt attempts ih =>
    rw [walk] at h
    obtain ⟨_, hvisit, hrounds⟩ | ⟨-, ⟨_, _, hvisit⟩ | ⟨_, -, hvisit⟩⟩ :=
      visit_cases resolve state attempt
    · rw [hvisit] at h
      cases h
      exact hrounds
    · exact ih (by rwa [hvisit] at h)
    · exact ih (by rwa [hvisit] at h)

/-- A walk that does not return keeps what both ways of passing over a mirror keep. -/
theorem walk_invariant (I : Walk Service → Prop)
    (hfail : ∀ state url reason error, I state → I (state.fail url reason error))
    (hdeprioritize : ∀ state resolved url, resolved.authenticatedRounds = [] → I state →
      I (state.deprioritize resolved url))
    (h : walk resolve state attempts = .inr after) (hstart : I state) :
    I after ∧ ∀ attempt ∈ attempts, ¬ attempt.HasRounds resolve := by
  induction attempts generalizing state with
  | nil =>
    cases h
    exact ⟨hstart, by simp⟩
  | cons attempt attempts ih =>
    rw [walk] at h
    obtain ⟨_, hvisit, -⟩ | ⟨hnone, ⟨_, _, hvisit⟩ | ⟨_, hempty, hvisit⟩⟩ :=
      visit_cases resolve state attempt <;> rw [hvisit] at h
    · cases h
    · obtain ⟨hafter, hattempts⟩ := ih h (hfail _ _ _ _ hstart)
      exact ⟨hafter, List.forall_mem_cons.mpr ⟨hnone, hattempts⟩⟩
    · obtain ⟨hafter, hattempts⟩ := ih h (hdeprioritize _ _ _ hempty hstart)
      exact ⟨hafter, List.forall_mem_cons.mpr ⟨hnone, hattempts⟩⟩

/-- The config kept for want of a better one has no rounds. -/
theorem roundLess_of_walk (h : walk resolve {} attempts = .inr after) :
    ∀ kept ∈ after.roundLess, kept.1.authenticatedRounds = [] := by
  refine (walk_invariant (fun state => ∀ kept ∈ state.roundLess, kept.1.authenticatedRounds = [])
    (fun _ _ _ _ hstate => hstate) (fun state resolved url hempty hstate => ?_) h (by simp)).1
  cases hkept : state.roundLess <;> simp_all [Walk.deprioritize]

/-- It stays. -/
theorem roundLess_isSome_of_walk (h : walk resolve state attempts = .inr after)
    (hkept : state.roundLess.isSome = true) : after.roundLess.isSome = true :=
  (walk_invariant (·.roundLess.isSome = true) (fun _ _ _ _ hstate => hstate)
    (fun _ _ _ _ _ => by simp [Walk.deprioritize]) h hkept).1

/-- There is a config or an error. -/
def Walk.Ready (state : Walk Service) : Prop :=
  state.roundLess.isSome = true ∨ state.lastError.isSome = true

theorem ready_of_walk (hne : attempts ≠ []) (h : walk resolve state attempts = .inr after) :
    after.Ready := by
  have hfail : ∀ (state : Walk Service) url reason error, (state.fail url reason error).Ready :=
    fun _ _ _ _ => .inr rfl
  have hdeprioritize : ∀ (state : Walk Service) resolved url, (state.deprioritize resolved url).Ready :=
    fun _ _ _ => .inl (by simp [Walk.deprioritize])
  have hkeep : ∀ {state rest}, walk resolve state rest = .inr after → state.Ready → after.Ready :=
    fun h hready => (walk_invariant Walk.Ready (fun _ _ _ _ _ => hfail _ _ _ _)
      (fun _ _ _ _ _ => hdeprioritize _ _ _) h hready).1
  cases attempts with
  | nil => exact absurd rfl hne
  | cons attempt attempts =>
    rw [walk] at h
    obtain ⟨_, hvisit, -⟩ | ⟨-, ⟨_, _, hvisit⟩ | ⟨_, -, hvisit⟩⟩ :=
      visit_cases resolve state attempt <;> rw [hvisit] at h
    · cases h
    · exact hkeep h (hfail _ _ _ _)
    · exact hkeep h (hdeprioritize _ _ _)

end Walks

/-! ## The two agree -/

variable {resolve} {attempts : List DynamicConfigAttempt} {state : Walk Service}

theorem fromAttempts_of_inl {resolution : Resolution Service}
    (h : walk resolve {} attempts = .inl resolution) :
    resolveDynamicVotingConfigFromAttempts resolve attempts = some (.ok resolution) := by
  cases attempts with
  | nil => cases h
  | cons attempt attempts => simp [resolveDynamicVotingConfigFromAttempts, h]

/-- A walk that does not return concludes with a config without rounds or with an error. -/
theorem fromAttempts_of_inr (hne : attempts ≠ []) (h : walk resolve {} attempts = .inr state) :
    (∃ resolution, resolveDynamicVotingConfigFromAttempts resolve attempts = some (.ok resolution) ∧
      resolution.1.authenticatedRounds = [] ∧ state.roundLess.isSome = true) ∨
    ∃ error, resolveDynamicVotingConfigFromAttempts resolve attempts = some (.error error) ∧
      state.roundLess = none := by
  have hconclude : resolveDynamicVotingConfigFromAttempts resolve attempts =
      state.conclude attempts.length := by
    simp [resolveDynamicVotingConfigFromAttempts, hne, h]
  rw [hconclude, Walk.conclude]
  cases hkept : state.roundLess with
  | some kept =>
    have hempty := roundLess_of_walk h kept hkept
    exact .inl ⟨_, rfl, by simpa using hempty, rfl⟩
  | none =>
    have herror := (ready_of_walk hne h).resolve_left (by simp [hkept])
    obtain ⟨error, herror⟩ := Option.isSome_iff_exists.mp herror
    by_cases hone : attempts.length = 1
    · exact .inr ⟨error, by simp [herror, hone], rfl⟩
    · exact .inr ⟨_, by simp [herror, hone]; rfl, rfl⟩

/-- The loop over the mirrors that are left ends as the walk over all attempts.  It carries the
walk over the attempts made so far, which has kept a config if the loop has. -/
theorem mirrorsLoop_eq (fetch : Nat → String → Fetch) (urls : List String) {urlCount : Nat}
    {best : Option (Resolution Service)} (hwalk : walk resolve {} attempts = .inr state)
    (hbest : best ≠ none → state.roundLess.isSome = true)
    (hlast : urls = [] → ∃ resolution, best = some resolution ∧
      resolveDynamicVotingConfigFromAttempts resolve attempts = some (.ok resolution))
    (hcount : urlCount = attempts.length + urls.length) :
    mirrorsLoop resolve timeoutSecs urlCount fetch attempts best urls =
      resolveDynamicVotingConfigFromAttempts resolve
        (attempts ++ allAttempts timeoutSecs fetch attempts.length urls) := by
  induction urls generalizing attempts best state with
  | nil =>
    obtain ⟨resolution, rfl, hfrom⟩ := hlast rfl
    simp [mirrorsLoop, allAttempts, hfrom]
  | cons url urls ih =>
    have hall : attempts ++ allAttempts timeoutSecs fetch attempts.length (url :: urls) =
        attempts ++ [(fetch attempts.length url).attempt timeoutSecs url] ++
          allAttempts timeoutSecs fetch (attempts.length + 1) urls := by
      simp [allAttempts, List.zipIdx_cons]
    rw [mirrorsLoop, hall]
    generalize hmade : attempts ++ [(fetch attempts.length url).attempt timeoutSecs url] = made
    have hlength : made.length = attempts.length + 1 := by simp [← hmade]
    have hne : made ≠ [] := by simp [← hmade]
    have hcount : urlCount = made.length + urls.length := by
      rw [hcount, hlength, List.length_cons]
      omega
    rw [← hlength]
    cases hstep : walk resolve {} made with
    | inl resolution =>
      have hrounds := walk_inl_rounds hstep
      rw [fromAttempts_of_inl (walk_append_of_inl hstep)]
      simp [fromAttempts_of_inl hstep, hrounds]
    | inr after =>
      have hcontinue : walk resolve state [(fetch attempts.length url).attempt timeoutSecs url] =
          .inr after := by
        rw [← walk_append_of_inr hwalk, hmade, hstep]
      obtain ⟨resolution, hfrom, hempty, hkept⟩ | ⟨error, hfrom, hnone⟩ :=
        fromAttempts_of_inr hne hstep
      · simp only [hfrom, hempty, List.isEmpty_nil, if_true]
        exact ih hstep (fun _ => hkept) (fun _ => ⟨resolution, rfl, hfrom⟩) hcount
      · -- A config the loop has kept the walk would have kept as well.
        have hbest : best = none := by
          by_contra hsome
          have := roundLess_isSome_of_walk hcontinue (hbest hsome)
          simp [hnone] at this
        by_cases hurls : urls = []
        · subst hurls
          simp [hfrom, hbest, hcount, allAttempts]
        · have hmore : made.length ≠ urlCount := by
            have := List.length_pos_iff.mpr hurls
            omega
          simp only [hfrom, hmore, false_and, if_false]
          exact ih hstep (fun h => absurd hbest h) (fun h => absurd h hurls) hcount

variable (resolve)

/-- Fetching the mirrors one at a time ends exactly as resolving the attempts at all of them:
neither panics, and if any mirror serves a config with authenticated rounds, one with rounds is
returned. -/
theorem overMirrors_eq_fromAttempts (fetch : Nat → String → Fetch) (urls : List String) :
    resolveDynamicVotingConfigOverMirrors resolve timeoutSecs fetch urls =
        resolveDynamicVotingConfigFromAttempts resolve (allAttempts timeoutSecs fetch 0 urls) ∧
      resolveDynamicVotingConfigOverMirrors resolve timeoutSecs fetch urls ≠ none ∧
      ((∃ attempt ∈ allAttempts timeoutSecs fetch 0 urls, attempt.HasRounds resolve) →
        ∃ resolution, resolveDynamicVotingConfigOverMirrors resolve timeoutSecs fetch urls =
            some (.ok resolution) ∧ resolution.1.authenticatedRounds ≠ []) := by
  have heq : resolveDynamicVotingConfigOverMirrors resolve timeoutSecs fetch urls =
      resolveDynamicVotingConfigFromAttempts resolve (allAttempts timeoutSecs fetch 0 urls) := by
    by_cases hurls : urls = []
    · simp [hurls, resolveDynamicVotingConfigOverMirrors, allAttempts,
        resolveDynamicVotingConfigFromAttempts]
    · rw [resolveDynamicVotingConfigOverMirrors, if_neg (by simpa using hurls)]
      exact mirrorsLoop_eq timeoutSecs fetch urls rfl (fun h => absurd rfl h)
        (fun h => absurd h hurls) (by simp)
  refine ⟨heq, ?_, ?_⟩ <;> rw [heq] <;> generalize allAttempts timeoutSecs fetch 0 urls = attempts
  · by_cases hne : attempts = []
    · simp [hne, resolveDynamicVotingConfigFromAttempts]
    · cases hwalk : walk resolve {} attempts with
      | inl resolution => simp [fromAttempts_of_inl hwalk]
      | inr state =>
        obtain ⟨_, hfrom, -⟩ | ⟨_, hfrom, -⟩ := fromAttempts_of_inr hne hwalk <;> simp [hfrom]
  · rintro ⟨attempt, hmem, hrounds⟩
    cases hwalk : walk resolve {} attempts with
    | inl resolution => exact ⟨resolution, fromAttempts_of_inl hwalk, walk_inl_rounds hwalk⟩
    | inr state =>
      have hnone := (walk_invariant (fun _ => True) (by simp) (by simp) hwalk trivial).2
      exact absurd hrounds (hnone attempt hmem)

end ZcashVoting.Config
