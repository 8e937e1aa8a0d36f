import ZcashVoting.Lib.Interaction
import ZcashVoting.ChainSubmission.Result

/-!
# ZcashVoting.ChainSubmission.Episode

An advancement episode: bounded passes until the submission reaches a terminal outcome or
the policy ends the episode, with the host free to interrupt between two passes.

What an episode may do is said once, by the courses its passes can take
(`EpisodeCourse`); every run of the loop takes one of them (`episodeLoop_course`).
-/

namespace ZcashVoting

open Interaction

/-! ## The loop -/

/-- How a pass may reconcile: through known hashes only, or by scanning the
commitment tree. -/
inductive ChainRecoveryMode where
  | statusOnly
  | exactTree
  deriving DecidableEq

/-- Policy for one advancement episode. -/
structure ChainAdvancePolicy where
  initialRecoveryMode : ChainRecoveryMode
  /-- Delay between passes while the row is `Tracking`, in nanoseconds. -/
  pendingRepoll : Nat
  escalateToExactTree : Bool
  /-- Passes per episode; `0` means until the row leaves `Tracking`. -/
  maxPasses : Nat

inductive ChainSubmissionPending where
  | tracking (candidate : CandidateTransactionHash)
  | recovering (candidate : Option CandidateTransactionHash)
      (diagnostic : ChainSubmissionDiagnostic)
  deriving DecidableEq

/-- Where an advancement episode ended. -/
inductive ChainAdvanceOutcome where
  | confirmed (confirmation : ChainSubmissionConfirmation)
  | submittedWithoutHash (diagnostic : ChainSubmissionDiagnostic)
  | rejected (diagnostic : ChainSubmissionDiagnostic)
  | stillPending (pending : ChainSubmissionPending)
  | cancelled
  deriving DecidableEq

/-- `into_result`. -/
def ChainAdvanceOutcome.intoResult : ChainAdvanceOutcome → ChainSubmissionResult
  | .confirmed confirmation => .confirmed confirmation
  | .submittedWithoutHash diagnostic => .submittedWithoutHash diagnostic
  | .rejected diagnostic => .rejected diagnostic
  | .stillPending (.tracking candidate) => .pendingTracking candidate
  | .stillPending (.recovering candidate diagnostic) => .pendingRecovering candidate diagnostic
  | .cancelled => .cancelled

/-- What the host's control says when it is read. -/
structure ControlReading where
  isCancelled : Bool
  operationEpoch : Nat
  deriving DecidableEq

/-- `interrupted`. -/
def ControlReading.interrupts (reading : ControlReading) (entryEpoch : Nat) : Bool :=
  reading.isCancelled || reading.operationEpoch ≠ entryEpoch

/-- What ends the race of a wait: its deadline, or a notification of the control. -/
inductive Wake where
  | elapsed
  | notified
  deriving DecidableEq

/-- The calls of an episode. -/
inductive EpisodeOp where
  | control
  /-- One bounded advancement. -/
  | pass (recovery : ChainRecoveryMode)
  /-- `Instant::now().checked_add(delay)`. -/
  | deadline (delay : Nat)
  | wait (deadline : Nat)
  | awaitInterrupt
  deriving DecidableEq

/-- What the result of a pass is. -/
abbrev PassResult := Except ChainSubmissionFailure ChainSubmissionResult

abbrev EpisodeOp.Ans : EpisodeOp → Type
  | .control => ControlReading
  | .pass _ => PassResult
  | .deadline _ => Option Nat
  | .wait _ => Wake
  | .awaitInterrupt => Unit

/-- Why an episode has no outcome: it failed, or the model did not follow it to its end. -/
inductive EpisodeStop where
  | failure (failure : ChainSubmissionFailure)
  | unfinished
  deriving DecidableEq

abbrev Episode := Prog EpisodeOp EpisodeOp.Ans EpisodeStop

/-- Make one call. -/
def Episode.ask (o : EpisodeOp) : Episode o.Ans := Prog.perform o

open Episode

/-- `interrupted`, asked of the control. -/
def interrupted (entryEpoch : Nat) : Episode Bool := do
  let reading ← ask .control
  return reading.interrupts entryEpoch

/-- The loop of `interrupted_during`, followed for a number of wakes. -/
def interruptedBefore (entryEpoch : Nat) (deadline : Option Nat) : (wakes : Nat) → Episode Bool
  | 0 => .fail .unfinished
  | wakes + 1 => do
    if ← interrupted entryEpoch then return true
    match deadline with
    | some instant =>
      match ← ask (.wait instant) with
      | .elapsed => return false
      -- A wake is not itself the answer: the flags are read again.
      | .notified => interruptedBefore entryEpoch deadline wakes
    | none =>
      ask .awaitInterrupt
      interruptedBefore entryEpoch deadline wakes

/-- `interrupted_during`. -/
def interruptedDuring (delay entryEpoch wakes : Nat) : Episode Bool := do
  let deadline ← ask (.deadline delay)
  interruptedBefore entryEpoch deadline wakes

/-- What `run_episode` does with the result of a pass; `resume` is its next iteration. -/
def followPass (policy : ChainAdvancePolicy) (entryEpoch wakes : Nat)
    (resume : ChainRecoveryMode → (escalated : Bool) → Episode ChainAdvanceOutcome)
    (recovery : ChainRecoveryMode) (escalated : Bool) (passes : Nat) :
    PassResult → Episode ChainAdvanceOutcome
  | .error failure => do
    -- A pass that fails after the host moved on was refused for its epoch.
    if ← interrupted entryEpoch then return .cancelled
    .fail (.failure failure)
  | .ok (.confirmed confirmation) => return .confirmed confirmation
  | .ok (.submittedWithoutHash diagnostic) => return .submittedWithoutHash diagnostic
  | .ok (.rejected diagnostic) => return .rejected diagnostic
  | .ok .cancelled => return .cancelled
  | .ok (.pendingRecovering candidate diagnostic) =>
    if policy.escalateToExactTree && !escalated then
      if policy.maxPasses ≠ 0 ∧ passes ≥ policy.maxPasses then
        return .stillPending (.recovering candidate diagnostic)
      -- Escalating is a different pass, not a repoll.
      else resume .exactTree true
    else return .stillPending (.recovering candidate diagnostic)
  | .ok (.pendingTracking candidate) =>
    if policy.maxPasses ≠ 0 ∧ passes ≥ policy.maxPasses then
      return .stillPending (.tracking candidate)
    else do
      if ← interruptedDuring policy.pendingRepoll entryEpoch wakes then return .cancelled
      resume recovery escalated

/-- The loop of `run_episode`, followed for a number of iterations (`fuel`) and of wakes in
each wait. -/
def episodeLoop (policy : ChainAdvancePolicy) (entryEpoch wakes : Nat)
    (pass : ChainRecoveryMode → Episode PassResult) :
    (fuel : Nat) → (recovery : ChainRecoveryMode) → (escalated : Bool) → (passes : Nat) →
    Episode ChainAdvanceOutcome
  | 0, _, _, _ => .fail .unfinished
  | fuel + 1, recovery, escalated, passes => do
    if ← interrupted entryEpoch then return .cancelled
    let passes := passes + 1
    followPass policy entryEpoch wakes
      (fun recovery escalated => episodeLoop policy entryEpoch wakes pass fuel recovery escalated passes)
      recovery escalated passes (← pass recovery)

/-- `run_episode`. -/
def runEpisode (policy : ChainAdvancePolicy) (entryEpoch : Nat)
    (pass : ChainRecoveryMode → Episode PassResult) (fuel wakes : Nat) :
    Episode ChainAdvanceOutcome :=
  episodeLoop policy entryEpoch wakes pass fuel policy.initialRecoveryMode
    (policy.initialRecoveryMode = .exactTree) 0

/-- The mode of a pass: imported delegations carry no recovery mode. -/
def passRecovery (imported : Bool) (recovery : ChainRecoveryMode) : ChainRecoveryMode :=
  if imported then .statusOnly else recovery

/-- `advance_until_terminal_in_epoch`. -/
def advanceUntilTerminalInEpoch (imported : Bool) (policy : ChainAdvancePolicy)
    (entryEpoch fuel wakes : Nat) : Episode ChainAdvanceOutcome :=
  runEpisode policy entryEpoch (fun recovery => ask (.pass (passRecovery imported recovery)))
    fuel wakes

/-! ## What calls say -/

/-- The passes of an episode, in their order. -/
def passesOf : List (Call EpisodeOp EpisodeOp.Ans) → List (ChainRecoveryMode × PassResult)
  | [] => []
  | ⟨.pass recovery, result⟩ :: calls => (recovery, result) :: passesOf calls
  | _ :: calls => passesOf calls

/-- The host interrupted the episode. -/
def Interrupts (entryEpoch : Nat) (calls : List (Call EpisodeOp EpisodeOp.Ans)) : Prop :=
  ∃ reading : ControlReading, ⟨.control, reading⟩ ∈ calls ∧ reading.interrupts entryEpoch = true

/-- How often a wait was woken without being over. -/
def wakesOf : List (Call EpisodeOp EpisodeOp.Ans) → Nat
  | [] => 0
  | ⟨.wait _, .notified⟩ :: calls => wakesOf calls + 1
  | ⟨.awaitInterrupt, _⟩ :: calls => wakesOf calls + 1
  | _ :: calls => wakesOf calls

theorem passesOf_append (calls later : List (Call EpisodeOp EpisodeOp.Ans)) :
    passesOf (calls ++ later) = passesOf calls ++ passesOf later := by
  fun_induction passesOf calls <;> simp_all [passesOf]

theorem wakesOf_append (calls later : List (Call EpisodeOp EpisodeOp.Ans)) :
    wakesOf (calls ++ later) = wakesOf calls + wakesOf later := by
  fun_induction wakesOf calls <;> simp_all [wakesOf] <;> omega

theorem Interrupts.append {entryEpoch : Nat} {calls : List (Call EpisodeOp EpisodeOp.Ans)}
    (h : Interrupts entryEpoch calls) (earlier : List (Call EpisodeOp EpisodeOp.Ans)) :
    Interrupts entryEpoch (earlier ++ calls) := by
  obtain ⟨reading, hmem, hinterrupts⟩ := h
  exact ⟨reading, List.mem_append_right _ hmem, hinterrupts⟩

/-! ## Courses -/

/-- The passes an episode may make and the result it ends with, from a state of the loop on.
`interrupted` says that the host interrupts it, `delayed` that a wait is not over in time. -/
inductive EpisodeCourse (policy : ChainAdvancePolicy) (imported : Bool) (interrupted delayed : Prop) :
    (fuel : Nat) → ChainRecoveryMode → (escalated : Bool) → (passes : Nat) →
    List (ChainRecoveryMode × PassResult) → Except EpisodeStop ChainAdvanceOutcome → Prop where
  | unfollowed {recovery escalated passes} :
      EpisodeCourse policy imported interrupted delayed 0 recovery escalated passes []
        (.error .unfinished)
  | delayed {fuel recovery escalated passes} : delayed →
      EpisodeCourse policy imported interrupted delayed fuel recovery escalated passes []
        (.error .unfinished)
  | interrupted {fuel recovery escalated passes} : interrupted →
      EpisodeCourse policy imported interrupted delayed fuel recovery escalated passes []
        (.ok .cancelled)
  | failed {fuel recovery escalated passes failure} :
      EpisodeCourse policy imported interrupted delayed (fuel + 1) recovery escalated passes
        [(passRecovery imported recovery, .error failure)] (.error (.failure failure))
  | failedInterrupted {fuel recovery escalated passes failure} : interrupted →
      EpisodeCourse policy imported interrupted delayed (fuel + 1) recovery escalated passes
        [(passRecovery imported recovery, .error failure)] (.ok .cancelled)
  | ended {fuel recovery escalated passes} (outcome : ChainAdvanceOutcome) :
      EpisodeCourse policy imported interrupted delayed (fuel + 1) recovery escalated passes
        [(passRecovery imported recovery, .ok outcome.intoResult)] (.ok outcome)
  | repolled {fuel recovery escalated passes candidate later result} :
      (policy.maxPasses ≠ 0 → passes + 1 < policy.maxPasses) →
      EpisodeCourse policy imported interrupted delayed fuel recovery escalated (passes + 1) later
        result →
      EpisodeCourse policy imported interrupted delayed (fuel + 1) recovery escalated passes
        ((passRecovery imported recovery, .ok (.pendingTracking candidate)) :: later) result
  | escalated {fuel recovery passes candidate diagnostic later result} :
      policy.escalateToExactTree = true → (policy.maxPasses ≠ 0 → passes + 1 < policy.maxPasses) →
      EpisodeCourse policy imported interrupted delayed fuel .exactTree true (passes + 1) later
        result →
      EpisodeCourse policy imported interrupted delayed (fuel + 1) recovery false passes
        ((passRecovery imported recovery, .ok (.pendingRecovering candidate diagnostic)) :: later)
        result

section

variable {policy : ChainAdvancePolicy} {imported : Bool} {entryEpoch wakes fuel : Nat}
  {recovery : ChainRecoveryMode} {escalated : Bool} {passes : Nat}
  {made : List (ChainRecoveryMode × PassResult)}
  {result : Except EpisodeStop ChainAdvanceOutcome}

theorem EpisodeCourse.mono {I I' D D' : Prop} (hI : I → I') (hD : D → D')
    (h : EpisodeCourse policy imported I D fuel recovery escalated passes made result) :
    EpisodeCourse policy imported I' D' fuel recovery escalated passes made result := by
  induction h with
  | unfollowed => exact .unfollowed
  | delayed hdelayed => exact .delayed (hD hdelayed)
  | interrupted hinterrupted => exact .interrupted (hI hinterrupted)
  | failed => exact .failed
  | failedInterrupted hinterrupted => exact .failedInterrupted (hI hinterrupted)
  | ended outcome => exact .ended outcome
  | repolled hmax _ ih => exact .repolled hmax ih
  | escalated hallowed hmax _ ih => exact .escalated hallowed hmax ih

variable {W : Type} (react : W → (o : EpisodeOp) → o.Ans × W)

theorem interrupted_concludes (w : W) :
    Concludes react (interrupted entryEpoch) w fun calls _ result =>
      ∃ reading, calls = [⟨.control, reading⟩] ∧ result = .ok (reading.interrupts entryEpoch) :=
  ⟨_, rfl, rfl⟩

theorem Interrupts.of_control {reading : ControlReading} (h : reading.interrupts entryEpoch = true)
    (later : List (Call EpisodeOp EpisodeOp.Ans)) :
    Interrupts entryEpoch (⟨.control, reading⟩ :: later) :=
  ⟨reading, List.mem_cons_self, h⟩

/-- What a wait says: the host interrupts, the delay is over, or it was woken too often. -/
def WaitReport (entryEpoch wakes : Nat) (calls : List (Call EpisodeOp EpisodeOp.Ans))
    (result : Except EpisodeStop Bool) : Prop :=
  passesOf calls = [] ∧ (result = .ok true ∧ Interrupts entryEpoch calls ∨ result = .ok false ∨
    result = .error .unfinished ∧ wakes ≤ wakesOf calls)

theorem WaitReport.later {calls : List (Call EpisodeOp EpisodeOp.Ans)}
    {result : Except EpisodeStop Bool} (h : WaitReport entryEpoch wakes calls result)
    (earlier : List (Call EpisodeOp EpisodeOp.Ans)) (hpasses : passesOf earlier = []) {more : Nat} (hwakes : more ≤ wakesOf earlier) :
    WaitReport entryEpoch (wakes + more) (earlier ++ calls) result := by
  obtain ⟨hnone, hcases⟩ := h
  refine ⟨by rw [passesOf_append, hpasses, hnone, List.nil_append], ?_⟩
  rcases hcases with ⟨rfl, hinterrupts⟩ | rfl | ⟨rfl, hwoken⟩
  · exact .inl ⟨rfl, hinterrupts.append earlier⟩
  · exact .inr (.inl rfl)
  · exact .inr (.inr ⟨rfl, by rw [wakesOf_append]; omega⟩)

theorem interruptedBefore_concludes (deadline : Option Nat) (w : W) :
    Concludes react (interruptedBefore entryEpoch deadline wakes) w fun calls _ result =>
      WaitReport entryEpoch wakes calls result := by
  induction wakes generalizing w with
  | zero => exact ⟨rfl, .inr (.inr ⟨rfl, Nat.zero_le _⟩)⟩
  | succ wakes ih =>
    unfold interruptedBefore
    refine (interrupted_concludes react w).bind ?_ ?_
    · rintro calls w' interrupts ⟨reading, rfl, hreading⟩
      obtain rfl := Except.ok.inj hreading
      split
      · next h => exact ⟨rfl, .inl ⟨rfl, .of_control h []⟩⟩
      split
      · next instant =>
        refine Concludes.call ?_
        cases hwake : (react w' (.wait instant)).1 with
        | elapsed => exact ⟨rfl, .inr (.inl rfl)⟩
        | notified =>
          exact (ih _).mono fun calls _ result hreport =>
            hreport.later [⟨.control, reading⟩, ⟨.wait instant, .notified⟩] rfl le_rfl
      · exact Concludes.call ((ih _).mono fun calls _ result hreport =>
          hreport.later [⟨.control, reading⟩, ⟨.awaitInterrupt, ()⟩] rfl le_rfl)
    · rintro calls w' e ⟨reading, rfl, hreading⟩
      cases hreading

theorem interruptedDuring_concludes (delay : Nat) (w : W) :
    Concludes react (interruptedDuring delay entryEpoch wakes) w fun calls _ result =>
      WaitReport entryEpoch wakes calls result := by
  refine Concludes.call ((interruptedBefore_concludes react _ _).mono fun calls _ result hreport => ?_)
  exact hreport.later [⟨.deadline delay, (react w (.deadline delay)).1⟩] rfl (Nat.zero_le 0)

/-- What happened before does not change a course. -/
theorem EpisodeCourse.later {calls : List (Call EpisodeOp EpisodeOp.Ans)}
    (h : EpisodeCourse policy imported (Interrupts entryEpoch calls) (wakes ≤ wakesOf calls) fuel
      recovery escalated passes made result) (earlier : List (Call EpisodeOp EpisodeOp.Ans)) :
    EpisodeCourse policy imported (Interrupts entryEpoch (earlier ++ calls))
      (wakes ≤ wakesOf (earlier ++ calls)) fuel recovery escalated passes made result :=
  h.mono (·.append earlier) fun hwakes => by rw [wakesOf_append]; omega

/-- A course is continued after a pass. -/
theorem followPass_course (earlier : List (Call EpisodeOp EpisodeOp.Ans))
    {resume : ChainRecoveryMode → Bool → Episode ChainAdvanceOutcome}
    (hresume : ∀ recovery escalated w, Concludes react (resume recovery escalated) w
      fun calls _ result => EpisodeCourse policy imported (Interrupts entryEpoch calls)
        (wakes ≤ wakesOf calls) fuel recovery escalated (passes + 1) (passesOf calls) result)
    (answer : PassResult) (w : W) :
    Concludes react (followPass policy entryEpoch wakes resume recovery escalated (passes + 1) answer) w
      fun calls _ result => EpisodeCourse policy imported (Interrupts entryEpoch (earlier ++ calls))
        (wakes ≤ wakesOf (earlier ++ calls)) (fuel + 1) recovery escalated passes
        ((passRecovery imported recovery, answer) :: passesOf calls) result := by
  cases answer with
  | error failure =>
    refine (interrupted_concludes react w).bind ?_ ?_
    · rintro calls w₂ interrupts ⟨again, rfl, hagain⟩
      obtain rfl := Except.ok.inj hagain
      split
      · next h => exact .failedInterrupted ⟨again, by simp, h⟩
      · exact .failed
    · rintro calls w₂ e ⟨again, rfl, hagain⟩
      cases hagain
  | ok result =>
    cases result with
    | confirmed confirmation => exact .ended (.confirmed confirmation)
    | submittedWithoutHash diagnostic => exact .ended (.submittedWithoutHash diagnostic)
    | rejected diagnostic => exact .ended (.rejected diagnostic)
    | cancelled => exact .ended .cancelled
    | pendingRecovering candidate diagnostic =>
      simp only [followPass]
      split
      · next hescalates =>
        obtain ⟨hallowed, hfirst⟩ := Bool.and_eq_true_iff.mp hescalates
        obtain rfl : escalated = false := by simpa using hfirst
        split
        · exact .ended (.stillPending (.recovering candidate diagnostic))
        · next hmax =>
          exact (hresume .exactTree true w).mono fun calls _ result hcourse =>
            .escalated hallowed (by omega) (hcourse.later _)
      · exact .ended (.stillPending (.recovering candidate diagnostic))
    | pendingTracking candidate =>
      simp only [followPass]
      split
      · exact .ended (.stillPending (.tracking candidate))
      · next hmax =>
        refine (interruptedDuring_concludes react policy.pendingRepoll w).bind ?_ ?_
        · rintro calls w₂ stop ⟨hpasses, hreport⟩
          split
          · next hstop =>
            subst hstop
            have hinterrupts : Interrupts entryEpoch calls := by simpa using hreport
            refine Concludes.ret (.repolled (by omega) ?_)
            rw [List.append_nil, hpasses]
            exact .interrupted (hinterrupts.append _)
          · refine (hresume recovery escalated w₂).mono fun later _ result hcourse => ?_
            refine .repolled (by omega) ?_
            rw [passesOf_append, hpasses, ← List.append_assoc]
            exact hcourse.later (earlier ++ calls)
        · rintro calls w₂ e ⟨hpasses, hreport⟩
          obtain ⟨rfl, hwakes⟩ : e = .unfinished ∧ wakes ≤ wakesOf calls := by simpa using hreport
          refine .repolled (by omega) ?_
          rw [hpasses]
          exact .delayed (by rw [wakesOf_append]; omega)

/-- Every run of the loop takes a course. -/
theorem episodeLoop_course (fuel : Nat) (recovery : ChainRecoveryMode) (escalated : Bool)
    (passes : Nat) (w : W) :
    Concludes react
      (episodeLoop policy entryEpoch wakes (fun recovery => ask (.pass (passRecovery imported recovery)))
        fuel recovery escalated passes) w
      fun calls _ result => EpisodeCourse policy imported (Interrupts entryEpoch calls)
        (wakes ≤ wakesOf calls) fuel recovery escalated passes (passesOf calls) result := by
  induction fuel generalizing recovery escalated passes w with
  | zero => exact .unfollowed
  | succ fuel ih =>
    unfold episodeLoop
    refine (interrupted_concludes react w).bind ?_ ?_
    · rintro calls w' interrupts ⟨reading, rfl, hreading⟩
      obtain rfl := Except.ok.inj hreading
      split
      · next h => exact .interrupted (.of_control h [])
      · exact Concludes.call (followPass_course react [⟨.control, reading⟩, ⟨.pass _, _⟩]
          (fun recovery escalated w => ih recovery escalated (passes + 1) w) _ _)
    · rintro calls w' e ⟨reading, rfl, hreading⟩
      cases hreading

/-! ## What every course keeps to -/

theorem exists_replicate (n : Nat) (recovery : ChainRecoveryMode) :
    ∃ before after, List.replicate n recovery =
      List.replicate before .statusOnly ++ List.replicate after .exactTree := by
  cases recovery with
  | statusOnly => exact ⟨n, 0, by simp⟩
  | exactTree => exact ⟨0, n, by simp⟩

theorem mem_dropLast_cons {α : Type} {a b : α} {l : List α} (h : a ∈ (b :: l).dropLast) :
    a = b ∨ a ∈ l.dropLast := by
  cases l with
  | nil => cases h
  | cons c l => simpa [List.dropLast_cons_cons] using h

section

variable {I D : Prop}
  (h : EpisodeCourse policy imported I D fuel recovery escalated passes made result)

include h

theorem EpisodeCourse.length_le (hmax : policy.maxPasses ≠ 0) (hpasses : passes < policy.maxPasses) :
    passes + made.length ≤ policy.maxPasses := by
  induction h with
  | repolled hnext _ ih =>
    have := ih (hnext hmax)
    simp only [List.length_cons]
    omega
  | escalated _ hnext _ ih =>
    have := ih (hnext hmax)
    simp only [List.length_cons]
    omega
  | _ =>
    simp only [List.length_nil, List.length_cons]
    omega

/-- After an escalation the mode stays. -/
theorem EpisodeCourse.map_fst_of_escalated (hescalated : escalated = true) :
    made.map Prod.fst = List.replicate made.length (passRecovery imported recovery) := by
  induction h with
  | repolled _ _ ih => simp [ih hescalated, List.replicate_succ]
  | escalated => cases hescalated
  | _ => rfl

/-- Passes without a scan of the tree come before passes with one. -/
theorem EpisodeCourse.map_fst (hexact : recovery = .exactTree → escalated = true) :
    ∃ before after, made.map Prod.fst =
      List.replicate before .statusOnly ++ List.replicate after .exactTree := by
  by_cases hescalated : escalated = true
  · rw [h.map_fst_of_escalated hescalated]
    exact exists_replicate made.length _
  have hrecovery : recovery = .statusOnly := by cases recovery <;> simp_all
  have hmode : passRecovery imported recovery = .statusOnly := by simp [passRecovery, hrecovery]
  clear hexact
  induction h with
  | repolled _ _ ih =>
    obtain ⟨before, after, hlater⟩ := ih hescalated hrecovery hmode
    exact ⟨before + 1, after, by simp [hlater, hmode, List.replicate_succ]⟩
  | escalated _ _ hlater _ =>
    obtain ⟨before, after, hsplit⟩ := exists_replicate _ (passRecovery imported .exactTree)
    rw [← hlater.map_fst_of_escalated rfl] at hsplit
    exact ⟨before + 1, after, by simp [hsplit, hmode, List.replicate_succ]⟩
  | failed => exact ⟨1, 0, by simp [hmode]⟩
  | failedInterrupted => exact ⟨1, 0, by simp [hmode]⟩
  | ended => exact ⟨1, 0, by simp [hmode]⟩
  | _ => exact ⟨0, 0, rfl⟩

theorem EpisodeCourse.fst_of_imported (himported : imported = true) :
    ∀ pass ∈ made, pass.1 = .statusOnly := by
  have hmode (recovery : ChainRecoveryMode) : passRecovery imported recovery = .statusOnly := by
    simp [passRecovery, himported]
  induction h with
  | repolled _ _ ih | escalated _ _ _ ih => exact List.forall_mem_cons.mpr ⟨hmode _, ih⟩
  | _ => simp [hmode]

/-- Only a pending result is followed by another pass. -/
theorem EpisodeCourse.pending_of_mem_dropLast {pass : ChainRecoveryMode × PassResult}
    (hpass : pass ∈ made.dropLast) :
    ∃ pending, pass.2 = .ok (ChainAdvanceOutcome.stillPending pending).intoResult := by
  induction h with
  | repolled _ _ ih =>
    rcases mem_dropLast_cons hpass with rfl | hlater
    · exact ⟨.tracking _, rfl⟩
    · exact ih hlater
  | escalated _ _ _ ih =>
    rcases mem_dropLast_cons hpass with rfl | hlater
    · exact ⟨.recovering _ _, rfl⟩
    · exact ih hlater
  | _ => simp at hpass

/-- An episode ends with the result of its last pass, unless the host interrupts it. -/
theorem EpisodeCourse.ends :
    (∃ outcome pass, result = .ok outcome ∧ made.getLast? = some pass ∧
      pass.2 = .ok outcome.intoResult) ∨
    (∃ failure pass, result = .error (.failure failure) ∧ made.getLast? = some pass ∧
      pass.2 = .error failure) ∨
    (result = .ok .cancelled ∧ I) ∨ (result = .error .unfinished ∧ (made.length = fuel ∨ D)) := by
  induction h with
  | unfollowed => exact .inr (.inr (.inr ⟨rfl, .inl rfl⟩))
  | delayed hdelayed => exact .inr (.inr (.inr ⟨rfl, .inr hdelayed⟩))
  | interrupted hinterrupted => exact .inr (.inr (.inl ⟨rfl, hinterrupted⟩))
  | failed => exact .inr (.inl ⟨_, _, rfl, rfl, rfl⟩)
  | failedInterrupted hinterrupted => exact .inr (.inr (.inl ⟨rfl, hinterrupted⟩))
  | ended outcome => exact .inl ⟨outcome, _, rfl, rfl, rfl⟩
  | repolled _ _ ih | escalated _ _ _ ih =>
    rcases ih with ⟨outcome, pass, hresult, hlast, hpass⟩ | ⟨failure, pass, hresult, hlast, hpass⟩ |
      hinterrupted | ⟨hresult, hlate⟩
    · exact .inl ⟨outcome, pass, hresult, by simp [List.getLast?_cons, hlast], hpass⟩
    · exact .inr (.inl ⟨failure, pass, hresult, by simp [List.getLast?_cons, hlast], hpass⟩)
    · exact .inr (.inr (.inl hinterrupted))
    · exact .inr (.inr (.inr ⟨hresult, hlate.imp_left fun hlength => by simp [hlength]⟩))

end

end

/-- What the calls of an episode and its result are to each other. -/
structure EpisodeControlled (policy : ChainAdvancePolicy) (imported : Bool)
    (entryEpoch fuel wakes : Nat) (calls : List (Call EpisodeOp EpisodeOp.Ans))
    (result : Except EpisodeStop ChainAdvanceOutcome) : Prop where
  bounded : policy.maxPasses ≠ 0 → (passesOf calls).length ≤ policy.maxPasses
  /-- The mode changes once at most, to the scan of the tree. -/
  escalates : ∃ before after, (passesOf calls).map Prod.fst =
    List.replicate before .statusOnly ++ List.replicate after .exactTree
  imported : imported = true → ∀ pass ∈ passesOf calls, pass.1 = .statusOnly
  /-- Every pass but the last was still pending. -/
  pending : ∀ pass ∈ (passesOf calls).dropLast,
    ∃ pending, pass.2 = .ok (ChainAdvanceOutcome.stillPending pending).intoResult
  /-- It ends with the result of the last pass, or cancelled by the host.  It goes on only
  for as many passes as it is followed, or while a wait is woken. -/
  ends :
    (∃ outcome pass, result = .ok outcome ∧ (passesOf calls).getLast? = some pass ∧
      pass.2 = .ok outcome.intoResult) ∨
    (∃ failure pass, result = .error (.failure failure) ∧ (passesOf calls).getLast? = some pass ∧
      pass.2 = .error failure) ∨
    (result = .ok .cancelled ∧ Interrupts entryEpoch calls) ∨
    (result = .error .unfinished ∧ ((passesOf calls).length = fuel ∨ wakes ≤ wakesOf calls))

/-- **Episode control.**  Whatever the passes return and whenever the host interrupts, an
episode makes at most the policy's number of passes, if it sets one; it escalates once at
most and does not go back; it makes no pass after a terminal result or an error; and it
returns the result of its last pass, or `cancelled` if the host interrupts it. -/
theorem advanceUntilTerminalInEpoch_controlled {W : Type}
    (react : W → (o : EpisodeOp) → o.Ans × W) (w : W) (imported : Bool)
    (policy : ChainAdvancePolicy) (entryEpoch fuel wakes : Nat) :
    Concludes react (advanceUntilTerminalInEpoch imported policy entryEpoch fuel wakes) w
      fun calls _ result =>
        EpisodeControlled policy imported entryEpoch fuel wakes calls result := by
  refine (episodeLoop_course react fuel policy.initialRecoveryMode
    (policy.initialRecoveryMode = .exactTree) 0 w).mono fun calls _ result hcourse => ?_
  constructor
  · intro hmax
    have := hcourse.length_le hmax (Nat.pos_of_ne_zero hmax)
    omega
  · exact hcourse.map_fst (by simp)
  · exact hcourse.fst_of_imported
  · exact fun pass => hcourse.pending_of_mem_dropLast
  · exact hcourse.ends

/-- A host that cancels once a pass has returned. -/
def cancelsAfterPass (answer : PassResult) (passed : Bool) : (o : EpisodeOp) → o.Ans × Bool
  | .control => (⟨passed, 0⟩, passed)
  | .pass _ => (answer, true)
  | .deadline _ => (some 0, passed)
  | .wait _ => (.elapsed, passed)
  | .awaitInterrupt => ((), passed)

/-- An interrupted episode does not return what its last pass did: neither that the
submission is tracked, nor that the pass failed. -/
theorem interrupted_episode_forgets :
    let policy : ChainAdvancePolicy := ⟨.statusOnly, 0, true, 45⟩
    let run (answer : PassResult) :=
      (advanceUntilTerminalInEpoch false policy 0 100 100).run (cancelsAfterPass answer) false
    let tracked : PassResult := .ok (.pendingTracking (Bytes32.fill 7))
    let failed : PassResult := .error (.withoutState .storage "")
    passesOf (run tracked).1 = [(.statusOnly, tracked)] ∧ (run tracked).2.2 = .ok .cancelled ∧
    passesOf (run failed).1 = [(.statusOnly, failed)] ∧ (run failed).2.2 = .ok .cancelled := by
  decide +kernel

end ZcashVoting
