import Mathlib.Data.List.Perm.Subperm
import ZcashVoting.Helper.UrlIdentity
import ZcashVoting.Lib.Trace

/-!
# ZcashVoting.ShareTracking.StatusPolls

The polls of one share's status: up to four helpers are asked at a time, and the tasks end in any
order, also while the loop looks elsewhere.  The clock and the caller's cancellation are free.
The failures reported to the health table are left out.
-/

namespace ZcashVoting.ShareTracking

open Trace

/-- `ConfiguredHelperFleet`: one canonical identity a helper. -/
structure ConfiguredHelperFleet where
  urls : List String
  nonempty : urls ≠ []
  distinct : urls.Nodup

theorem ne_nil_of_length_eq {urls configured : List String} (hne : configured ≠ [])
    (hlength : urls.length = configured.length) : urls ≠ [] := by
  rwa [← List.length_pos_iff, hlength, List.length_pos_iff]

/-- `ConfiguredHelperFleet::new`. -/
def ConfiguredHelperFleet.new (U : UrlCrate) (configuredUrls : List String) :
    Except VotingError ConfiguredHelperFleet :=
  if hempty : configuredUrls = [] then
    .error (.invalidInput "configured_server_urls must not be empty")
  else match hurls : canonicalHelperUrlList U configuredUrls with
    | .error error => .error error
    | .ok urls =>
      if hlength : urls.length = configuredUrls.length then
        .ok ⟨urls, ne_nil_of_length_eq hempty hlength, (canonicalUrls_spec hurls List.nodup_nil).1⟩
      else .error (.invalidInput "configured_server_urls must contain distinct canonical helpers")

def ConfiguredHelperFleet.required (fleet : ConfiguredHelperFleet) : Nat :=
  min 2 fleet.urls.length

/-- `SHARE_STATUS_MAX_CONCURRENT_POLLS`. -/
def shareStatusMaxConcurrentPolls : Nat := 4

/-- A task of the join set; one that panicked or was aborted has no outcome. -/
inductive PollTask where
  | running (serverUrl : String)
  | answered (serverUrl : String) (confirmed : Bool)
  | failed (serverUrl : String)

namespace PollTask

def serverUrl : PollTask → String
  | running serverUrl | answered serverUrl _ | failed serverUrl => serverUrl

def isEnded : PollTask → Bool
  | running _ => false
  | _ => true

def confirmers : PollTask → List String
  | answered serverUrl true => [serverUrl]
  | _ => []

end PollTask

/-- `ShareStatusOutcome`. -/
inductive ShareStatusOutcome where
  | configuredHelperQuorumObserved
  | configuredHelperQuorumNotObserved
  | cancelled

/-- Where the loop stands. -/
inductive PollPoint where
  | draining
  | checking
  | filling
  | waiting
  | expired (quorumObserved : Bool)
  | returned (outcome : ShareStatusOutcome)

/-- The loop's variables; of `confirmations` the code keeps the length. -/
structure Polling where
  remaining : List String
  polls : List PollTask := []
  confirmations : List String := []
  point : PollPoint := .draining

/-- `record_completed_poll`. -/
def recordCompletedPoll (required : Nat) (confirmations : List String) (task : PollTask) :
    List String × Bool :=
  match task with
  | .answered serverUrl confirmed =>
    let confirmations := if confirmed then confirmations ++ [serverUrl] else confirmations
    (confirmations, confirmations.length == required)
  | _ => (confirmations, false)

/-- `poll_share_helpers_with_budget`, with `finish_expired_polls`; a step is labelled by the task
that ends in it, if any. -/
inductive PollStep (required : Nat) : Polling → Option PollTask → Polling → Prop where
  | ends {s : Polling} {before after : List PollTask} {task : PollTask} :
      (∀ outcome, s.point ≠ .returned outcome) →
      s.polls = before ++ .running task.serverUrl :: after → task.isEnded = true →
      PollStep required s (some task) { s with polls := before ++ task :: after }
  | join {s : Polling} {before after : List PollTask} {task : PollTask} :
      s.point = .draining ∨ s.point = .waiting → s.polls = before ++ task :: after →
      task.isEnded = true →
      PollStep required s none
        { s with
          polls := before ++ after
          confirmations := (recordCompletedPoll required s.confirmations task).1
          point := if (recordCompletedPoll required s.confirmations task).2
            then .returned .configuredHelperQuorumObserved else .draining }
  | drained {s : Polling} : s.point = .draining → (∀ task ∈ s.polls, task.isEnded = false) →
      PollStep required s none { s with point := .checking }
  | exhausted {s : Polling} : s.point = .checking → s.polls = [] → s.remaining = [] →
      PollStep required s none
        { s with point := .returned .configuredHelperQuorumNotObserved }
  | check {s : Polling} {next : PollPoint} : s.point = .checking →
      ¬ (s.polls = [] ∧ s.remaining = []) →
      -- the caller cancels, the budget is spent, or neither
      next = .returned .cancelled ∨ next = .expired false ∨ next = .filling →
      PollStep required s none { s with point := next }
  | spawn {s : Polling} {serverUrl : String} {remaining : List String} :
      s.point = .filling → s.polls.length < shareStatusMaxConcurrentPolls →
      s.remaining = serverUrl :: remaining →
      PollStep required s none { s with remaining, polls := s.polls ++ [.running serverUrl] }
  | filled {s : Polling} : s.point = .filling →
      shareStatusMaxConcurrentPolls ≤ s.polls.length ∨ s.remaining = [] →
      PollStep required s none
        { s with
          point := if s.polls.isEmpty then .returned .configuredHelperQuorumNotObserved
            else .waiting }
  | timeout {s : Polling} : s.point = .waiting →
      PollStep required s none { s with point := .draining }
  | joinExpired {s : Polling} {before after : List PollTask} {task : PollTask}
      {quorumObserved : Bool} :
      s.point = .expired quorumObserved → s.polls = before ++ task :: after → task.isEnded = true →
      PollStep required s none
        { s with
          polls := before ++ after
          confirmations := (recordCompletedPoll required s.confirmations task).1
          point := .expired
            (quorumObserved || (recordCompletedPoll required s.confirmations task).2) }
  | finished {s : Polling} {quorumObserved : Bool} :
      s.point = .expired quorumObserved → s.polls = [] →
      PollStep required s none
        { s with
          point := .returned (if quorumObserved then .configuredHelperQuorumObserved
            else .configuredHelperQuorumNotObserved) }

/-- The helpers that have answered that the share is confirmed. -/
def Polling.confirmers (s : Polling) : List String :=
  s.confirmations ++ s.polls.flatMap PollTask.confirmers

theorem record_confirmations (required : Nat) (confirmations : List String) (task : PollTask) :
    (recordCompletedPoll required confirmations task).1 = confirmations ++ task.confirmers := by
  rcases task with _ | ⟨serverUrl, _ | _⟩ | _ <;> simp [recordCompletedPoll, PollTask.confirmers]

/-- Below the quorum, an answer reports the quorum exactly when it completes it. -/
theorem record_quorum {required : Nat} {confirmations : List String} (task : PollTask)
    (h : confirmations.length < required) :
    (recordCompletedPoll required confirmations task).2 = true ↔
      required ≤ (recordCompletedPoll required confirmations task).1.length := by
  rcases task with _ | ⟨serverUrl, _ | _⟩ | _ <;> simp [recordCompletedPoll] <;> omega

section

variable {required : Nat} {fleet : ConfiguredHelperFleet} {s t : Polling} {e : Option PollTask}
  {es : List (Option PollTask × Polling)}

/-- The helpers that the tasks which ended in a run say have confirmed. -/
def confirmersIn (es : List (Option PollTask × Polling)) : List String :=
  es.flatMap fun x => x.1.elim [] PollTask.confirmers

/-- A step changes the confirmers by the answer it brings. -/
theorem PollStep.confirmers (h : PollStep required s e t) :
    t.confirmers.Perm (s.confirmers ++ e.elim [] PollTask.confirmers) := by
  cases h with
  | ends hpoint hpolls hended =>
    simp only [Polling.confirmers, hpolls, PollTask.confirmers, Option.elim, List.flatMap_append,
      List.flatMap_cons, List.nil_append, List.append_assoc]
    exact (List.perm_append_comm.append_left _).append_left _
  | join hpoint hpolls hended | joinExpired hpoint hpolls hended =>
    simp only [Polling.confirmers, hpolls, record_confirmations, Option.elim, List.append_nil,
      List.append_assoc, List.flatMap_append, List.flatMap_cons]
    exact (List.perm_append_comm_assoc _ _ _).append_left _
  | spawn => simp [Polling.confirmers, PollTask.confirmers]
  | _ => simp [Polling.confirmers]

theorem confirmers_run (h : Run (PollStep required) s es t) :
    t.confirmers.Perm (s.confirmers ++ confirmersIn es) := by
  induction h with
  | nil => simp [confirmersIn]
  | cons hstep _ ih =>
    rw [confirmersIn, List.flatMap_cons, ← List.append_assoc]
    exact ih.trans (hstep.confirmers.append_right _)

/-- What the count says at each point of the loop. -/
def Counted (required : Nat) (s : Polling) : PollPoint → Prop
  | .expired quorumObserved => quorumObserved = true ↔ required ≤ s.confirmations.length
  | .returned .configuredHelperQuorumObserved => required ≤ s.confirmations.length
  | .returned .configuredHelperQuorumNotObserved =>
    s.confirmations.length < required ∧ s.polls = []
  | .returned .cancelled => True
  | _ => s.confirmations.length < required

structure Polls (fleet : ConfiguredHelperFleet) (s : Polling) : Prop where
  asked : (s.remaining ++ (s.polls.map PollTask.serverUrl ++ s.confirmations)).Subperm fleet.urls
  bounded : s.polls.length ≤ shareStatusMaxConcurrentPolls
  counted : Counted fleet.required s s.point

theorem PollTask.confirmers_sublist (task : PollTask) :
    task.confirmers.Sublist [task.serverUrl] := by
  rcases task with _ | ⟨_, _ | _⟩ | _ <;> simp [PollTask.confirmers, PollTask.serverUrl]

/-- Every confirmer is a configured helper of its own. -/
theorem Polls.subperm (h : Polls fleet s) : s.confirmers.Subperm fleet.urls := by
  have hsublist : (s.polls.flatMap PollTask.confirmers).Sublist (s.polls.map PollTask.serverUrl) := by
    induction s.polls with
    | nil => simp
    | cons task polls ih => exact task.confirmers_sublist.append ih
  exact (List.perm_append_comm.subperm.trans
    ((hsublist.append_right _).trans (List.sublist_append_right _ _)).subperm).trans h.asked

/-- Joining a task moves its helper to the confirmations, or forgets it. -/
theorem asked_join {before after : List PollTask} {task : PollTask}
    (hpolls : s.polls = before ++ task :: after) :
    (s.remaining ++ ((before ++ after).map PollTask.serverUrl ++
      (recordCompletedPoll required s.confirmations task).1)).Subperm
        (s.remaining ++ (s.polls.map PollTask.serverUrl ++ s.confirmations)) := by
  have hmoved : (after.map PollTask.serverUrl ++ (s.confirmations ++ task.confirmers)).Subperm
      (task.serverUrl :: (after.map PollTask.serverUrl ++ s.confirmations)) := by
    rw [← List.append_assoc]
    exact (task.confirmers_sublist.append_left _).subperm.trans
      (List.perm_append_singleton _ _).subperm
  rw [record_confirmations, hpolls]
  simpa [List.subperm_append_left] using hmoved

theorem PollStep.polls (h : PollStep fleet.required s e t) (hs : Polls fleet s) : Polls fleet t := by
  obtain ⟨hasked, hbounded, hcounted⟩ := hs
  cases h with
  | ends hpoint hpolls hended =>
    refine ⟨by simpa [hpolls, PollTask.serverUrl] using hasked, by simpa [hpolls] using hbounded, ?_⟩
    cases hp : s.point <;> simp_all [Counted]
  | @join before after task hpoint hpolls hended =>
    refine ⟨(asked_join hpolls).trans hasked, by simp [hpolls] at hbounded ⊢; omega, ?_⟩
    have hbelow : s.confirmations.length < fleet.required := by
      rcases hpoint with hpoint | hpoint <;> simpa [hpoint, Counted] using hcounted
    have hquorum := record_quorum task hbelow
    simp only
    split
    · next hreached => exact hquorum.mp hreached
    · next hbelow' => exact Nat.not_le.mp fun hle => hbelow' (hquorum.mpr hle)
  | @joinExpired before after task quorumObserved hpoint hpolls hended =>
    refine ⟨(asked_join hpolls).trans hasked, by simp [hpolls] at hbounded ⊢; omega, ?_⟩
    simp only [hpoint, Counted] at hcounted ⊢
    have hgrows : s.confirmations.length ≤
        (recordCompletedPoll fleet.required s.confirmations task).1.length := by
      simp [record_confirmations]
    by_cases hbelow : s.confirmations.length < fleet.required
    · have hquorum := record_quorum task hbelow
      simp_all
    · simp_all
      omega
  | spawn hpoint hroom hremaining =>
    rw [hremaining] at hasked
    refine ⟨.trans (List.Perm.subperm ?_) hasked, ?_, by simpa [hpoint, Counted] using hcounted⟩
    · simp only [List.map_append, List.append_assoc, List.map_cons, List.map_nil, List.cons_append,
        List.nil_append, PollTask.serverUrl]
      exact (List.perm_middle.append_left _).trans List.perm_middle
    · simp only [List.length_append, List.length_singleton]
      omega
  | filled hpoint hfull =>
    have hbelow : s.confirmations.length < fleet.required := by
      simpa [hpoint, Counted] using hcounted
    refine ⟨hasked, hbounded, ?_⟩
    simp only
    split
    · next hempty => exact ⟨hbelow, List.isEmpty_iff.mp hempty⟩
    · exact hbelow
  | finished hpoint hpolls =>
    refine ⟨hasked, hbounded, ?_⟩
    rw [hpoint, Counted] at hcounted
    simp only
    split
    · next hquorum => exact hcounted.mp hquorum
    · next hquorum => exact ⟨Nat.not_le.mp fun hle => hquorum (hcounted.mpr hle), hpolls⟩
  | check hpoint hsome hnext =>
    refine ⟨hasked, hbounded, ?_⟩
    rcases hnext with rfl | rfl | rfl <;> simp_all [Counted]
  | _ => exact ⟨hasked, hbounded, by simp_all [Counted]⟩

/-- A quorum that was answered while the loop waits or drains. -/
def Secured (required : Nat) (s : Polling) : Prop :=
  required ≤ s.confirmers.length ∧ (s.point = .draining ∨ s.point = .waiting ∨
    s.point = .returned .configuredHelperQuorumObserved)

theorem PollStep.secured (h : PollStep fleet.required s e t) (hs : Polls fleet s)
    (hsecured : Secured fleet.required s) : Secured fleet.required t := by
  obtain ⟨hquorum, hpoint⟩ := hsecured
  have hgrows : s.confirmers.length ≤ t.confirmers.length := by simp [h.confirmers.length_eq]
  refine ⟨hquorum.trans hgrows, ?_⟩
  cases h with
  | ends => exact hpoint
  | join =>
    simp only
    split <;> simp
  | timeout => exact .inl rfl
  | drained hdraining hnone =>
    -- all that was answered is counted, and the count is below the quorum
    have hcounted : s.confirmers = s.confirmations := by
      refine List.append_right_eq_self.mpr (List.flatMap_eq_nil_iff.mpr fun task htask => ?_)
      have hrunning := hnone task htask
      cases task <;> simp_all [PollTask.isEnded, PollTask.confirmers]
    have hbelow := hs.counted
    rw [hdraining] at hbelow
    simp only [Counted, hcounted] at hbelow hquorum
    omega
  | _ => simp_all

/-- The polls of one share, in every order of answers, failures, cancellation and expiry: at most
four helpers are being asked, every confirmer is a configured helper that counts once, and unless
the polls are cancelled the outcome is the quorum exactly when that many answered.  A quorum that
is there when the loop waits or drains cannot be cancelled any more. -/
theorem status_quorum_exact {order : List String} (horder : order.Perm fleet.urls)
    (hrun : Run (PollStep fleet.required) { remaining := order } es s) :
    s.polls.length ≤ shareStatusMaxConcurrentPolls ∧
    (confirmersIn es).Nodup ∧ confirmersIn es ⊆ fleet.urls ∧
    (s.point = .returned .configuredHelperQuorumObserved → fleet.required ≤ (confirmersIn es).length) ∧
    (s.point = .returned .configuredHelperQuorumNotObserved →
      (confirmersIn es).length < fleet.required) ∧
    (s.point = .draining ∨ s.point = .waiting → fleet.required ≤ (confirmersIn es).length →
      ∀ es' t outcome, Run (PollStep fleet.required) s es' t → t.point = .returned outcome →
        outcome = .configuredHelperQuorumObserved) := by
  have hrequired : 0 < fleet.required := by
    have := List.length_pos_iff.mpr fleet.nonempty
    simp only [ConfiguredHelperFleet.required]
    omega
  have hpolls : Polls fleet s :=
    hrun.invariant (fun _ _ _ hs hstep => hstep.polls hs)
      ⟨by simpa using horder.subperm, by simp, by simpa [Counted] using hrequired⟩
  have hconfirmers : s.confirmers.Perm (confirmersIn es) := by
    simpa [Polling.confirmers] using confirmers_run hrun
  have hasked := hpolls.subperm
  refine ⟨hpolls.bounded, ?_, ?_, ?_, ?_, ?_⟩
  · obtain ⟨asked, hperm, hsublist⟩ := hasked
    exact (hperm.trans hconfirmers).nodup_iff.mp (hsublist.nodup fleet.distinct)
  · exact fun url hurl => hasked.subset (hconfirmers.mem_iff.mpr hurl)
  · intro hpoint
    have hcounted := hpolls.counted
    rw [hpoint, Counted] at hcounted
    rw [← hconfirmers.length_eq, Polling.confirmers, List.length_append]
    omega
  · intro hpoint
    have hcounted := hpolls.counted
    rw [hpoint, Counted] at hcounted
    rw [← hconfirmers.length_eq, Polling.confirmers, hcounted.2]
    simpa using hcounted.1
  · intro hpoint hquorum es' t outcome hrest hreturned
    have hsecured : Secured fleet.required s :=
      ⟨hconfirmers.length_eq ▸ hquorum, hpoint.imp_right .inl⟩
    have hkept := hrest.invariant (I := fun s => Polls fleet s ∧ Secured fleet.required s)
      (fun _ _ _ hs hstep => ⟨hstep.polls hs.1, hstep.secured hs.1 hs.2⟩) ⟨hpolls, hsecured⟩
    simpa [hreturned] using hkept.2.2

end

def sampleFleet : ConfiguredHelperFleet := ⟨["https://a", "https://b", "https://c"], by simp, by simp⟩

/-- Of three helpers one fails and two have confirmed, the second while the loop waits: whatever
comes next, the polls return the quorum. -/
theorem status_quorum_of_three : ∃ es s,
    Run (PollStep sampleFleet.required)
      { remaining := ["https://c", "https://a", "https://b"] } es s ∧
    s.point = .waiting ∧ confirmersIn es = ["https://a", "https://b"] ∧
    (∃ es' t, Run (PollStep sampleFleet.required) s es' t ∧
      t.point = .returned .configuredHelperQuorumObserved) ∧
    ∀ es' t outcome, Run (PollStep sampleFleet.required) s es' t → t.point = .returned outcome →
      outcome = .configuredHelperQuorumObserved := by
  have hrun := Run.cons
    (@PollStep.drained sampleFleet.required
      { remaining := ["https://c", "https://a", "https://b"] } rfl (by simp)) <|
    .cons (.check rfl (by simp) (.inr (.inr rfl))) <| .cons (.spawn rfl (by decide) rfl) <|
    .cons (.spawn rfl (by decide) rfl) <| .cons (.spawn rfl (by decide) rfl) <|
    .cons (.filled rfl (.inr rfl)) <|
    .cons (@PollStep.ends _ _ [.running "https://c"] [.running "https://b"]
      (.answered "https://a" true) (by simp) rfl rfl) <|
    .cons (@PollStep.ends _ _ [] [.answered "https://a" true, .running "https://b"]
      (.failed "https://c") (by simp) rfl rfl) <|
    .cons (@PollStep.join _ _ [] _ _ (.inr rfl) rfl rfl) <|
    .cons (@PollStep.join _ _ [] _ _ (.inl rfl) rfl rfl) <|
    .cons (.drained rfl (by simp [PollTask.isEnded])) <|
    .cons (.check rfl (by simp) (.inr (.inr rfl))) <| .cons (.filled rfl (.inr rfl)) <|
    .cons (@PollStep.ends _ _ [] [] (.answered "https://b" true) (by simp) rfl rfl) (.nil _)
  have horder : ["https://c", "https://a", "https://b"].Perm sampleFleet.urls := by decide
  exact ⟨_, _, hrun, rfl, rfl, ⟨_, _, .cons (@PollStep.join _ _ [] [] _ (.inr rfl) rfl rfl) (.nil _), rfl⟩,
    (status_quorum_exact horder hrun).2.2.2.2.2 (.inr rfl) (by decide)⟩

end ZcashVoting.ShareTracking
