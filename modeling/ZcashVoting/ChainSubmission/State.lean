import ZcashVoting.ChainSubmission.Result

/-!
# ZcashVoting.ChainSubmission.State

The lifecycle of one submission: the typed state of its durable row and the
table `applySubmissionObservation` of what each classified observation does to
it.

`SubmissionTransition` reads the table as a relation, one constructor per row of
the table that succeeds; `applySubmissionObservation_eq_ok` says the two agree.
Every later fact about a transition is a case analysis of the relation.
-/

namespace ZcashVoting

/-- Authoritative typed state for one semantic generation. -/
inductive SubmissionRecordState where
  | submitting
  | tracking (candidate : CandidateTransactionHash)
  | recovering (candidate : Option CandidateTransactionHash)
      (ambiguityDiagnostic : ChainSubmissionDiagnostic)
  | submittedWithoutHash (diagnostic : ChainSubmissionDiagnostic)
  | confirmed (confirmation : ValidatedChainSubmissionConfirmation)
  | rejected (diagnostic : ChainSubmissionDiagnostic)
  deriving DecidableEq

namespace SubmissionRecordState

/-- A hashless `recovering` row left by a possibly dispatched POST may reserve
the next POST of its generation directly. -/
def permitsAmbiguousRetry : SubmissionRecordState → Bool
  | .recovering none diagnostic => diagnostic.kind.isDispatchAmbiguity
  | _ => false

def durableState : SubmissionRecordState → ChainSubmissionState
  | .submitting => .submitting
  | .tracking _ => .tracking
  | .recovering _ _ => .recovering
  | .submittedWithoutHash _ => .submittedWithoutHash
  | .confirmed _ => .confirmed
  | .rejected _ => .rejected

/-- The transaction hash a state holds: the candidate being followed or the
hash that confirmed it. -/
def heldHash : SubmissionRecordState → Option CandidateTransactionHash
  | .tracking candidate => some candidate
  | .recovering candidate _ => candidate
  | .confirmed confirmation => confirmation.transactionHash
  | _ => none

end SubmissionRecordState

/-- One classified observation applied by the lifecycle coordinator. -/
inductive SubmissionObservation where
  | reserveFreshSubmission
  | definitelyNotDispatched
  | usableCandidateHash (candidate : CandidateTransactionHash)
  | possiblyDispatched (diagnostic : ChainSubmissionDiagnostic)
  | definiteRejection (diagnostic : ChainSubmissionDiagnostic)
  | terminalRejection (diagnostic : ChainSubmissionDiagnostic)
  | submittedWithoutHash (diagnostic : ChainSubmissionDiagnostic)
  | candidatePending
  | trackingWindowExpired (diagnostic : ChainSubmissionDiagnostic)
  | candidateCommittedFailure (diagnostic : ChainSubmissionDiagnostic)
  | terminalCandidateFailure (diagnostic : ChainSubmissionDiagnostic)
  | confirmed (confirmation : ValidatedChainSubmissionConfirmation)
  | continueRecovery
  | abandonedSubmitting (diagnostic : ChainSubmissionDiagnostic)
  deriving DecidableEq

def SubmissionObservation.name : SubmissionObservation → String
  | .reserveFreshSubmission => "reserve_fresh_submission"
  | .definitelyNotDispatched => "definitely_not_dispatched"
  | .usableCandidateHash _ => "usable_candidate_hash"
  | .possiblyDispatched _ => "possibly_dispatched"
  | .definiteRejection _ => "definite_rejection"
  | .terminalRejection _ => "terminal_rejection"
  | .submittedWithoutHash _ => "submitted_without_hash"
  | .candidatePending => "candidate_pending"
  | .trackingWindowExpired _ => "tracking_window_expired"
  | .candidateCommittedFailure _ => "candidate_committed_failure"
  | .terminalCandidateFailure _ => "terminal_candidate_failure"
  | .confirmed _ => "confirmed"
  | .continueRecovery => "continue_recovery"
  | .abandonedSubmitting _ => "abandoned_submitting"

inductive SubmissionTransitionError where
  | illegalTransition (from? : Option ChainSubmissionState) (observation : String)
  | conflictingCandidateHash
  | confirmationDoesNotMatchCandidate
  | conflictingConfirmation
  deriving DecidableEq, Repr

/-- Debug name of a state in an error text. -/
def ChainSubmissionState.debug : ChainSubmissionState → String
  | .submitting => "Submitting"
  | .tracking => "Tracking"
  | .recovering => "Recovering"
  | .submittedWithoutHash => "SubmittedWithoutHash"
  | .confirmed => "Confirmed"
  | .rejected => "Rejected"

/-- The displayed text of a transition error. -/
def SubmissionTransitionError.display : SubmissionTransitionError → String
  | .illegalTransition (some state) observation =>
    "illegal chain submission transition from Some(" ++ state.debug ++ ") after " ++ observation
  | .illegalTransition none observation =>
    "illegal chain submission transition from None after " ++ observation
  | .conflictingCandidateHash =>
    "candidate transaction hash conflicts with the durable candidate"
  | .confirmationDoesNotMatchCandidate =>
    "hash confirmation does not match the durable candidate transaction"
  | .conflictingConfirmation => "terminal confirmation conflicts with the durable confirmation"

/-- `require_hash_confirmation_for_candidate`. -/
def requireHashConfirmationForCandidate (confirmation : ValidatedChainSubmissionConfirmation)
    (candidate : CandidateTransactionHash) : Except SubmissionTransitionError Unit :=
  match confirmation with
  | .hash transactionHash _ _ =>
    if transactionHash = candidate then .ok () else .error .confirmationDoesNotMatchCandidate
  | .tree _ _ => .error .confirmationDoesNotMatchCandidate

/-- `require_valid_recovery_confirmation`. -/
def requireValidRecoveryConfirmation (confirmation : ValidatedChainSubmissionConfirmation)
    (candidate : Option CandidateTransactionHash) : Except SubmissionTransitionError Unit :=
  match confirmation with
  | .hash _ _ _ =>
    match candidate with
    | none => .error .confirmationDoesNotMatchCandidate
    | some candidate => requireHashConfirmationForCandidate confirmation candidate
  | .tree _ _ => .ok ()

open SubmissionRecordState in
/-- Applies one observation without performing I/O.  `none` is an absent row. -/
def applySubmissionObservation (current : Option SubmissionRecordState)
    (observation : SubmissionObservation) :
    Except SubmissionTransitionError (Option SubmissionRecordState) :=
  match current, observation with
  | none, .reserveFreshSubmission => .ok (some submitting)
  | some submitting, .definitelyNotDispatched => .ok none
  | some submitting, .usableCandidateHash candidate => .ok (some (tracking candidate))
  | some submitting, .possiblyDispatched diagnostic => .ok (some (recovering none diagnostic))
  | some submitting, .abandonedSubmitting diagnostic => .ok (some (recovering none diagnostic))
  | some submitting, .definiteRejection diagnostic => .ok (some (recovering none diagnostic))
  -- Only `submitting` admits this: the state exists solely before any possibly
  -- dispatched attempt.
  | some submitting, .terminalRejection diagnostic => .ok (some (rejected diagnostic))
  | some submitting, .submittedWithoutHash diagnostic =>
    .ok (some (submittedWithoutHash diagnostic))
  | some (recovering _ _), .submittedWithoutHash diagnostic =>
    .ok (some (submittedWithoutHash diagnostic))
  | some (tracking candidate), .candidatePending => .ok (some (tracking candidate))
  | some (tracking candidate), .trackingWindowExpired diagnostic =>
    .ok (some (recovering (some candidate) diagnostic))
  | some (tracking _), .candidateCommittedFailure diagnostic =>
    .ok (some (recovering none diagnostic))
  | some (tracking _), .terminalCandidateFailure diagnostic => .ok (some (rejected diagnostic))
  | some (recovering _ _), .terminalCandidateFailure diagnostic =>
    .ok (some (rejected diagnostic))
  | some (tracking candidate), .confirmed confirmation => do
    requireHashConfirmationForCandidate confirmation candidate
    return some (confirmed confirmation)
  | some (recovering none _), .usableCandidateHash candidate => .ok (some (tracking candidate))
  | some (recovering (some existing) diagnostic), .usableCandidateHash candidate =>
    if existing ≠ candidate then .error .conflictingCandidateHash
    else .ok (some (recovering (some existing) diagnostic))
  -- A retry that is itself possibly dispatched replaces the stored diagnostic.
  | some (recovering none _), .possiblyDispatched diagnostic =>
    .ok (some (recovering none diagnostic))
  | some (recovering candidate diagnostic), .continueRecovery
  | some (recovering candidate diagnostic), .possiblyDispatched _
  | some (recovering candidate diagnostic), .definiteRejection _
  | some (recovering candidate diagnostic), .definitelyNotDispatched =>
    .ok (some (recovering candidate diagnostic))
  | some (recovering (some candidate) diagnostic), .candidatePending =>
    .ok (some (recovering (some candidate) diagnostic))
  | some (recovering (some _) _), .candidateCommittedFailure diagnostic =>
    .ok (some (recovering none diagnostic))
  | some (recovering candidate _), .confirmed confirmation => do
    requireValidRecoveryConfirmation confirmation candidate
    return some (confirmed confirmation)
  | some (confirmed existing), .confirmed replayed =>
    if existing = replayed then .ok (some (confirmed existing))
    else .error .conflictingConfirmation
  | current, observation =>
    .error (.illegalTransition (current.map durableState) observation.name)

/-! ## The table as a relation -/

/-- The rows of the table that keep a row: from its state, by an observation,
to its next state. -/
inductive SubmissionTransition :
    SubmissionRecordState → SubmissionObservation → SubmissionRecordState → Prop where
  | accepted (c) : SubmissionTransition .submitting (.usableCandidateHash c) (.tracking c)
  | ambiguous (d) : SubmissionTransition .submitting (.possiblyDispatched d) (.recovering none d)
  | abandoned (d) : SubmissionTransition .submitting (.abandonedSubmitting d) (.recovering none d)
  | refused (d) : SubmissionTransition .submitting (.definiteRejection d) (.recovering none d)
  | refusedTerminally (d) : SubmissionTransition .submitting (.terminalRejection d) (.rejected d)
  | spentAtOnce (d) :
      SubmissionTransition .submitting (.submittedWithoutHash d) (.submittedWithoutHash d)
  | spent (c e d) :
      SubmissionTransition (.recovering c e) (.submittedWithoutHash d) (.submittedWithoutHash d)
  | pending (c) : SubmissionTransition (.tracking c) .candidatePending (.tracking c)
  | expired (c d) :
      SubmissionTransition (.tracking c) (.trackingWindowExpired d) (.recovering (some c) d)
  | failed (c d) :
      SubmissionTransition (.tracking c) (.candidateCommittedFailure d) (.recovering none d)
  | failedTerminally (c d) :
      SubmissionTransition (.tracking c) (.terminalCandidateFailure d) (.rejected d)
  | recoveryFailedTerminally (c e d) :
      SubmissionTransition (.recovering c e) (.terminalCandidateFailure d) (.rejected d)
  | confirmedByHash (c van vcs) :
      SubmissionTransition (.tracking c) (.confirmed (.hash c van vcs))
        (.confirmed (.hash c van vcs))
  | retryAccepted (e c) :
      SubmissionTransition (.recovering none e) (.usableCandidateHash c) (.tracking c)
  | sameCandidate (c e) :
      SubmissionTransition (.recovering (some c) e) (.usableCandidateHash c)
        (.recovering (some c) e)
  | retryAmbiguous (e d) :
      SubmissionTransition (.recovering none e) (.possiblyDispatched d) (.recovering none d)
  | candidateKept (c e d) :
      SubmissionTransition (.recovering (some c) e) (.possiblyDispatched d)
        (.recovering (some c) e)
  | continued (c e) :
      SubmissionTransition (.recovering c e) .continueRecovery (.recovering c e)
  | retryRefused (c e d) :
      SubmissionTransition (.recovering c e) (.definiteRejection d) (.recovering c e)
  | retryNotDispatched (c e) :
      SubmissionTransition (.recovering c e) .definitelyNotDispatched (.recovering c e)
  | recoveryPending (c e) :
      SubmissionTransition (.recovering (some c) e) .candidatePending (.recovering (some c) e)
  | recoveryFailed (c e d) :
      SubmissionTransition (.recovering (some c) e) (.candidateCommittedFailure d)
        (.recovering none d)
  | recoveredByHash (c e van vcs) :
      SubmissionTransition (.recovering (some c) e) (.confirmed (.hash c van vcs))
        (.confirmed (.hash c van vcs))
  | recoveredByTree (c e van vcs) :
      SubmissionTransition (.recovering c e) (.confirmed (.tree van vcs))
        (.confirmed (.tree van vcs))
  | replayed (confirmation) :
      SubmissionTransition (.confirmed confirmation) (.confirmed confirmation)
        (.confirmed confirmation)

/-- The table and the relation agree. -/
theorem applySubmissionObservation_eq_ok {s s' : SubmissionRecordState}
    {observation : SubmissionObservation} :
    applySubmissionObservation (some s) observation = .ok (some s') ↔
      SubmissionTransition s observation s' := by
  constructor
  · intro h
    cases s with
    | submitting => cases observation <;> cases h <;> constructor
    | submittedWithoutHash d => cases observation <;> cases h
    | rejected d => cases observation <;> cases h
    | confirmed existing =>
      cases observation with
      | confirmed replayed =>
        simp only [applySubmissionObservation] at h
        split at h
        · next heq => cases h; subst heq; exact .replayed _
        · cases h
      | _ => cases h
    | tracking c =>
      cases observation with
      | confirmed confirmation =>
        cases confirmation with
        | tree van vcs => cases h
        | hash th van vcs =>
          simp only [applySubmissionObservation, requireHashConfirmationForCandidate] at h
          split at h
          · next heq => cases h; subst heq; exact .confirmedByHash _ _ _
          · cases h
      | _ => cases h <;> constructor
    | recovering c e =>
      cases observation with
      | confirmed confirmation =>
        cases confirmation with
        | tree van vcs => cases c <;> cases h <;> constructor
        | hash th van vcs =>
          cases c with
          | none => cases h
          | some c =>
            simp only [applySubmissionObservation, requireValidRecoveryConfirmation,
              requireHashConfirmationForCandidate] at h
            split at h
            · next heq => cases h; subst heq; exact .recoveredByHash _ _ _ _
            · cases h
      | usableCandidateHash candidate =>
        cases c with
        | none => cases h; constructor
        | some existing =>
          simp only [applySubmissionObservation] at h
          split at h
          · cases h
          · next heq => cases h; rw [ne_eq, not_not] at heq; subst heq; exact .sameCandidate _ _
      | _ => cases c <;> cases h <;> constructor
  · intro h
    cases h with
    | confirmedByHash => simp [applySubmissionObservation, requireHashConfirmationForCandidate,
        bind, Except.bind, pure, Except.pure]
    | recoveredByHash => simp [applySubmissionObservation, requireValidRecoveryConfirmation,
        requireHashConfirmationForCandidate, bind, Except.bind, pure, Except.pure]
    | sameCandidate => simp [applySubmissionObservation]
    | replayed => simp [applySubmissionObservation]
    | spent c | continued c | retryRefused c | retryNotDispatched c | recoveredByTree c
    | recoveryFailedTerminally c => cases c <;> rfl
    | _ => rfl

end ZcashVoting
