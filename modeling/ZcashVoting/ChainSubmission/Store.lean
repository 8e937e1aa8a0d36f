import ZcashVoting.ChainSubmission.Generation
import ZcashVoting.ChainSubmission.State

/-!
# ZcashVoting.ChainSubmission.Store

The storage contract of the lifecycle: what an advancement asks of the store,
the complete durable record it works on, and the bookkeeping every transition
of a record shares.

The record is the typed reading of a `chain_submissions` row; the SQLite store
loads it from the columns and writes it back.
-/

namespace ZcashVoting

/-! ## Requests -/

/-- Inputs from which storage reconstructs a closed semantic generation. -/
inductive SubmissionDerivationRequest where
  | delegation (identity : ChainSubmissionIdentity) (spendAuthSignature : Bytes64)
  | importedDelegation (identity : ChainSubmissionIdentity)
  | vote (identity : ChainSubmissionIdentity)
  | voteBatch (identity : ChainSubmissionIdentity)
  deriving DecidableEq

def SubmissionDerivationRequest.identity : SubmissionDerivationRequest → ChainSubmissionIdentity
  | .delegation identity _ | .importedDelegation identity | .vote identity
  | .voteBatch identity => identity

/-- One advancement request and the identities it overlaps. -/
structure StoreAdvancementRequest where
  derivation : SubmissionDerivationRequest
  /-- Singleton member identities an atomic batch would overlap. -/
  memberIdentities : List ChainSubmissionIdentity
  orderedBatchProposalIds : Option (List Nat)
  deriving DecidableEq

namespace StoreAdvancementRequest

def importedDelegation (identity : ChainSubmissionIdentity) : StoreAdvancementRequest :=
  ⟨.importedDelegation identity, [], none⟩

def identity (request : StoreAdvancementRequest) : ChainSubmissionIdentity :=
  request.derivation.identity

def isBatch (request : StoreAdvancementRequest) : Bool :=
  match request.derivation with
  | .voteBatch _ => true
  | _ => false

def isImportedDelegation (request : StoreAdvancementRequest) : Bool :=
  match request.derivation with
  | .importedDelegation _ => true
  | _ => false

/-- `verify_batch_roster`. -/
def verifyBatchRoster (request : StoreAdvancementRequest)
    (authoritativeOrderedProposalIds : List Nat) : Except ChainSubmissionFailure Unit :=
  match request.orderedBatchProposalIds with
  | some expected =>
    if authoritativeOrderedProposalIds ≠ expected then
      .error (.withoutState .invalidInput
        "vote-batch proposal roster does not match the complete persisted batch")
    else .ok ()
  | none => .ok ()

/-- `validate_target`. -/
def validateTarget (request : StoreAdvancementRequest) : Except ChainSubmissionFailure Unit :=
  match request.derivation, request.identity.target with
  | .delegation _ _, .delegation | .importedDelegation _, .delegation | .vote _, .vote _
  | .voteBatch _, .voteBatch _ | .voteBatch _, .delegateAndVoteBatch _ => .ok ()
  | _, _ => .error (.withoutState .invalidInput
      "submission request kind does not match its typed identity target")

end StoreAdvancementRequest

/-! ## The durable record -/

/-- Complete durable record used by the coordinator and the store. -/
structure StoredChainSubmission where
  identity : ChainSubmissionIdentity
  generationDigest : ChainSubmissionGenerationDigest
  state : SubmissionRecordState
  committedPostReservations : Nat
  trackingStartedAt : Option Nat
  diagnostic : Option ChainSubmissionDiagnostic
  createdAt : Nat
  updatedAt : Nat
  deriving DecidableEq

namespace StoredChainSubmission

def durableState (record : StoredChainSubmission) : ChainSubmissionState :=
  record.state.durableState

/-- The generation a record was reserved for. -/
def generation (record : StoredChainSubmission) : ChainSubmissionGeneration :=
  ⟨record.identity, record.generationDigest⟩

/-- The diagnostic kept after a transition: the state's own where it carries
one, an explicit one otherwise, and nothing on entering `tracking` without. -/
def settledDiagnostic (record : StoredChainSubmission) (previous : ChainSubmissionState)
    (explicitDiagnostic : Option ChainSubmissionDiagnostic) : Option ChainSubmissionDiagnostic :=
  match record.state with
  | .recovering _ diagnostic | .submittedWithoutHash diagnostic | .rejected diagnostic =>
    some diagnostic
  | .tracking _ =>
    explicitDiagnostic.or (if previous ≠ .tracking then none else record.diagnostic)
  | .submitting | .confirmed _ => explicitDiagnostic.or record.diagnostic

/-- `settle_after_transition`: the bookkeeping every transition shares.  The
tracking window starts once and `updated_at` never moves backwards. -/
def settleAfterTransition (record : StoredChainSubmission) (previous : ChainSubmissionState)
    (explicitDiagnostic : Option ChainSubmissionDiagnostic) (now : Nat) :
    StoredChainSubmission :=
  let effectiveNow := max now record.updatedAt
  { record with
    diagnostic := record.settledDiagnostic previous explicitDiagnostic
    trackingStartedAt :=
      match record.state, record.trackingStartedAt with
      | .tracking _, none => some effectiveNow
      | _, started => started
    updatedAt := effectiveNow }

/-- `retires_combined_generation`: the row has just become terminally rejected
and must leave no durable trace. -/
def retiresCombinedGeneration (record : StoredChainSubmission) (previous : ChainSubmissionState) :
    Bool :=
  record.durableState == .rejected && previous != .rejected && record.identity.target.isCombined

/-- `fresh`. -/
def fresh (generation : ChainSubmissionGeneration) (committedPostReservations now : Nat) :
    StoredChainSubmission :=
  { identity := generation.identity, generationDigest := generation.digest
    state := .submitting, committedPostReservations, trackingStartedAt := none
    diagnostic := none, createdAt := now, updatedAt := now }

/-- `adopted_imported_delegation`. -/
def adoptedImportedDelegation (generation : ChainSubmissionGeneration)
    (candidate : CandidateTransactionHash) (now : Nat) : StoredChainSubmission :=
  { identity := generation.identity, generationDigest := generation.digest
    state := .tracking candidate, committedPostReservations := 0
    trackingStartedAt := some now, diagnostic := none, createdAt := now, updatedAt := now }

@[simp] theorem identity_settleAfterTransition (record : StoredChainSubmission) (previous d now) :
    (record.settleAfterTransition previous d now).identity = record.identity := rfl

@[simp] theorem generationDigest_settleAfterTransition (record : StoredChainSubmission)
    (previous d now) :
    (record.settleAfterTransition previous d now).generationDigest = record.generationDigest := rfl

@[simp] theorem state_settleAfterTransition (record : StoredChainSubmission) (previous d now) :
    (record.settleAfterTransition previous d now).state = record.state := rfl

@[simp] theorem committedPostReservations_settleAfterTransition (record : StoredChainSubmission)
    (previous d now) :
    (record.settleAfterTransition previous d now).committedPostReservations =
      record.committedPostReservations := rfl

@[simp] theorem createdAt_settleAfterTransition (record : StoredChainSubmission) (previous d now) :
    (record.settleAfterTransition previous d now).createdAt = record.createdAt := rfl

@[simp] theorem updatedAt_settleAfterTransition (record : StoredChainSubmission) (previous d now) :
    (record.settleAfterTransition previous d now).updatedAt = max now record.updatedAt := rfl

end StoredChainSubmission

/-! ## Answers of the store -/

inductive StoreAdmission where
  | noAuthoritativeState
  | authoritative (record : StoredChainSubmission)
  /-- An interrupted reservation was normalized without deriving its generation. -/
  | abandonedReservation (record : StoredChainSubmission)
  | ready (derived : DerivedChainSubmission) (record : StoredChainSubmission)
      (freshReservation : Bool)
  deriving DecidableEq

inductive ConfirmationCommit where
  | interrupted (record : StoredChainSubmission)
  | confirmed (record : StoredChainSubmission)
  deriving DecidableEq

/-! ## Shared checks -/

/-- `abandoned_diagnostic`. -/
def abandonedDiagnostic : ChainSubmissionDiagnostic :=
  .fromRedactedMessage .ambiguousDispatch
    "an unclassified submission reservation survived process interruption"

/-- `ensure_generation`. -/
def ensureGeneration (record : StoredChainSubmission) (generation : ChainSubmissionGeneration) :
    Except ChainSubmissionFailure Unit :=
  if record.identity ≠ generation.identity ∨ record.generationDigest ≠ generation.digest then
    .error (.withDurableState .invalidInput record.durableState
      "stored submission belongs to a different semantic generation")
  else .ok ()

theorem ensureGeneration_eq_ok {record : StoredChainSubmission}
    {generation : ChainSubmissionGeneration} {u : Unit} :
    ensureGeneration record generation = .ok u ↔ record.generation = generation := by
  obtain ⟨identity, digest⟩ := generation
  simp only [ensureGeneration, StoredChainSubmission.generation,
    ChainSubmissionGeneration.mk.injEq]
  split
  · next h => simp only [reduceCtorEq, false_iff]; tauto
  · next h => simp only [true_iff]; tauto

/-- `transition_failure`. -/
def transitionFailure (state : ChainSubmissionState) (error : String) : ChainSubmissionFailure :=
  .withDurableState .invariantViolation state error

/-- `preserve_loaded_state`. -/
def preserveLoadedState (record : Option StoredChainSubmission) (error : ChainSubmissionFailure) :
    ChainSubmissionFailure :=
  match record with
  | some record => error.attachState record.durableState
  | none => error

/-- `map_generation_error`. -/
def mapGenerationError (error : VotingError) : ChainSubmissionFailure :=
  .withoutState
    (match error with
      | .invalidInput _ => .invalidInput
      | _ => .storage)
    error.display

end ZcashVoting
