import Mathlib.Data.String.Basic
import ZcashVoting.ChainSubmission.Identity

/-!
# ZcashVoting.ChainSubmission.Result

The values an advancement pass reports: diagnostics with bounded, escaped
messages, validated confirmations, results and failures.

The two bounds the code keeps by construction are part of the types: a
diagnostic's message is at most `maxDiagnosticBytes` long, and the positions of
a validated confirmation are leaves of the commitment tree.
-/

namespace ZcashVoting

/-! ## Redacted text -/

/-- `MAX_CHAIN_SUBMISSION_DIAGNOSTIC_BYTES`. -/
def maxDiagnosticBytes : Nat := 512

/-- `char::escape_default`: tab, carriage return, newline, the two quotes and
the backslash are escaped by a backslash, other characters outside printable
ASCII by their code point. -/
def escapeDefault (c : Char) : List Char :=
  let backslash := Char.ofNat 92
  match c.toNat with
  | 9 => [backslash, 't']
  | 13 => [backslash, 'r']
  | 10 => [backslash, 'n']
  | 39 => [backslash, c]
  | 34 => [backslash, c]
  | 92 => [backslash, c]
  | n =>
    if 32 ≤ n ∧ n ≤ 126 then [c]
    else [backslash, 'u', Char.ofNat 123] ++ Nat.toDigits 16 n ++ [Char.ofNat 125]

/-- Escape characters one by one for as long as they fit into `room` bytes. -/
def boundedChars : (room : Nat) → List Char → List Char
  | _, [] => []
  | room, c :: cs =>
    if room < String.utf8Len (escapeDefault c) then []
    else escapeDefault c ++ boundedChars (room - String.utf8Len (escapeDefault c)) cs

/-- `bounded_redacted_text`. -/
def boundedRedactedText (message : String) : String :=
  String.ofList (boundedChars maxDiagnosticBytes message.toList)

theorem utf8Len_boundedChars_le (room : Nat) (cs : List Char) :
    String.utf8Len (boundedChars room cs) ≤ room := by
  induction cs generalizing room with
  | nil => simp [boundedChars]
  | cons c cs ih =>
    rw [boundedChars]
    split
    · simp
    · next hroom =>
      have hrest := ih (room - String.utf8Len (escapeDefault c))
      rw [String.utf8Len_append]
      omega

theorem utf8ByteSize_boundedRedactedText_le (message : String) :
    (boundedRedactedText message).utf8ByteSize ≤ maxDiagnosticBytes := by
  rw [boundedRedactedText, String.utf8ByteSize_ofList]
  exact utf8Len_boundedChars_le _ _

/-! ## Diagnostics -/

inductive ChainSubmissionState where
  | submitting
  | tracking
  | recovering
  | submittedWithoutHash
  | confirmed
  | rejected
  deriving DecidableEq, Repr

/-- The states in which a submission still occupies its bundle
(`state IN ('submitting','tracking','recovering','submitted_without_hash')`). -/
def ChainSubmissionState.isUnresolved : ChainSubmissionState → Bool
  | .submitting | .tracking | .recovering | .submittedWithoutHash => true
  | .confirmed | .rejected => false

inductive ChainSubmissionDiagnosticKind where
  | ambiguousDispatch
  | ambiguousAttemptsExhausted
  | nullifierAlreadySpent
  | trackingWindowExpired
  | chainRejected
  | reconciliationPending
  | invalidProtocolResponse
  | storageFailure
  | endpointUnsupported
  | routeAnswerReplaced
  deriving DecidableEq, Repr

namespace ChainSubmissionDiagnosticKind

/-- Kinds that record a POST whose delivery or response was lost or replaced. -/
def isDispatchAmbiguity : ChainSubmissionDiagnosticKind → Bool
  | .ambiguousDispatch | .invalidProtocolResponse | .endpointUnsupported
  | .routeAnswerReplaced => true
  | _ => false

end ChainSubmissionDiagnosticKind

/-- A diagnostic: a kind and an escaped message of bounded size. -/
structure ChainSubmissionDiagnostic where
  kind : ChainSubmissionDiagnosticKind
  message : String
  message_bounded : message.utf8ByteSize ≤ maxDiagnosticBytes
  deriving DecidableEq

/-- `ChainSubmissionDiagnostic::from_redacted_message`. -/
def ChainSubmissionDiagnostic.fromRedactedMessage (kind : ChainSubmissionDiagnosticKind)
    (redactedMessage : String) : ChainSubmissionDiagnostic :=
  ⟨kind, boundedRedactedText redactedMessage, utf8ByteSize_boundedRedactedText_le redactedMessage⟩

/-! ## Confirmations -/

inductive ChainSubmissionConfirmationSource where
  | hash
  | tree
  deriving DecidableEq, Repr

/-- Public form of a confirmation. -/
structure ChainSubmissionConfirmation where
  source : ChainSubmissionConfirmationSource
  transactionHash : Option CandidateTransactionHash
  finalVanPosition : Nat
  voteCommitmentPositions : List Nat
  deriving DecidableEq

/-- A position in the commitment tree. -/
abbrev TreePosition := Fin treeCapacity

/-- A confirmation whose positions are leaves of the commitment tree, by the
hash of a committed transaction or by its exact layout in the tree. -/
inductive ValidatedChainSubmissionConfirmation where
  | hash (transactionHash : CandidateTransactionHash) (finalVanPosition : TreePosition)
      (voteCommitmentPositions : List TreePosition)
  | tree (finalVanPosition : TreePosition) (voteCommitmentPositions : List TreePosition)
  deriving DecidableEq

namespace ValidatedChainSubmissionConfirmation

/-- The public confirmation inside a validated one. -/
def confirmation : ValidatedChainSubmissionConfirmation → ChainSubmissionConfirmation
  | .hash h van vcs => ⟨.hash, some h, van, vcs.map (·.val)⟩
  | .tree van vcs => ⟨.tree, none, van, vcs.map (·.val)⟩

/-- The transaction that confirmed the submission, if a hash did. -/
def transactionHash (c : ValidatedChainSubmissionConfirmation) :
    Option CandidateTransactionHash :=
  c.confirmation.transactionHash

end ValidatedChainSubmissionConfirmation

/-- `ChainSubmissionConfirmationError`. -/
def positionOutOfRange : String :=
  "chain tree positions must be below the commitment-tree capacity"

/-- `validate_tree_positions`: one position, as a leaf of the tree. -/
def treePosition? (position : Nat) : Except String TreePosition :=
  if h : position < treeCapacity then .ok ⟨position, h⟩ else .error positionOutOfRange

namespace ValidatedChainSubmissionConfirmation

/-- `from_hash`. -/
def fromHash (transactionHash : CandidateTransactionHash) (finalVanPosition : Nat)
    (voteCommitmentPositions : List Nat) :
    Except String ValidatedChainSubmissionConfirmation := do
  let van ← treePosition? finalVanPosition
  let vcs ← voteCommitmentPositions.mapM treePosition?
  return .hash transactionHash van vcs

/-- `from_tree`. -/
def fromTree (finalVanPosition : Nat) (voteCommitmentPositions : List Nat) :
    Except String ValidatedChainSubmissionConfirmation := do
  let van ← treePosition? finalVanPosition
  let vcs ← voteCommitmentPositions.mapM treePosition?
  return .tree van vcs

end ValidatedChainSubmissionConfirmation

/-! ## Results and failures -/

inductive ChainSubmissionResult where
  | confirmed (confirmation : ChainSubmissionConfirmation)
  | pendingTracking (candidate : CandidateTransactionHash)
  | pendingRecovering (candidate : Option CandidateTransactionHash)
      (diagnostic : ChainSubmissionDiagnostic)
  | submittedWithoutHash (diagnostic : ChainSubmissionDiagnostic)
  | rejected (diagnostic : ChainSubmissionDiagnostic)
  | cancelled
  deriving DecidableEq

inductive ChainSubmissionFailureKind where
  | invalidInput
  | invariantViolation
  | storage
  | transport
  | protocol
  deriving DecidableEq, Repr

inductive ChainSubmissionStateEvidence where
  | durable
  | knownPossiblyDispatched
  deriving DecidableEq, Repr

structure ChainSubmissionFailureState where
  state : ChainSubmissionState
  evidence : ChainSubmissionStateEvidence
  deriving DecidableEq, Repr

structure ChainSubmissionFailure where
  kind : ChainSubmissionFailureKind
  strongestState : Option ChainSubmissionFailureState
  message : String
  deriving DecidableEq, Repr

namespace ChainSubmissionFailure

def withoutState (kind : ChainSubmissionFailureKind) (redactedMessage : String) :
    ChainSubmissionFailure :=
  ⟨kind, none, boundedRedactedText redactedMessage⟩

def withDurableState (kind : ChainSubmissionFailureKind) (durableState : ChainSubmissionState)
    (redactedMessage : String) : ChainSubmissionFailure :=
  ⟨kind, some ⟨durableState, .durable⟩, boundedRedactedText redactedMessage⟩

def withKnownPossibleDispatch (kind : ChainSubmissionFailureKind) (redactedMessage : String) :
    ChainSubmissionFailure :=
  ⟨kind, some ⟨.recovering, .knownPossiblyDispatched⟩, boundedRedactedText redactedMessage⟩

/-- Attach a durable state to a failure that does not report one yet. -/
def attachState (durableState : ChainSubmissionState) (error : ChainSubmissionFailure) :
    ChainSubmissionFailure :=
  match error.strongestState with
  | some _ => error
  | none => withDurableState error.kind durableState error.message

end ChainSubmissionFailure

end ZcashVoting
