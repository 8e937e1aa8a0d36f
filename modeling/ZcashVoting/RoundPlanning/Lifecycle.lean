import ZcashVoting.ChainSubmission.Result
import ZcashVoting.Storage.Db
import ZcashVoting.Vote.Preparation

/-!
# ZcashVoting.RoundPlanning.Lifecycle

Where a vote stands relative to the chain lifecycle, the roster and the ballot: the
only inputs the planner's rule table takes.
-/

namespace ZcashVoting

open Transaction

/-! ## Phases -/

/-- `DelegationPhase`: the delegation lifecycle of one bundle. -/
inductive DelegationPhase where
  | prepared
  | pcztBuilt
  | proved
  | submitted
  | submissionManaged
  | submittedWithoutHash
  | submissionRejected
  | confirmed
  deriving DecidableEq

/-- `VotePhase`: the cast-vote lifecycle of one bundle and proposal. -/
inductive VotePhase where
  | prepared
  | committed
  | submitted
  | submissionManaged
  | submittedWithoutHash
  | submissionRejected
  | confirmed
  deriving DecidableEq

namespace VotePhase

/-- `as_str`. -/
def asStr : VotePhase → String
  | .prepared => "prepared"
  | .committed => "committed"
  | .submitted => "submitted"
  | .submissionManaged => "submission_managed"
  | .submittedWithoutHash => "submitted_without_hash"
  | .submissionRejected => "submission_rejected"
  | .confirmed => "confirmed"

/-- `vote_phase_is_lifecycle_owned`. -/
def isLifecycleOwned : VotePhase → Bool
  | .prepared | .committed => false
  | .submitted | .submissionManaged | .submittedWithoutHash | .submissionRejected
  | .confirmed => true

end VotePhase

/-- `SharePhase`: the lifecycle of one delegated helper share. -/
inductive SharePhase where
  | submitted
  | confirmed
  deriving DecidableEq

/-- `DelegationSubmissionStatus`: a bundle's phase with the diagnostic of its
authoritative submission row. -/
structure DelegationSubmissionStatus where
  bundleIndex : Nat
  phase : DelegationPhase
  diagnostic : Option ChainSubmissionDiagnostic
  deriving DecidableEq

/-! ## Position in the chain lifecycle -/

/-- `LifecyclePosition`: a coarsening of `VotePhase`. -/
inductive LifecyclePosition where
  /-- Nothing durable the chain could have seen. -/
  | uncast
  /-- Signed and durable, no POST reserved. -/
  | undispatched
  /-- A POST was reserved or dispatched. -/
  | onWire
  /-- The lifecycle ended without a confirmation. -/
  | terminal
  /-- The vote has a tree position. -/
  | confirmed
  deriving DecidableEq

namespace LifecyclePosition

/-- `LifecyclePosition::of`: the position of a vote, or of a vote with no row. -/
def of : Option VotePhase → LifecyclePosition
  | none | some .prepared => .uncast
  | some .committed => .undispatched
  | some .submitted | some .submissionManaged => .onWire
  | some .submittedWithoutHash | some .submissionRejected => .terminal
  | some .confirmed => .confirmed

/-- `LifecyclePosition::is_lifecycle_owned`: the vote may be on chain. -/
def isLifecycleOwned : LifecyclePosition → Bool
  | .uncast | .undispatched => false
  | .onWire | .terminal | .confirmed => true

end LifecyclePosition

/-- A phase is lifecycle-owned as its position is. -/
theorem VotePhase.isLifecycleOwned_eq (phase : VotePhase) :
    phase.isLifecycleOwned = (LifecyclePosition.of (some phase)).isLifecycleOwned := by
  cases phase <;> rfl

/-- `vote_phase_holds_bundle`: the vote reserves its bundle against a fresh cast. -/
def votePhaseHoldsBundle : VotePhase → Bool
  | .committed | .submitted | .submissionManaged | .submittedWithoutHash => true
  | .prepared | .submissionRejected | .confirmed => false

/-- `delegation_phase_holds_bundle`: the delegation reserves its bundle against a fresh
cast. -/
def delegationPhaseHoldsBundle : DelegationPhase → Bool
  | .submissionManaged | .submittedWithoutHash | .submissionRejected => true
  | .prepared | .pcztBuilt | .proved | .submitted | .confirmed => false

/-- Of the votes that hold their bundle only a committed one is still the wallet's. -/
theorem VotePhase.isLifecycleOwned_of_holds {phase : VotePhase}
    (hholds : votePhaseHoldsBundle phase = true) (hcommitted : phase ≠ .committed) :
    phase.isLifecycleOwned = true := by
  cases phase <;> simp_all [votePhaseHoldsBundle, VotePhase.isLifecycleOwned]

/-- The undispatched votes are the committed ones. -/
@[simp] theorem LifecyclePosition.of_eq_undispatched {phase : VotePhase} :
    LifecyclePosition.of (some phase) = .undispatched ↔ phase = .committed := by
  cases phase <;> simp [LifecyclePosition.of]

/-! ## Roster and ballot -/

/-- `RosterRelation`: per unit, because an atomic batch is indivisible. -/
inductive RosterRelation where
  /-- Every member's proposal is in the roster. -/
  | rostered
  /-- Some member's proposal is not. -/
  | leftRoster
  deriving DecidableEq

/-- `roster_relation`. -/
def rosterRelation (proposalIds roster : List Nat) : RosterRelation :=
  if proposalIds.all (roster.contains ·) then .rostered else .leftRoster

/-- `BallotRelation`: a stored vote and the durable intent for its proposal. -/
inductive BallotRelation where
  /-- The intent is the stored choice. -/
  | agrees
  /-- No intent is recorded. -/
  | unrecorded
  /-- The intent is to skip, or another choice. -/
  | conflicts
  deriving DecidableEq

/-- `ballot_relation`. -/
def ballotRelation (intents : Table Nat BallotIntent) (proposalId storedChoice : Nat) :
    BallotRelation :=
  match intents.lookup proposalId with
  | none => .unrecorded
  | some (.choice choice) => if choice = storedChoice then .agrees else .conflicts
  | some .skipped => .conflicts

/-- `BallotIntentClassification`: the roster in ascending order and what the durable
ballot says of it. -/
structure BallotIntentClassification where
  roster : List Nat
  choiceProposals : List Nat
  openProposals : List Nat
  /-- Durable intents for proposals outside the roster. -/
  unrosteredIntents : List Nat
  deriving DecidableEq

/-- The roster check of `classify_ballot_intents`: the proposals already seen grow. -/
def validateRoster (seen : List Nat) : List Nat → Except VotingError Unit
  | [] => .ok ()
  | proposalId :: proposalIds => do
    validateProposalId proposalId
    check (proposalId ∉ seen)
      (.invalidInput s!"proposal roster contains duplicate id {proposalId}")
    validateRoster (proposalId :: seen) proposalIds

/-- A roster that passes names no proposal twice. -/
theorem nodup_of_validateRoster {seen proposalIds : List Nat} {u : Unit}
    (h : validateRoster seen proposalIds = .ok u) :
    proposalIds.Nodup ∧ ∀ proposalId ∈ proposalIds, proposalId ∉ seen := by
  induction proposalIds generalizing seen with
  | nil => simp
  | cons proposalId proposalIds ih =>
    simp only [validateRoster, except_bind_eq_ok, check_eq_ok, decide_eq_true_eq] at h
    obtain ⟨-, -, -, hfresh, h⟩ := h
    obtain ⟨hnodup, hunseen⟩ := ih h
    refine ⟨List.nodup_cons.mpr ⟨fun hmem => ?_, hnodup⟩, fun other hmem => ?_⟩
    · simpa using hunseen proposalId hmem
    · obtain rfl | hmem := List.mem_cons.mp hmem
      · exact hfresh
      · exact fun hseen => hunseen other hmem (List.mem_cons_of_mem _ hseen)

/-- `classify_ballot_intents`. -/
def classifyBallotIntents (proposalIds : List Nat) (intents : Table Nat BallotIntent) :
    Except VotingError BallotIntentClassification := do
  validateRoster [] proposalIds
  let roster := proposalIds.insertionSort (· ≤ ·)
  return {
    roster
    choiceProposals := roster.filter fun proposalId =>
      match intents.lookup proposalId with
      | some (.choice _) => true
      | _ => false
    openProposals := roster.filter fun proposalId => (intents.lookup proposalId).isNone
    unrosteredIntents := ((intents.ascending (· ≤ ·)).map (·.1)).filter (· ∉ roster) }

/-- A proposal of the roster is open, or has a decision. -/
theorem exists_intent_of_openProposals {proposalIds : List Nat} {intents : Table Nat BallotIntent}
    {ballot : BallotIntentClassification} (h : classifyBallotIntents proposalIds intents = .ok ballot)
    (hopen : ballot.openProposals = []) {proposalId : Nat} (hmem : proposalId ∈ proposalIds) :
    ∃ decision, intents.lookup proposalId = some decision := by
  obtain ⟨_, -, h⟩ := except_bind_eq_ok.mp h
  rw [except_pure_eq_ok] at h
  subst h
  have hnone := List.filter_eq_nil_iff.mp hopen proposalId (by simpa using hmem)
  exact Option.isSome_iff_exists.mp (by simpa [Option.isSome_iff_ne_none] using hnone)

end ZcashVoting
