import ZcashVoting.Lib.Errors
import ZcashVoting.RoundPlanning.Coverage
import ZcashVoting.RoundPlanning.Projection

/-!
# ZcashVoting.RoundPlanning.NoPanic

The planner does not panic on a snapshot whose units it accepted.

Later stages index maps and lists by facts that earlier ones established: classification
looks up the unit of a stored vote, and projection finds each step's obligation again.
The first holds because the units partition the rows, the second because steps come from
obligations; both are carried through the stages as `Avoids PlannerPanic`.
-/

namespace ZcashVoting

open Transaction

/-- The texts of the planner's `expect` and `unreachable!` sites, and of an index into an
empty list.  One more site follows an `any` with the matching `find`; the model has one `find?`
there. -/
def plannerPanics : List String :=
  ["every vote row is in exactly one unit",
    "a due cast covers the missing row",
    "resolve_step pairs an advance step with its reconcile obligation",
    "a SubmitShares step is projected from a Deliver obligation",
    "index out of bounds: the len is 0 but the index is 0"]

/-- The error stands for a panic of the source. -/
def PlannerPanic (error : VotingError) : Prop := ∃ message ∈ plannerPanics, error = .internal message

theorem not_panic_invalidInput (message : String) : ¬ PlannerPanic (.invalidInput message) := by
  rintro ⟨_, -, h⟩
  cases h

/-- The first two letters tell the panics from the other internal errors. -/
theorem not_panic_internal {message : String}
    (h : message.toList.take 2 ∉ plannerPanics.map fun panic => panic.toList.take 2) :
    ¬ PlannerPanic (.internal message) := by
  rintro ⟨panic, hmem, heq⟩
  cases heq
  exact h (List.mem_map_of_mem hmem)

/-! ## Classification -/

section

variable {snapshot : RoundSnapshot} {units : List VoteUnit} {ballot : BallotIntentClassification}

theorem recoverPayloads_avoids (recovery : VoteRecoveryBundle) :
    Avoids PlannerPanic (recoverPayloads recovery) := by
  refine Avoids.bind ?_ fun _ _ => Avoids.mapM fun entry _ => ?_
  · refine (Avoids.check (not_panic_invalidInput _)).bind fun _ _ => ?_
    refine (Avoids.check (not_panic_invalidInput _)).bind fun _ _ => ?_
    exact Avoids.check (not_panic_invalidInput _)
  · dsimp only
    split
    · exact .error (not_panic_invalidInput _)
    · exact .ok _

theorem missingShareIndexes_avoids (bundleIndex proposalId : Nat) :
    Avoids PlannerPanic (missingShareIndexes snapshot bundleIndex proposalId) := by
  unfold missingShareIndexes
  split
  · exact .error (not_panic_invalidInput _)
  · refine (recoverPayloads_avoids _).bind fun _ _ => ?_
    exact (Avoids.check (not_panic_invalidInput _)).bind fun _ _ => .pure _

theorem confirmedTreePosition_avoids (bundleIndex proposalId : Nat) :
    Avoids PlannerPanic (snapshot.confirmedTreePosition bundleIndex proposalId) := by
  unfold RoundSnapshot.confirmedTreePosition
  split
  · exact .error (not_panic_internal (by simp [plannerPanics, String.toList_append, toString]))
  split
  · split
    · exact .ok _
    · exact .error (not_panic_internal (by simp [plannerPanics, String.toList_append, toString]))
  · exact .error (not_panic_internal (by simp [plannerPanics]))
  · exact .ok _

theorem deliverObligations_avoids (bundleIndex proposalId : Nat) :
    Avoids PlannerPanic (deliverObligations snapshot bundleIndex proposalId) := by
  refine (missingShareIndexes_avoids bundleIndex proposalId).bind fun missing _ => ?_
  split
  · exact .pure _
  refine (confirmedTreePosition_avoids bundleIndex proposalId).bind fun position _ => ?_
  split
  · exact .pure _
  · exact .error (not_panic_internal (by simp [plannerPanics, String.toList_append, toString]))

theorem deliver_spares (bundleIndex proposalId : Nat) :
    Spares PlannerPanic (deliver snapshot bundleIndex proposalId) := by
  refine Spares.write fun pass => ?_
  split
  · exact .ok _
  · exact (deliverObligations_avoids bundleIndex proposalId).bind fun _ _ => .pure _

theorem withhold_spares (proposalId : Nat) : Spares PlannerPanic (withhold proposalId) :=
  Spares.write fun _ => .ok _

theorem reconcile_spares (unit : VoteUnit) : Spares PlannerPanic (reconcile snapshot unit) := by
  refine (Spares.read fun _ => ?_).bind fun _ => Spares.write fun _ => .ok _
  unfold ensureSubmittedRecovery
  split
  · exact Avoids.check (not_panic_invalidInput _)
  · exact .ok _

theorem planCast_spares (proposalId intentChoice bundleIndex : Nat) :
    Spares PlannerPanic (planCast snapshot units ballot proposalId intentChoice bundleIndex) := by
  unfold planCast
  split
  · exact withhold_spares proposalId
  refine (Spares.write fun _ => .ok _).bind fun _ => ?_
  split
  · exact withhold_spares proposalId
  split
  · exact Spares.write fun _ => .ok _
  · exact (Spares.write fun _ => .ok _).bind fun _ => withhold_spares proposalId

section

variable (hfibres : UnitFibres snapshot (snapshot.votesInOrder.map (·.1)) units)

include hfibres

/-- A stored vote has a unit. -/
theorem unitOf_avoids {bundleIndex proposalId : Nat} {vote : VoteSnapshot}
    (hvote : snapshot.votes.lookup (bundleIndex, proposalId) = some vote) :
    Avoids PlannerPanic (unitOf units bundleIndex proposalId) := by
  obtain ⟨unit, hunit, hkey⟩ := hfibres.exists_unit hvote
  unfold unitOf
  split
  · exact .ok _
  · next hnone =>
    have := List.find?_eq_none.mp hnone unit hunit
    simp_all [VoteUnit.mem_keys, VoteUnit.contains, VoteUnit.proposalIds]

theorem planAgreeing_spares {proposalId bundleIndex : Nat} {vote : VoteSnapshot}
    (hvote : snapshot.votes.lookup (bundleIndex, proposalId) = some vote) :
    Spares PlannerPanic (planAgreeing snapshot units ballot proposalId bundleIndex vote) := by
  unfold planAgreeing
  split
  · exact deliver_spares bundleIndex proposalId
  · refine (Spares.read fun _ => unitOf_avoids hfibres hvote).bind fun unit => ?_
    split
    · exact reconcile_spares unit
    · exact withhold_spares proposalId
  · exact (Spares.read fun _ => unitOf_avoids hfibres hvote).bind reconcile_spares
  · exact .pure ()
  · exact .pure ()

/-- A cast is due wherever a row is missing, so the row is there when none is due. -/
theorem planVote_spares (proposalId intentChoice bundleIndex : Nat) :
    Spares PlannerPanic (planVote snapshot units ballot proposalId intentChoice bundleIndex) := by
  unfold planVote
  split
  · exact planCast_spares proposalId intentChoice bundleIndex
  · next hdue =>
    cases hvote : snapshot.votes.lookup (bundleIndex, proposalId) with
    | none => simp [castDue, hvote] at hdue
    | some vote => exact planAgreeing_spares hfibres hvote

theorem planVotes_spares : Spares PlannerPanic (planVotes snapshot units ballot) := by
  refine (Spares.forM fun proposalId _ => ?_).bind fun _ => Spares.forM fun entry hentry => ?_
  · unfold planProposal
    split
    · exact Spares.forM fun entry _ => planVote_spares hfibres proposalId _ entry.1
    · exact .pure ()
  · obtain ⟨⟨bundleIndex, proposalId⟩, vote⟩ := entry
    have hvote := Table.mem_ascending.mp hentry
    unfold advanceVote
    dsimp only
    split
    · exact .pure ()
    split
    · exact (Spares.read fun _ => unitOf_avoids hfibres hvote).bind reconcile_spares
    · exact deliver_spares bundleIndex proposalId
    all_goals exact .pure ()

theorem classify_avoids : Avoids PlannerPanic (classify snapshot units ballot) := by
  refine Avoids.bind ?_ fun _ _ => (planVotes_spares hfibres _).bind fun planned _ =>
    Avoids.bind ?_ fun _ _ => .pure _
  · unfold ensureNoSubmittedVoteConflict
    split
    · exact .error (not_panic_invalidInput _)
    · exact .ok ()
  · refine ((Spares.write fun _ => .ok _).bind fun _ => (Spares.forM fun entry _ => ?_).bind
      fun _ => Spares.write fun _ => .ok _) planned.2
    unfold advanceDelegation
    dsimp only
    split
    · exact .pure ()
    cases entry.2
    case submitted | submissionManaged =>
      dsimp only
      split
      · exact .abort (not_panic_invalidInput _)
      · exact Spares.write fun _ => .ok _
    case prepared | pcztBuilt => exact Spares.write fun _ => .ok _
    all_goals exact .pure ()

end

end

/-! ## Projection -/

/-- Chain work names at least one proposal. -/
def Obligation.Ordered : Obligation → Prop
  | .reconcileChain _ _ orderedProposalIds _ _ _ => orderedProposalIds ≠ []
  | _ => True

section

variable {snapshot : RoundSnapshot} {obligations : List Obligation}

theorem firstOrdered_eq_ok {orderedProposalIds : List Nat} (h : orderedProposalIds ≠ []) :
    firstOrdered orderedProposalIds = .ok (orderedProposalIds.head h) := by
  cases orderedProposalIds with
  | nil => exact absurd rfl h
  | cons => rfl

theorem stepsOf_avoids {obligation : Obligation} (h : obligation.Ordered) :
    Avoids PlannerPanic (stepsOf obligation) := by
  unfold stepsOf
  split <;> try exact .ok _
  rw [firstOrdered_eq_ok h]
  exact .ok _

/-- Resolving a step fails on no ordered obligation. -/
theorem exists_resolves {obligation : Obligation} (h : obligation.Ordered) (step : NextStep) :
    ∃ found, obligation.resolves step = .ok found := by
  unfold Obligation.resolves
  split <;> try exact ⟨_, rfl⟩
  all_goals
    split
    · rw [firstOrdered_eq_ok h]
      exact ⟨_, rfl⟩
    · exact ⟨_, rfl⟩

/-- What a step resolves to: the first obligation that it executes. -/
theorem resolveStep_eq_ok (hordered : ∀ obligation ∈ obligations, obligation.Ordered)
    (step : NextStep) :
    (∃ obligation ∈ obligations, obligation.resolves step = .ok true ∧
      resolveStep obligations step = .ok (some obligation)) ∨
    ((∀ obligation ∈ obligations, obligation.resolves step = .ok false) ∧
      resolveStep obligations step = .ok none) := by
  induction obligations with
  | nil => exact .inr ⟨by simp, rfl⟩
  | cons obligation obligations ih =>
    obtain ⟨found, hfound⟩ := exists_resolves (hordered obligation (by simp)) step
    cases found with
    | true => exact .inl ⟨obligation, by simp, hfound, by simp [resolveStep, hfound]⟩
    | false =>
      have hstep : resolveStep (obligation :: obligations) step = resolveStep obligations step := by
        simp [resolveStep, hfound]
        rfl
      rw [hstep]
      obtain ⟨other, hother, hresolves, hresolve⟩ | ⟨hnone, hresolve⟩ :=
        ih fun other hother => hordered other (by simp [hother])
      · exact .inl ⟨other, by simp [hother], hresolves, hresolve⟩
      · exact .inr ⟨List.forall_mem_cons.mpr ⟨hfound, hnone⟩, hresolve⟩

theorem resolveStep_avoids (hordered : ∀ obligation ∈ obligations, obligation.Ordered)
    (step : NextStep) : Avoids PlannerPanic (resolveStep obligations step) := by
  obtain ⟨_, -, -, h⟩ | ⟨-, h⟩ := resolveStep_eq_ok hordered step
  · rw [h]
    exact .ok _
  · rw [h]
    exact .ok _

/-- A share step comes from a delivery, which it resolves to again. -/
theorem exists_deliver_of_step {steps : List NextStep}
    (hsteps : stepsFromObligations obligations = .ok steps) {bundleIndex proposalId shareIndex : Nat}
    (hmem : .submitShares bundleIndex proposalId shareIndex ∈ steps) :
    ∃ obligation ∈ obligations,
      obligation.resolves (.submitShares bundleIndex proposalId shareIndex) = .ok true := by
  obtain ⟨obligation, hobligation, own, hsteps, hmem⟩ := exists_obligation_of_step hsteps hmem
  refine ⟨obligation, hobligation, ?_⟩
  unfold stepsOf at hsteps
  split at hsteps
  case h_7 =>
    cases hsteps
    obtain ⟨_, hshare, heq⟩ := List.mem_map.mp hmem
    cases heq
    simp [Obligation.resolves, hshare]
  case h_6 =>
    obtain ⟨_, -, hsteps⟩ := except_bind_eq_ok.mp hsteps
    cases hsteps
    simp at hmem
  all_goals
    cases hsteps
    simp at hmem

/-- Only a delivery executes a share step. -/
theorem deliveredPosition_avoids (hordered : ∀ obligation ∈ obligations, obligation.Ordered)
    {bundleIndex proposalId shareIndex : Nat}
    (h : ∃ obligation ∈ obligations,
      obligation.resolves (.submitShares bundleIndex proposalId shareIndex) = .ok true)
    {found : Option Obligation} (hfound : resolveStep obligations
      (.submitShares bundleIndex proposalId shareIndex) = .ok found) :
    Avoids PlannerPanic (deliveredPosition found) := by
  obtain ⟨obligation, -, hresolves, hresolve⟩ | ⟨hnone, -⟩ :=
    resolveStep_eq_ok hordered (.submitShares bundleIndex proposalId shareIndex)
  · rw [hresolve, Except.ok.injEq] at hfound
    subst hfound
    cases obligation <;> first | exact .ok _ | simp [Obligation.resolves] at hresolves
  · obtain ⟨obligation, hmem, hresolves⟩ := h
    simp [hnone obligation hmem] at hresolves

/-- Only chain work executes an advance step. -/
theorem advanceWork_avoids (hordered : ∀ obligation ∈ obligations, obligation.Ordered)
    {step : NextStep} {bundleIndex proposalId : Nat}
    (hstep : step = .advanceVote bundleIndex proposalId ∨
      step = .advanceVoteBatch bundleIndex proposalId) {found : Option Obligation}
    (hfound : resolveStep obligations step = .ok found) :
    Avoids PlannerPanic (advanceWork snapshot bundleIndex proposalId found) := by
  obtain ⟨obligation, -, hresolves, hresolve⟩ | ⟨-, hresolve⟩ := resolveStep_eq_ok hordered step
  · rw [hresolve, Except.ok.injEq] at hfound
    subst hfound
    obtain rfl | rfl := hstep
    all_goals cases obligation <;> first | exact .ok _ | simp [Obligation.resolves] at hresolves
  · rw [hresolve, Except.ok.injEq] at hfound
    subst hfound
    exact .error (not_panic_internal (by simp [plannerPanics, String.toList_append, toString]))

theorem requireRecoveryField_avoids {α : Type} {message : String}
    (h : message.toList.take 2 ∉ plannerPanics.map fun panic => panic.toList.take 2)
    (field : Option α) : Avoids PlannerPanic (requireRecoveryField message field) := by
  cases field with
  | none => exact .error (not_panic_internal h)
  | some value => exact .ok value

theorem recoveredDelegationWork_avoids (hordered : ∀ obligation ∈ obligations, obligation.Ordered)
    (steps : List NextStep) :
    Avoids PlannerPanic (recoveredDelegationWorkFromSteps snapshot obligations steps) := by
  refine (Avoids.mapM fun step _ => ?_).bind fun _ _ => .pure _
  unfold delegationWorkOf
  dsimp only
  split
  · exact (requireRecoveryField_avoids
      (by simp [plannerPanics, String.toList_append, toString]) _).bind fun _ _ => .pure _
  · refine ((resolveStep_avoids hordered _).map _).bind fun _ _ => ?_
    exact (requireRecoveryField_avoids
      (by simp [plannerPanics, String.toList_append, toString]) _).bind fun _ _ => .pure _
  · refine ((resolveStep_avoids hordered _).map _).bind fun _ _ => ?_
    exact (requireRecoveryField_avoids
      (by simp [plannerPanics, String.toList_append, toString]) _).bind fun _ _ => .pure _
  all_goals exact .ok _

theorem recoveredVoteWork_avoids (hordered : ∀ obligation ∈ obligations, obligation.Ordered)
    {steps : List NextStep} (hsteps : stepsFromObligations obligations = .ok steps)
    (keys : List (Nat × Nat × Nat)) :
    Avoids PlannerPanic
      (recoveredVoteWorkFromSteps snapshot keys obligations (sortSteps steps)) := by
  refine Avoids.foldlM fun step hstep work => ?_
  have hstep : step ∈ steps := (List.mem_insertionSort _).mp hstep
  unfold voteWorkOf
  dsimp only
  split
  case h_1 | h_2 =>
    refine (resolveStep_avoids hordered _).bind fun found hfound => ?_
    exact (advanceWork_avoids hordered (by simp) hfound).bind fun _ _ => .pure _
  case h_3 =>
    refine (resolveStep_avoids hordered _).bind fun found hfound => ?_
    exact (deliveredPosition_avoids hordered (exists_deliver_of_step hsteps hstep) hfound).bind
      fun _ _ => .pure _
  case h_4 =>
    split
    · refine (confirmedTreePosition_avoids _ _).bind fun _ _ => ?_
      exact (requireRecoveryField_avoids
        (by simp [plannerPanics, String.toList_append, toString]) _).bind fun _ _ => .pure _
    · exact .ok _
  all_goals exact .ok _

theorem project_avoids {result : RoundObligations}
    (hordered : ∀ obligation ∈ result.obligations, obligation.Ordered) (proposalIds : List Nat) :
    Avoids PlannerPanic (project snapshot proposalIds result) := by
  refine Avoids.bind ?_ fun steps hsteps => ?_
  · refine Avoids.bind (Avoids.mapM fun obligation hmem => ?_) fun _ _ => .pure _
    exact stepsOf_avoids (hordered obligation hmem)
  · refine (recoveredDelegationWork_avoids hordered _).bind fun _ _ => ?_
    exact (recoveredVoteWork_avoids hordered hsteps _).bind fun _ _ => .pure _

end

/-- **Units partition the votes, and the planner does not panic.**  Where the units of a
snapshot are accepted, they are as they should be exactly when the recoveries of the
batches that group votes name the rows they are stored in: the rows of the units are the
vote rows, each once; every batch is complete, in batch order and of one phase; and
neither classification nor projection nor the recovery work of its steps reaches a panic
site. -/
theorem units_partition_without_panic (P : Primitives) (snapshot : RoundSnapshot)
    (intents : Table Nat BallotIntent) (units : List VoteUnit)
    (hunits : groupVoteUnits P snapshot intents = .ok units) :
    ((units.flatMap (·.keys)).Perm (snapshot.votesInOrder.map (·.1)) ∧
      (∀ unit ∈ units, ∀ bundleIndex digest, unit.id = .batch bundleIndex digest →
        unit.IsBatch snapshot digest) ∧
      ∀ ballot, Avoids PlannerPanic (classify snapshot units ballot) ∧
        ∀ result, classify snapshot units ballot = .ok result →
          (∀ proposalIds, Avoids PlannerPanic (project snapshot proposalIds result)) ∧
          ∀ steps, stepsFromObligations result.obligations = .ok steps →
            Avoids PlannerPanic (recoveredVoteWorkFromSteps snapshot
              (blockingConfirmShareKeys result.obligations) result.obligations
              (sortSteps steps))) ↔
    snapshot.BatchesNameRows := by
  refine ⟨fun h => batchesNameRows_of_partition hunits h.1 h.2.1, fun hrows => ?_⟩
  have hfibres := groupVoteUnits_fibres hrows hunits
  refine ⟨hfibres.rows_perm, hfibres.batches, fun ballot => ⟨classify_avoids hfibres,
    fun result hresult => ?_⟩⟩
  obtain ⟨planned, c⟩ := classify_classified hfibres (groupVoteUnits_groups hunits) hresult
  have hordered : ∀ obligation ∈ result.obligations, obligation.Ordered := by
    intro obligation hmem
    cases obligation with
    | reconcileChain => exact c.ordered _ _ _ _ _ _ hmem
    | _ => trivial
  exact ⟨project_avoids hordered, fun steps hsteps => recoveredVoteWork_avoids hordered hsteps _⟩

/-- A batch of two on the wire beside a vote of its own. -/
def batchedSnapshot : RoundSnapshot :=
  { coveredSnapshot with
    votes := AList.insert (0, 1) (seenVote (sharedRecovery 1) none)
      (AList.insert (0, 2) (seenVote (batchRecovery 2 0) none)
        (AList.insert (0, 3) (seenVote (batchRecovery 3 1) none) ∅)) }

def batchedUnits : List VoteUnit :=
  [singletonUnit 0 1 (seenVote (sharedRecovery 1) none),
    ⟨.batch 0 (Bytes32.fill 2), 0, [⟨2, some (batchRecovery 2 0)⟩, ⟨3, some (batchRecovery 3 1)⟩],
      .submitted, by simp⟩]

theorem units_partition_batched :
    (batchedUnits.flatMap (·.keys)).Perm [(0, 1), (0, 2), (0, 3)] ∧
      ∀ ballot, Avoids PlannerPanic (classify batchedSnapshot batchedUnits ballot) := by
  obtain ⟨hperm, -, hpanic⟩ := (units_partition_without_panic samplePrimitives batchedSnapshot
    batchedSnapshot.intents batchedUnits (by decide +kernel)).mpr (by decide +kernel)
  exact ⟨hperm, fun ballot => (hpanic ballot).1⟩

/-- The recovery stored under proposal 1 is a batch of one that names proposal 2. -/
def misnamedDb : Db :=
  { coveredDb with
    votes := AList.insert (sampleVoteKey 0 1) (seenRow { sharedRecovery 2 with
        batch := some ⟨none, Bytes32.fill 2, 0, 1⟩ } none)
      (AList.insert (sampleVoteKey 0 2) (seenRow (sharedRecovery 2) none) ∅) }

def misnamedSnapshot : RoundSnapshot :=
  { coveredSnapshot with
    votes := AList.insert (0, 2) (seenVote (sharedRecovery 2) none)
      (AList.insert (0, 1) (seenVote { sharedRecovery 2 with
        batch := some ⟨none, Bytes32.fill 2, 0, 1⟩ } none) ∅) }

def misnamedUnits : List VoteUnit :=
  [⟨.batch 0 (Bytes32.fill 2), 0, [⟨2, some (sharedRecovery 2)⟩], .submitted, by simp⟩]

/-- The units of that round are accepted, leave the first row out, and classification
panics on it. -/
theorem units_partition_misnamed :
    loadRoundSnapshot samplePrimitives sampleRoundKey misnamedDb = .ok misnamedSnapshot ∧
      groupVoteUnits samplePrimitives misnamedSnapshot misnamedSnapshot.intents =
        .ok misnamedUnits ∧
      ¬ (misnamedUnits.flatMap (·.keys)).Perm (misnamedSnapshot.votesInOrder.map (·.1)) ∧
      classifyRound samplePrimitives misnamedSnapshot [1, 2, 3] =
        .error (.internal "every vote row is in exactly one unit") := by
  refine ⟨rfl, by decide +kernel, ?_, by decide +kernel⟩
  intro hperm
  exact absurd hperm.length_eq (by decide +kernel)

end ZcashVoting
