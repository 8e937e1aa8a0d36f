import ZcashVoting.RoundPlanning.Classify

/-!
# ZcashVoting.RoundPlanning.Projection

From obligations to the plan a host consumes: the ordered steps, the grouped recovery
work and the derived flags.  Nothing here decides what work exists.

The panics of the source are errors here, as in classification: the texts of its
`unreachable!` sites, and of the index panic on an empty list of proposals.
-/

namespace ZcashVoting

open Transaction

/-! ## The plan -/

/-- `NextStep`. -/
inductive NextStep where
  | delegate (bundleIndex : Nat)
  | advanceDelegation (bundleIndex : Nat)
  | advanceImportedDelegation (bundleIndex : Nat)
  | castVote (bundleIndex proposalId choice : Nat)
  | advanceVote (bundleIndex proposalId : Nat)
  | advanceVoteBatch (bundleIndex proposalId : Nat)
  | submitShares (bundleIndex proposalId shareIndex : Nat)
  | confirmShare (bundleIndex proposalId shareIndex : Nat)
  deriving DecidableEq

/-- `RoundPlanAction`. -/
inductive RoundPlanAction where
  | idle
  | delegate
  | vote
  | submitShares
  | done
  deriving DecidableEq

/-- `DelegationRecoveryWorkKind`. -/
inductive DelegationRecoveryWorkKind where
  | delegate
  | advanceDelegation
  | advanceImportedDelegation
  deriving DecidableEq

/-- `DelegationRecoveryWork`. -/
structure DelegationRecoveryWork where
  kind : DelegationRecoveryWorkKind
  bundleIndex : Nat
  phase : DelegationPhase
  txHash : Option String
  deriving DecidableEq

/-- `DelegationStatus`. -/
structure DelegationStatus where
  bundleIndex : Nat
  phase : DelegationPhase
  txHash : Option String
  submissionDiagnostic : Option ChainSubmissionDiagnostic
  terminal : Bool
  deriving DecidableEq

/-- `VoteRecoveryWorkKind`. -/
inductive VoteRecoveryWorkKind where
  | advanceVote
  | advanceVoteBatch
  | submitShares
  deriving DecidableEq

/-- `VoteRecoveryWork`: keyed by one singleton action or batch anchor. -/
structure VoteRecoveryWork where
  kind : VoteRecoveryWorkKind
  bundleIndex : Nat
  proposalId : Nat
  txHash : Option String
  vcTreePosition : Option Nat
  shareIndexes : List Nat
  deriving DecidableEq

/-- `CompletedVoteChoice`. -/
structure CompletedVoteChoice where
  proposalId : Nat
  choice : Option Nat
  deriving DecidableEq

/-- `CompletedVoteDisplay`. -/
structure CompletedVoteDisplay where
  choices : List CompletedVoteChoice
  votedAt : Option Nat
  deriving DecidableEq

/-- `PlanWorkSummary`. -/
structure PlanWorkSummary where
  needsDelegationSigning : Bool
  hasInFlightDelegation : Bool
  delegationBundlesNeedingWork : List Nat
  delegationBundlesNeedingSigning : List Nat
  needsVotePolling : Bool
  hasRemainingVoteOrShareWork : Bool
  hasRecoverableVoteOrShareWork : Bool
  deriving DecidableEq

/-- `RoundPlan`. -/
structure RoundPlan where
  roundId : VoteRoundId
  pendingRecovery : Bool
  nextSteps : List NextStep
  openProposals : List Nat
  unrosteredIntents : List Nat
  immediateShareKey : Option ImmediateShareKey
  immediateShareConfirmed : Bool
  allDecided : Bool
  delegationStatuses : List DelegationStatus
  blockingRecovery : Bool
  blockingShareWork : Bool
  hasUnconfirmedShares : Bool
  hotkeyBound : Bool
  completedVoteArtifact : Bool
  completedForDisplay : Bool
  completedVoteDisplay : Option CompletedVoteDisplay
  needsDraftSetup : Bool
  needsBundleSetup : Bool
  primaryAction : RoundPlanAction
  workSummary : PlanWorkSummary
  recoveredDelegationWork : List DelegationRecoveryWork
  recoveredVoteWork : List VoteRecoveryWork
  deriving DecidableEq

/-! ## Steps -/

/-- The first of the ordered proposals; the source indexes the list. -/
def firstOrdered : List Nat → Except VotingError Nat
  | [] => .error (.internal "index out of bounds: the len is 0 but the index is 0")
  | proposalId :: _ => .ok proposalId

/-- The steps of one obligation.  Retired and blocked work is reported through the
plan's flags. -/
def stepsOf : Obligation → Except VotingError (List NextStep)
  | .delegate bundleIndex => .ok [.delegate bundleIndex]
  | .advanceDelegation bundleIndex true _ _ => .ok [.advanceImportedDelegation bundleIndex]
  | .advanceDelegation bundleIndex false _ _ => .ok [.advanceDelegation bundleIndex]
  | .cast bundleIndex drafts _ _ =>
    .ok (drafts.map fun draft => .castVote bundleIndex draft.proposalId draft.choice)
  | .reconcileChain (.singleton _ proposalId) bundleIndex _ _ _ _ =>
    .ok [.advanceVote bundleIndex proposalId]
  | .reconcileChain (.batch _ _) bundleIndex orderedProposalIds _ _ _ => do
    let proposalId ← firstOrdered orderedProposalIds
    return [.advanceVoteBatch bundleIndex proposalId]
  | .deliver bundleIndex proposalId _ shareIndexes _ =>
    .ok (shareIndexes.map fun shareIndex => .submitShares bundleIndex proposalId shareIndex)
  | .confirm bundleIndex proposalId shareIndex _ _ _ =>
    .ok [.confirmShare bundleIndex proposalId shareIndex]
  | .retire _ _ | .blocked _ _ => .ok []

/-- `steps_from_obligations`. -/
def stepsFromObligations (obligations : List Obligation) : Except VotingError (List NextStep) := do
  let steps ← obligations.mapM stepsOf
  return steps.flatten

/-- A step of the plan is a step of one of its obligations. -/
theorem exists_obligation_of_step {obligations : List Obligation} {steps : List NextStep}
    (h : stepsFromObligations obligations = .ok steps) {step : NextStep} (hstep : step ∈ steps) :
    ∃ obligation ∈ obligations, ∃ own, stepsOf obligation = .ok own ∧ step ∈ own := by
  simp only [stepsFromObligations, except_bind_eq_ok, except_pure_eq_ok] at h
  obtain ⟨lists, hlists, rfl⟩ := h
  obtain ⟨own, hown, hstep⟩ := List.mem_flatten.mp hstep
  obtain ⟨obligation, hobligation, hsteps⟩ := except_mapM_mem hlists hown
  exact ⟨obligation, hobligation, own, hsteps, hstep⟩

/-- The condition of `resolve_step`: the step executes the obligation. -/
def Obligation.resolves : Obligation → NextStep → Except VotingError Bool
  | .delegate bundleIndex, .delegate b => .ok (bundleIndex = b)
  | .advanceDelegation bundleIndex false _ _, .advanceDelegation b => .ok (bundleIndex = b)
  | .advanceDelegation bundleIndex true _ _, .advanceImportedDelegation b => .ok (bundleIndex = b)
  | .cast bundleIndex drafts _ _, .castVote b proposalId choice =>
    .ok (bundleIndex = b && drafts.any fun draft =>
      draft.proposalId = proposalId && draft.choice = choice)
  | .reconcileChain (.singleton _ _) bundleIndex orderedProposalIds _ _ _, .advanceVote b proposalId
  | .reconcileChain (.batch _ _) bundleIndex orderedProposalIds _ _ _,
      .advanceVoteBatch b proposalId =>
    if bundleIndex = b then (firstOrdered orderedProposalIds).map (· = proposalId) else .ok false
  | .deliver bundleIndex proposalId _ shareIndexes _, .submitShares b p shareIndex =>
    .ok (bundleIndex = b && proposalId = p && shareIndexes.contains shareIndex)
  | .confirm bundleIndex proposalId shareIndex _ _ _, .confirmShare b p s =>
    .ok (bundleIndex = b && proposalId = p && shareIndex = s)
  | _, _ => .ok false

/-- `resolve_step`: the obligation a step executes. -/
def resolveStep : List Obligation → NextStep → Except VotingError (Option Obligation)
  | [], _ => .ok none
  | obligation :: obligations, step => do
    if ← obligation.resolves step then return some obligation
    resolveStep obligations step

/-- `step_rank`: delegation first, then vote work proposal by proposal. -/
def stepRank : NextStep → Nat × Nat × Nat × Nat
  | .delegate bundleIndex => (0, 0, bundleIndex, 0)
  | .advanceDelegation bundleIndex | .advanceImportedDelegation bundleIndex => (0, 0, bundleIndex, 0)
  | .castVote bundleIndex proposalId _ => (1, proposalId, bundleIndex, 0)
  | .advanceVote bundleIndex proposalId | .advanceVoteBatch bundleIndex proposalId =>
    (1, proposalId, bundleIndex, 0)
  | .submitShares bundleIndex proposalId shareIndex => (1, proposalId, bundleIndex, shareIndex)
  | .confirmShare bundleIndex proposalId shareIndex => (2, proposalId, bundleIndex, shareIndex)

/-- Ranks compare field by field. -/
def rankPrecedes : Nat × Nat × Nat × Nat → Nat × Nat × Nat × Nat → Bool
  | (a, b, c, d), (a', b', c', d') =>
    a < a' || (a = a' && (b < b' || (b = b' && (c < c' || (c = c' && d ≤ d')))))

/-- The steps in the order of their ranks; equal ranks keep their order. -/
def sortSteps (steps : List NextStep) : List NextStep :=
  steps.insertionSort fun a b => rankPrecedes (stepRank a) (stepRank b) = true

/-- A set of bundles in ascending order. -/
def sortedBundles (bundles : List Nat) : List Nat := bundles.dedup.insertionSort (· ≤ ·)

def NextStep.isDelegation : NextStep → Bool
  | .delegate _ | .advanceDelegation _ | .advanceImportedDelegation _ => true
  | _ => false

/-- Casting, advancing a chain submission or submitting shares. -/
def NextStep.isVoteWork : NextStep → Bool
  | .castVote _ _ _ | .advanceVote _ _ | .advanceVoteBatch _ _ | .submitShares _ _ _ => true
  | _ => false

def NextStep.isConfirmShare : NextStep → Bool
  | .confirmShare _ _ _ => true
  | _ => false

/-- `select_primary_action`. -/
def selectPrimaryAction (steps : List NextStep)
    (blockingRecovery blockingShareWork completedForDisplay : Bool) : RoundPlanAction :=
  if completedForDisplay then .done
  else if !blockingRecovery then .idle
  else if steps.any (·.isDelegation) then .delegate
  else if steps.any (·.isVoteWork) then .vote
  else if blockingShareWork then .submitShares
  else .idle

/-- `summarize_plan_work`. -/
def summarizePlanWork (steps : List NextStep) (blockingShareWork : Bool) : PlanWorkSummary where
  needsDelegationSigning := steps.any fun
    | .advanceDelegation _ => true
    | _ => false
  hasInFlightDelegation := steps.any fun
    | .advanceDelegation _ | .advanceImportedDelegation _ => true
    | _ => false
  delegationBundlesNeedingWork := sortedBundles (steps.filterMap fun
    | .delegate bundleIndex | .advanceDelegation bundleIndex
    | .advanceImportedDelegation bundleIndex => some bundleIndex
    | _ => none)
  delegationBundlesNeedingSigning := sortedBundles (steps.filterMap fun
    | .advanceDelegation bundleIndex => some bundleIndex
    | _ => none)
  needsVotePolling := steps.any (·.isVoteWork)
  hasRemainingVoteOrShareWork :=
    steps.any (·.isVoteWork) || (blockingShareWork && steps.any (·.isConfirmShare))
  hasRecoverableVoteOrShareWork := steps.any (·.isVoteWork) || steps.any (·.isConfirmShare)

/-- The casts that sign their bundle's delegation add its bundle to the work summary. -/
def PlanWorkSummary.withSigningCasts (summary : PlanWorkSummary) (obligations : List Obligation)
    (steps : List NextStep) : PlanWorkSummary :=
  let signingCasts := obligations.filterMap fun
    | .cast bundleIndex _ _ true => some bundleIndex
    | _ => none
  let signing := steps.filterMap fun
    | .castVote bundleIndex _ _ => if bundleIndex ∈ signingCasts then some bundleIndex else none
    | _ => none
  let needingSigning := sortedBundles (summary.delegationBundlesNeedingSigning ++ signing)
  { summary with
    delegationBundlesNeedingWork := sortedBundles (summary.delegationBundlesNeedingWork ++ signing)
    delegationBundlesNeedingSigning := needingSigning
    needsDelegationSigning := !needingSigning.isEmpty }

/-- `is_terminal_delegation_phase`. -/
def isTerminalDelegationPhase : DelegationPhase → Bool
  | .submittedWithoutHash | .submissionRejected => true
  | .prepared | .pcztBuilt | .proved | .submitted | .submissionManaged | .confirmed => false

section

variable (snapshot : RoundSnapshot)

/-- `completed_vote_display`: a proposal shows the one choice all its votes carry. -/
def completedVoteDisplay (proposalIds : List Nat) (staleVoteKeys : List (Nat × Nat))
    (votedAt : Option Nat) : CompletedVoteDisplay where
  choices := proposalIds.map fun proposalId =>
    let proposalChoices := (snapshot.votesInOrder.filterMap fun (key, vote) =>
      if key.2 = proposalId ∧ key ∉ staleVoteKeys then some vote.choice else none).dedup
    ⟨proposalId, match snapshot.intents.lookup proposalId, proposalChoices with
      | some (.choice _), [choice] => some choice
      | _, _ => none⟩
  votedAt

/-! ## Recovery work -/

/-- The phase and hash an advance obligation carries. -/
def advancedDelegation (obligations : List Obligation) (step : NextStep) :
    Except VotingError (Option (DelegationPhase × Option String)) :=
  (resolveStep obligations step).map fun
    | some (.advanceDelegation _ _ phase txHash) => some (phase, txHash)
    | _ => none

/-- `missing_recovery_field`. -/
def requireRecoveryField {α : Type} (message : String) : Option α → Except VotingError α
  | some value => .ok value
  | none => .error (.internal message)

/-- The delegation work of one step. -/
def delegationWorkOf (obligations : List Obligation) (step : NextStep) :
    Except VotingError (List DelegationRecoveryWork) :=
  let round := hex snapshot.roundId.val.val
  match step with
  | .delegate bundleIndex => do
    let phase ← requireRecoveryField
      s!"delegate step missing phase for round={round}, bundle={bundleIndex}"
      (snapshot.delegationPhases.lookup bundleIndex)
    return [⟨.delegate, bundleIndex, phase, none⟩]
  | .advanceDelegation bundleIndex => do
    let advanced ← advancedDelegation obligations step
    let (phase, txHash) ← requireRecoveryField
      s!"poll delegation step missing phase for round={round}, bundle={bundleIndex}" advanced
    return [⟨.advanceDelegation, bundleIndex, phase, txHash⟩]
  | .advanceImportedDelegation bundleIndex => do
    let advanced ← advancedDelegation obligations step
    let (phase, txHash) ← requireRecoveryField
      s!"imported delegation step missing phase for round={round}, bundle={bundleIndex}" advanced
    return [⟨.advanceImportedDelegation, bundleIndex, phase, txHash⟩]
  | .castVote _ _ _ | .advanceVote _ _ | .advanceVoteBatch _ _ | .submitShares _ _ _
  | .confirmShare _ _ _ => .ok []

/-- `recovered_delegation_work_from_steps`. -/
def recoveredDelegationWorkFromSteps (obligations : List Obligation) (steps : List NextStep) :
    Except VotingError (List DelegationRecoveryWork) := do
  let work ← steps.mapM (delegationWorkOf snapshot obligations)
  return work.flatten

/-- `push_submit_share_work`: the shares of one vote are one piece of work. -/
def pushSubmitShareWork (work : List VoteRecoveryWork)
    (bundleIndex proposalId shareIndex vcTreePosition : Nat) : List VoteRecoveryWork :=
  match work with
  | [] => [⟨.submitShares, bundleIndex, proposalId, none, some vcTreePosition, [shareIndex]⟩]
  | item :: items =>
    if item.kind = .submitShares ∧ item.bundleIndex = bundleIndex ∧ item.proposalId = proposalId then
      { item with shareIndexes :=
          (item.shareIndexes ++ [shareIndex]).dedup.insertionSort (· ≤ ·) } :: items
    else item :: pushSubmitShareWork items bundleIndex proposalId shareIndex vcTreePosition

/-- `pending_vote_confirmation_keys`: the members of units whose chain work is pending. -/
def pendingVoteConfirmationKeys (obligations : List Obligation) : List (Nat × Nat) :=
  obligations.flatMap fun
    | .reconcileChain _ bundleIndex orderedProposalIds _ _ _ =>
      orderedProposalIds.map fun proposalId => (bundleIndex, proposalId)
    | _ => []

/-- The chain work an advance step resolves to. -/
def advanceWork (bundleIndex proposalId : Nat) : Option Obligation →
    Except VotingError VoteRecoveryWork
  | none =>
    let round := hex snapshot.roundId.val.val
    .error (.internal
      s!"advance vote batch step missing active batch for round={round}, bundle={bundleIndex}, proposal={proposalId}")
  | some (.reconcileChain unit _ _ _ txHash _) =>
    let kind := match unit with
      | .singleton _ _ => .advanceVote
      | .batch _ _ => .advanceVoteBatch
    .ok ⟨kind, bundleIndex, proposalId, txHash, none, []⟩
  | some _ => .error (.internal "resolve_step pairs an advance step with its reconcile obligation")

/-- The position a share step resolves to. -/
def deliveredPosition : Option Obligation → Except VotingError Nat
  | some (.deliver _ _ vcTreePosition _ _) => .ok vcTreePosition
  | _ => .error (.internal "a SubmitShares step is projected from a Deliver obligation")

/-- One step of the loop of `recovered_vote_work_from_steps`. -/
def voteWorkOf (blockingConfirmShareKeys : List (Nat × Nat × Nat)) (obligations : List Obligation)
    (work : List VoteRecoveryWork) (step : NextStep) : Except VotingError (List VoteRecoveryWork) :=
  let round := hex snapshot.roundId.val.val
  match step with
  | .advanceVote bundleIndex proposalId | .advanceVoteBatch bundleIndex proposalId => do
    let reconcile ← resolveStep obligations step
    let advance ← advanceWork snapshot bundleIndex proposalId reconcile
    return work ++ [advance]
  | .submitShares bundleIndex proposalId shareIndex => do
    let deliver ← resolveStep obligations step
    let vcTreePosition ← deliveredPosition deliver
    return pushSubmitShareWork work bundleIndex proposalId shareIndex vcTreePosition
  | .confirmShare bundleIndex proposalId shareIndex =>
    if (bundleIndex, proposalId, shareIndex) ∈ blockingConfirmShareKeys ∧
        (bundleIndex, proposalId) ∉ pendingVoteConfirmationKeys obligations then do
      let position ← snapshot.confirmedTreePosition bundleIndex proposalId
      let vcTreePosition ← requireRecoveryField
        s!"submit shares step missing vc_tree_position for round={round}, bundle={bundleIndex}, proposal={proposalId}"
        position
      return pushSubmitShareWork work bundleIndex proposalId shareIndex vcTreePosition
    else .ok work
  | .delegate _ | .advanceDelegation _ | .advanceImportedDelegation _ | .castVote _ _ _ => .ok work

/-- `recovered_vote_work_from_steps`. -/
def recoveredVoteWorkFromSteps (blockingConfirmShareKeys : List (Nat × Nat × Nat))
    (obligations : List Obligation) (steps : List NextStep) :
    Except VotingError (List VoteRecoveryWork) :=
  steps.foldlM (voteWorkOf snapshot blockingConfirmShareKeys obligations) []

/-! ## Projection -/

/-- Some delegation or vote is in the phase its kind calls by this name. -/
def inPhase (delegationPhase : DelegationPhase) (votePhase : VotePhase) : Bool :=
  (snapshot.delegationPhases.any fun _ phase => phase = delegationPhase) ||
    snapshot.votes.any fun _ vote => vote.phase = votePhase

/-- `blocking_confirm_share_keys`: shares that no helper has accepted or may hold. -/
def blockingConfirmShareKeys (obligations : List Obligation) : List (Nat × Nat × Nat) :=
  obligations.filterMap fun
    | .confirm bundleIndex proposalId shareIndex false false _ =>
      some (bundleIndex, proposalId, shareIndex)
    | _ => none

/-- `all_decided`: every proposal is skipped or confirmed as chosen on every bundle. -/
def allDecided (proposalIds : List Nat) : Bool :=
  let bundles := (snapshot.delegationPhases.ascending (· ≤ ·)).map (·.1)
  proposalIds.all fun proposalId =>
    match snapshot.intents.lookup proposalId with
    | some .skipped => true
    | some (.choice choice) => !bundles.isEmpty && bundles.all fun bundleIndex =>
        (snapshot.votes.lookup (bundleIndex, proposalId)).any fun vote =>
          vote.choice = choice && vote.phase = .confirmed
    | none => false

/-- `completed_vote_artifact`. -/
def completedVoteArtifact (staleVoteKeys : List (Nat × Nat)) : Bool :=
  (snapshot.votesInOrder.any fun (key, vote) =>
    key ∉ staleVoteKeys && snapshot.intents.lookup key.2 = some (.choice vote.choice)) ||
  snapshot.sharePhases.any fun (bundleIndex, proposalId, _, _) =>
    (bundleIndex, proposalId) ∉ staleVoteKeys &&
      match snapshot.intents.lookup proposalId with
      | some (.choice _) => true
      | _ => false

/-- The status of one bundle's delegation. -/
def delegationStatus (status : DelegationSubmissionStatus) : DelegationStatus where
  bundleIndex := status.bundleIndex
  phase := status.phase
  txHash := snapshot.delegationTxHash status.bundleIndex
  submissionDiagnostic :=
    status.diagnostic.or (snapshot.rejectionBlockedBundles.lookup status.bundleIndex)
  terminal := isTerminalDelegationPhase status.phase

/-- `blocking_recovery`: the foreground stays open. -/
def blocksRecovery (obligations : List Obligation) (steps : List NextStep) : Bool :=
  inPhase snapshot .submissionManaged .submissionManaged ||
    inPhase snapshot .submittedWithoutHash .submittedWithoutHash ||
    inPhase snapshot .submissionRejected .submissionRejected ||
    !snapshot.rejectionBlockedBundles.rows.isEmpty ||
    steps.any fun
      | .confirmShare bundleIndex proposalId shareIndex =>
        (bundleIndex, proposalId, shareIndex) ∈ blockingConfirmShareKeys obligations
      | _ => true

/-- `immediate_share_key`: the durable designation, else the one the choices derive. -/
def immediateShareKey (choiceProposals : List Nat) : Option ImmediateShareKey :=
  snapshot.persistedImmediateShare.or (roundImmediateShareKey
    ((snapshot.delegationPhases.ascending (· ≤ ·)).map (·.1)).max? choiceProposals)

/-- `project`. -/
def project (proposalIds : List Nat) (obligations : RoundObligations) :
    Except VotingError RoundPlan := do
  let steps ← stepsFromObligations obligations.obligations
  let steps := sortSteps steps
  let blockingKeys := blockingConfirmShareKeys obligations.obligations
  let blockingShareWork := !blockingKeys.isEmpty
  let blockingRecovery := blocksRecovery snapshot obligations.obligations steps
  let allDecided := allDecided snapshot proposalIds
  let completedVoteArtifact := completedVoteArtifact snapshot obligations.staleVoteKeys
  let completedForDisplay := completedVoteArtifact && !blockingRecovery
  let votedAt := ((snapshot.shares.map (·.createdAt)).filter (0 < ·)).max?
  let recoveredDelegationWork ←
    recoveredDelegationWorkFromSteps snapshot obligations.obligations steps
  let recoveredVoteWork ←
    recoveredVoteWorkFromSteps snapshot blockingKeys obligations.obligations steps
  let immediateShareKey := immediateShareKey snapshot obligations.choiceProposals
  return {
    roundId := snapshot.roundId
    pendingRecovery := inPhase snapshot .submissionManaged .submissionManaged || !steps.isEmpty
    nextSteps := steps
    openProposals := obligations.openProposals
    unrosteredIntents := obligations.unrosteredIntents
    immediateShareKey
    immediateShareConfirmed := immediateShareKey.any fun key => snapshot.shares.any fun share =>
      share.bundleIndex = key.bundleIndex && share.proposalId = key.proposalId &&
        share.shareIndex = key.shareIndex && share.confirmed
    allDecided
    delegationStatuses := snapshot.delegations.map (delegationStatus snapshot)
    blockingRecovery
    blockingShareWork
    hasUnconfirmedShares := snapshot.shares.any (!·.confirmed)
    hotkeyBound := (snapshot.delegationPhases.any fun _ phase => phase ≠ .prepared) ||
      !snapshot.votes.rows.isEmpty || !snapshot.sharePhases.isEmpty
    completedVoteArtifact
    completedForDisplay
    completedVoteDisplay :=
      if completedForDisplay then
        some (completedVoteDisplay snapshot proposalIds obligations.staleVoteKeys votedAt)
      else none
    needsDraftSetup := !blockingRecovery && !allDecided && !obligations.openProposals.isEmpty
    needsBundleSetup := obligations.needsBundleSetup
    primaryAction :=
      if obligations.needsBundleSetup then .delegate
      else selectPrimaryAction steps blockingRecovery blockingShareWork completedForDisplay
    workSummary :=
      (summarizePlanWork steps blockingShareWork).withSigningCasts obligations.obligations steps
    recoveredDelegationWork
    recoveredVoteWork }

end

/-- `ClassifiedPlan`: a plan together with the obligations it was projected from. -/
structure ClassifiedPlan where
  plan : RoundPlan
  obligations : RoundObligations

/-- `plan_round_classified`: from one snapshot of the durable state. -/
def planRoundClassified (P : Primitives) (round : RoundKey) (proposalIds : List Nat) (db : Db) :
    Except VotingError ClassifiedPlan := do
  let snapshot ← loadRoundSnapshot P round db
  let obligations ← classifyRound P snapshot proposalIds
  let plan ← project snapshot proposalIds obligations
  return ⟨plan, obligations⟩

/-- `plan_round`. -/
def planRound (P : Primitives) (round : RoundKey) (proposalIds : List Nat) (db : Db) :
    Except VotingError RoundPlan := do
  let classified ← planRoundClassified P round proposalIds db
  return classified.plan

end ZcashVoting
