import ZcashVoting.RoundPlanning.VoteUnits

/-!
# ZcashVoting.RoundPlanning.Classify

The rule table of the planner: from a snapshot, its vote units and the ballot to the
obligations the round still owes.  Classification has no clock and no network.
-/

namespace ZcashVoting

open Transaction

/-- `ATOMIC_VOTE_BATCHES_ENABLED`. -/
def atomicVoteBatchesEnabled : Bool := true

/-! ## Obligations -/

/-- `CastDraft`. -/
structure CastDraft where
  proposalId : Nat
  choice : Nat
  deriving DecidableEq

/-- `BlockedReason`: why a fresh cast is withheld. -/
inductive BlockedReason where
  | openBallot (proposals : List Nat)
  | unrosteredIntents (proposals : List Nat)
  deriving DecidableEq

/-- `Obligation`: one unit of work the round still owes. -/
inductive Obligation where
  | delegate (bundleIndex : Nat)
  | advanceDelegation (bundleIndex : Nat) (imported : Bool) (phase : DelegationPhase)
      (txHash : Option String)
  | retire (unit : VoteUnitId) (members : List Nat)
  | cast (bundleIndex : Nat) (drafts : List CastDraft) (prerequisite : Option Nat)
      (signsDelegation : Bool)
  | blocked (bundleIndex : Nat) (reason : BlockedReason)
  | reconcileChain (unit : VoteUnitId) (bundleIndex : Nat) (orderedProposalIds : List Nat)
      (undispatched : Bool) (txHash : Option String) (prerequisite : Option Nat)
  | deliver (bundleIndex proposalId vcTreePosition : Nat) (shareIndexes : List Nat)
      (prerequisite : Option Nat)
  | confirm (bundleIndex proposalId shareIndex : Nat) (accepted outcomeUnknown : Bool)
      (prerequisite : Option Nat)
  deriving DecidableEq

namespace Obligation

/-- `bundle_index`. -/
def bundleIndex : Obligation → Nat
  | .delegate bundleIndex => bundleIndex
  | .advanceDelegation bundleIndex _ _ _ => bundleIndex
  | .cast bundleIndex _ _ _ => bundleIndex
  | .blocked bundleIndex _ => bundleIndex
  | .reconcileChain _ bundleIndex _ _ _ _ => bundleIndex
  | .deliver bundleIndex _ _ _ _ => bundleIndex
  | .confirm bundleIndex _ _ _ _ _ => bundleIndex
  | .retire unit _ => unit.bundleIndex

/-- The last loop of `classify`: vote and share work waits for the delegation of its
bundle. -/
def withPrerequisite (delegationBundles : List Nat) (obligation : Obligation) : Obligation :=
  let blockedBy :=
    if obligation.bundleIndex ∈ delegationBundles then some obligation.bundleIndex else none
  match obligation with
  | .cast bundleIndex drafts _ signsDelegation => .cast bundleIndex drafts blockedBy signsDelegation
  | .reconcileChain unit bundleIndex orderedProposalIds undispatched txHash _ =>
    .reconcileChain unit bundleIndex orderedProposalIds undispatched txHash blockedBy
  | .deliver bundleIndex proposalId vcTreePosition shareIndexes _ =>
    .deliver bundleIndex proposalId vcTreePosition shareIndexes blockedBy
  | .confirm bundleIndex proposalId shareIndex accepted outcomeUnknown _ =>
    .confirm bundleIndex proposalId shareIndex accepted outcomeUnknown blockedBy
  | .delegate _ | .advanceDelegation _ _ _ _ | .retire _ _ | .blocked _ _ => obligation

end Obligation

/-- `RoundObligations`: the obligations with the ballot facts the plan reports beside
them.  Sets are listed in ascending order. -/
structure RoundObligations where
  obligations : List Obligation
  choiceProposals : List Nat
  openProposals : List Nat
  unrosteredIntents : List Nat
  staleVoteKeys : List (Nat × Nat)
  needsBundleSetup : Bool
  withheldCasts : List Nat
  lifecycleOwnedChoices : List Nat
  deriving DecidableEq

/-! ## Facts read off the snapshot -/

section

variable (snapshot : RoundSnapshot) (units : List VoteUnit) (ballot : BallotIntentClassification)

/-- The delegation phase of each bundle. -/
def RoundSnapshot.delegationPhases : Table Nat DelegationPhase :=
  snapshot.delegations.foldl (fun phases status => phases.insert status.bundleIndex status.phase) ∅

/-- Some vote for the proposal is owned by the chain lifecycle. -/
def proposalIsLifecycleOwned (proposalId : Nat) : Bool :=
  snapshot.votes.any fun key vote => key.2 = proposalId && vote.phase.isLifecycleOwned

/-- `unrostered_intents`: those the host can clear. -/
def clearableIntents : List Nat :=
  ballot.unrosteredIntents.filter fun proposalId => !proposalIsLifecycleOwned snapshot proposalId

/-- `lifecycle_owned_choices`. -/
def lifecycleOwnedChoices : List Nat :=
  ballot.unrosteredIntents.filter fun proposalId =>
    proposalIsLifecycleOwned snapshot proposalId &&
      match snapshot.intents.lookup proposalId with
      | some (.choice _) => true
      | _ => false

/-- `roster_is_terminal`: the durable intents exactly match the roster. -/
def rosterIsTerminal : Bool :=
  ballot.openProposals.isEmpty && (clearableIntents snapshot ballot).isEmpty

/-- `imported_round_waits_for_delegations`. -/
def importedRoundWaitsForDelegations : Bool :=
  (snapshot.bundles.any fun _ bundle => bundle.capabilityImported) &&
    snapshot.delegationPhases.any fun _ phase => phase ≠ .confirmed

/-- `stale_vote_keys`: the votes whose stored choice the ballot no longer agrees with. -/
def staleVoteKeys : List (Nat × Nat) :=
  (snapshot.votesInOrder.filter fun (key, vote) =>
    ballotRelation snapshot.intents key.2 vote.choice = .conflicts).map (·.1)

/-- An undispatched unit that a departed member retires whole. -/
def VoteUnit.retires (roster : List Nat) (unit : VoteUnit) : Bool :=
  LifecyclePosition.of (some unit.phase) = .undispatched &&
    rosterRelation unit.proposalIds roster = .leftRoster

/-- `retirable_vote_keys`. -/
def retirableVoteKeys (roster : List Nat) : List (Nat × Nat) :=
  (units.filter (·.retires roster)).flatMap fun unit =>
    unit.proposalIds.map fun proposalId => (unit.bundleIndex, proposalId)

/-- The retirements, in unit order. -/
def retirements (roster : List Nat) : List Obligation :=
  (units.filter (·.retires roster)).map fun unit => .retire unit.id unit.proposalIds

/-- The bundles that live votes hold. -/
def voteHeldBundles (roster : List Nat) : List Nat :=
  (snapshot.votesInOrder.filter fun (key, vote) =>
    key ∉ staleVoteKeys snapshot ∧ key ∉ retirableVoteKeys units roster ∧
      votePhaseHoldsBundle vote.phase).map (·.1.1)

/-- `held_bundles`: by a live vote, by the delegation, or by repeated rejections. -/
def heldBundles (roster : List Nat) : List Nat :=
  voteHeldBundles snapshot units roster ++
    (snapshot.delegationPhases.rows.filter fun (_, phase) =>
      delegationPhaseHoldsBundle phase).map (·.1) ++
    snapshot.rejectionBlockedBundles.rows.map (·.1)

/-- A conflicting intent for anything the chain may have seen is an error. -/
def ensureNoSubmittedVoteConflict : Except VotingError Unit :=
  match (staleVoteKeys snapshot).find? fun key =>
      (snapshot.votes.lookup key).any (·.phase.isLifecycleOwned) with
  | some (bundleIndex, proposalId) =>
    let round := hex snapshot.roundId.val.val
    .error (.invalidInput
      s!"round {round} bundle {bundleIndex} proposal {proposalId} has a submitted vote that conflicts with ballot intent")
  | none => .ok ()

/-- `missing_share_indexes`: the share indexes a confirmed vote's recovery expects that
have no helper-share row yet. -/
def missingShareIndexes (bundleIndex proposalId : Nat) : Except VotingError (List Nat) :=
  let round := hex snapshot.roundId.val.val
  match (snapshot.votes.lookup (bundleIndex, proposalId)).bind (·.recovery) with
  | none => .error (.invalidInput
      s!"confirmed vote for round {round} bundle {bundleIndex} proposal {proposalId} is missing recovery material for helper-share submission")
  | some recovery => do
    let payloads ← recoverPayloads recovery
    let expected := (payloads.map (·.encShare.shareIndex)).dedup.insertionSort (· ≤ ·)
    check (expected ≠ []) (.invalidInput
      s!"confirmed vote for round {round} bundle {bundleIndex} proposal {proposalId} has no recoverable helper shares")
    let recorded := snapshot.sharePhases.filterMap fun (bundle, proposal, shareIndex, _) =>
      if bundle = bundleIndex ∧ proposal = proposalId then some shareIndex else none
    return expected.filter (· ∉ recorded)

/-- `cast_signs_delegation`: a confirmed delegation needs no signature, and the holder of
an imported one has no key to sign with. -/
def castSignsDelegation (bundleIndex : Nat) : Bool :=
  !(snapshot.bundles.lookup bundleIndex).any (·.capabilityImported) &&
    (snapshot.delegationPhases.lookup bundleIndex).any (· ≠ .confirmed)

/-! ## The passes -/

/-- What the passes accumulate.  Sets are lists read by membership; the ones that are
iterated are put in order where they are. -/
structure ClassifyPass where
  obligations : List Obligation
  reconciledUnits : List VoteUnitId := []
  deliveredVotes : List (Nat × Nat) := []
  bundlesNeedingDelegation : List Nat := []
  drafts : Table Nat (List CastDraft) := ∅
  blocked : List Nat := []
  withheldCasts : List Nat := []
  delegationBundles : List Nat := []

/-- `unit_of`.  A vote outside every unit is a panic of the source, an error here. -/
def unitOf (bundleIndex proposalId : Nat) : Except VotingError VoteUnit :=
  match units.find? fun unit => unit.bundleIndex = bundleIndex && unit.contains proposalId with
  | some unit => .ok unit
  | none => .error (.internal "every vote row is in exactly one unit")

/-- The members of a submitted unit must all have recovery material. -/
def ensureSubmittedRecovery (unit : VoteUnit) : Except VotingError Unit :=
  match unit.members.find? (·.recovery.isNone) with
  | some member =>
    let round := hex snapshot.roundId.val.val
    let bundleIndex := unit.bundleIndex
    let proposalId := member.proposalId
    check (unit.phase ≠ .submitted) (.invalidInput
      s!"round {round} bundle {bundleIndex} proposal {proposalId} has a submitted vote without recovery material")
  | none => .ok ()

/-- The chain work of one unit. -/
def reconcileObligation (unit : VoteUnit) : Obligation :=
  let txHash := match unit.orderedBatchDigest with
    | some digest => snapshot.voteBatchTxHash unit.bundleIndex digest unit.anchorProposalId
    | none => snapshot.voteTxHash unit.bundleIndex unit.anchorProposalId
  .reconcileChain unit.id unit.bundleIndex unit.proposalIds
    (LifecyclePosition.of (some unit.phase) = .undispatched) txHash none

/-- `reconcile`: one obligation a unit. -/
def reconcile (unit : VoteUnit) : Txn ClassifyPass VotingError Unit := do
  read fun _ => ensureSubmittedRecovery snapshot unit
  write fun pass => .ok (
    if unit.id ∈ pass.reconciledUnits then pass
    else { pass with
      reconciledUnits := unit.id :: pass.reconciledUnits
      obligations := pass.obligations ++ [reconcileObligation snapshot unit] })

/-- The share work a confirmed vote still owes. -/
def deliverObligations (bundleIndex proposalId : Nat) : Except VotingError (List Obligation) := do
  let round := hex snapshot.roundId.val.val
  match ← missingShareIndexes snapshot bundleIndex proposalId with
  | [] => return []
  | shareIndexes =>
    match ← snapshot.confirmedTreePosition bundleIndex proposalId with
    | some vcTreePosition =>
      return [.deliver bundleIndex proposalId vcTreePosition shareIndexes none]
    | none => throw (.internal
        s!"submit shares step missing vc_tree_position for round={round}, bundle={bundleIndex}, proposal={proposalId}")

/-- `deliver`: once a vote. -/
def deliver (bundleIndex proposalId : Nat) : Txn ClassifyPass VotingError Unit :=
  write fun pass =>
    if (bundleIndex, proposalId) ∈ pass.deliveredVotes then .ok pass
    else do
      let owed ← deliverObligations snapshot bundleIndex proposalId
      return { pass with
        deliveredVotes := (bundleIndex, proposalId) :: pass.deliveredVotes
        obligations := pass.obligations ++ owed }

/-- The ballot's choice is not what the bundle holds. -/
def castDue (proposalId intentChoice bundleIndex : Nat) : Bool :=
  match snapshot.votes.lookup (bundleIndex, proposalId) with
  | none => true
  | some vote =>
    (bundleIndex, proposalId) ∈ staleVoteKeys snapshot ||
      vote.choice ≠ intentChoice ||
      (bundleIndex, proposalId) ∈ retirableVoteKeys units ballot.roster ||
      LifecyclePosition.of (some vote.phase) = .uncast

/-- A proposal whose cast this pass cannot plan. -/
def withhold (proposalId : Nat) : Txn ClassifyPass VotingError Unit :=
  write fun pass => .ok { pass with withheldCasts := proposalId :: pass.withheldCasts }

/-- A due cast: withheld while the bundle is held or the round waits, drafted once the
roster is terminal, blocked until then. -/
def planCast (proposalId intentChoice bundleIndex : Nat) : Txn ClassifyPass VotingError Unit :=
  if bundleIndex ∈ heldBundles snapshot units ballot.roster then withhold proposalId
  else do
    write fun pass => .ok { pass with
      bundlesNeedingDelegation := bundleIndex :: pass.bundlesNeedingDelegation }
    if importedRoundWaitsForDelegations snapshot then withhold proposalId
    else if rosterIsTerminal snapshot ballot then
      write fun pass => .ok { pass with
        drafts := pass.drafts.insert bundleIndex
          ((pass.drafts.lookup bundleIndex).getD [] ++ [⟨proposalId, intentChoice⟩]) }
    else do
      write fun pass => .ok { pass with blocked := bundleIndex :: pass.blocked }
      withhold proposalId

/-- The ballot agrees with every member of the unit. -/
def everyMemberAgrees (bundleIndex : Nat) (unit : VoteUnit) : Bool :=
  unit.proposalIds.all fun proposalId =>
    ballot.roster.contains proposalId &&
      (snapshot.votes.lookup (bundleIndex, proposalId)).any fun vote =>
        ballotRelation snapshot.intents proposalId vote.choice = .agrees

/-- A vote that agrees with the ballot, by its position.  A unit is dispatched whole, so
an undispatched batch waits until the ballot agrees with every member. -/
def planAgreeing (proposalId bundleIndex : Nat) (vote : VoteSnapshot) :
    Txn ClassifyPass VotingError Unit :=
  match LifecyclePosition.of (some vote.phase) with
  | .confirmed => deliver snapshot bundleIndex proposalId
  | .undispatched => do
    let unit ← read fun _ => unitOf units bundleIndex proposalId
    if everyMemberAgrees snapshot ballot bundleIndex unit then reconcile snapshot unit
    else withhold proposalId
  | .onWire => do
    let unit ← read fun _ => unitOf units bundleIndex proposalId
    reconcile snapshot unit
  | .terminal | .uncast => pure ()

/-- One proposal and bundle of the first pass. -/
def planVote (proposalId intentChoice bundleIndex : Nat) : Txn ClassifyPass VotingError Unit :=
  if castDue snapshot units ballot proposalId intentChoice bundleIndex then
    planCast snapshot units ballot proposalId intentChoice bundleIndex
  else match snapshot.votes.lookup (bundleIndex, proposalId) with
    | some vote => planAgreeing snapshot units ballot proposalId bundleIndex vote
    | none => abort (.internal "a due cast covers the missing row")

/-- The first pass: fresh casts and the work of votes that agree with the ballot. -/
def planProposal (proposalId : Nat) : Txn ClassifyPass VotingError Unit :=
  match snapshot.intents.lookup proposalId with
  | some (.choice intentChoice) =>
    ForM.forM (snapshot.delegationPhases.ascending (· ≤ ·)) fun entry =>
      planVote snapshot units ballot proposalId intentChoice entry.1
  | _ => pure ()

/-- The second pass: a vote on the wire is driven to resolution, and a confirmed one owes
its shares, whatever the ballot or the roster now say. -/
def advanceVote (entry : (Nat × Nat) × VoteSnapshot) : Txn ClassifyPass VotingError Unit :=
  let ((bundleIndex, proposalId), vote) := entry
  if (snapshot.intents.lookup proposalId).isSome && ballot.roster.contains proposalId then pure ()
  else match LifecyclePosition.of (some vote.phase) with
    | .onWire => do
      let unit ← read fun _ => unitOf units bundleIndex proposalId
      reconcile snapshot unit
    | .confirmed => deliver snapshot bundleIndex proposalId
    | .uncast | .undispatched | .terminal => pure ()

/-- The casts of one bundle: all drafts as one unit, or one each. -/
def castObligations (entry : Nat × List CastDraft) : List Obligation :=
  let (bundleIndex, drafts) := entry
  let signsDelegation := castSignsDelegation snapshot bundleIndex
  if atomicVoteBatchesEnabled then [.cast bundleIndex drafts none signsDelegation]
  else drafts.map fun draft => .cast bundleIndex [draft] none signsDelegation

/-- A bundle whose cast waits for the ballot. -/
def blockedObligation (bundleIndex : Nat) : Obligation :=
  .blocked bundleIndex (
    if ballot.openProposals.isEmpty then .unrosteredIntents (clearableIntents snapshot ballot)
    else .openBallot ballot.openProposals)

/-- Some vote of the bundle is a member of a combined batch. -/
def holdsCombinedBatch (bundleIndex : Nat) : Bool :=
  snapshot.votes.any fun key vote =>
    key.1 = bundleIndex && (vote.recovery.bind (·.delegationVan?)).isSome

/-- The delegation pass: resume a delegation in flight; otherwise only the prerequisite
of a bundle that still has a vote to cast. -/
def advanceDelegation (entry : Nat × DelegationPhase) : Txn ClassifyPass VotingError Unit :=
  let (bundleIndex, phase) := entry
  if holdsCombinedBatch snapshot bundleIndex then pure ()
  else match phase with
    | .confirmed | .proved | .submittedWithoutHash | .submissionRejected => pure ()
    | .submitted | .submissionManaged =>
      match snapshot.bundles.lookup bundleIndex with
      | none =>
        let round := hex snapshot.roundId.val.val
        abort (.invalidInput s!"bundle not found for round {round} index {bundleIndex}")
      | some bundle => write fun pass => .ok { pass with
          delegationBundles := bundleIndex :: pass.delegationBundles
          obligations := pass.obligations ++ [.advanceDelegation bundleIndex
            bundle.capabilityImported phase (snapshot.delegationTxHash bundleIndex)] }
    | .prepared | .pcztBuilt => write fun pass => .ok (
        if bundleIndex ∈ pass.bundlesNeedingDelegation then { pass with
          delegationBundles := bundleIndex :: pass.delegationBundles
          obligations := pass.obligations ++ [.delegate bundleIndex] }
        else pass)

/-- The confirmation of one helper share, if it is owed. -/
def confirmObligation (entry : Nat × Nat × Nat × SharePhase) : Option Obligation :=
  let (bundleIndex, proposalId, shareIndex, phase) := entry
  if (bundleIndex, proposalId) ∈ staleVoteKeys snapshot then none
  else match phase with
    | .confirmed => none
    | .submitted =>
      let row := snapshot.shares.find? fun share =>
        share.bundleIndex = bundleIndex && share.proposalId = proposalId &&
          share.shareIndex = shareIndex
      let accepted := row.all fun share => share.confirmed || !share.sentToUrls.isEmpty
      let outcomeUnknown := row.any fun share =>
        !share.ambiguousUrls.isEmpty || !share.attemptingUrls.isEmpty
      some (.confirm bundleIndex proposalId shareIndex accepted outcomeUnknown none)

/-- The vote passes of `classify`. -/
def planVotes : Txn ClassifyPass VotingError Unit := do
  ForM.forM ballot.choiceProposals (planProposal snapshot units ballot)
  ForM.forM snapshot.votesInOrder (advanceVote snapshot units ballot)

/-- The passes after the votes: casts, blocked bundles, delegations and confirmations. -/
def planBundles : Txn ClassifyPass VotingError Unit := do
  write fun pass => .ok { pass with
    obligations := pass.obligations ++
      (pass.drafts.ascending (· ≤ ·)).flatMap (castObligations snapshot) ++
      (pass.blocked.dedup.insertionSort (· ≤ ·)).map (blockedObligation snapshot ballot) }
  ForM.forM (snapshot.delegationPhases.ascending (· ≤ ·)) (advanceDelegation snapshot)
  write fun pass => .ok { pass with
    obligations := pass.obligations ++ snapshot.sharePhases.filterMap (confirmObligation snapshot) }

/-- `classify`. -/
def classify : Except VotingError RoundObligations := do
  ensureNoSubmittedVoteConflict snapshot
  let ((), planned) ← planVotes snapshot units ballot
    { obligations := retirements units ballot.roster }
  let ((), pass) ← planBundles snapshot ballot planned
  return {
    obligations := pass.obligations.map (·.withPrerequisite pass.delegationBundles)
    choiceProposals := ballot.choiceProposals
    openProposals := ballot.openProposals
    unrosteredIntents := clearableIntents snapshot ballot
    staleVoteKeys := staleVoteKeys snapshot
    needsBundleSetup := false
    withheldCasts := pass.withheldCasts.dedup.insertionSort (· ≤ ·)
    lifecycleOwnedChoices := lifecycleOwnedChoices snapshot ballot }

end

/-- `classify_round`: a recorded choice without bundle rows is reported as setup the host
still owes. -/
def classifyRound (P : Primitives) (snapshot : RoundSnapshot) (proposalIds : List Nat) :
    Except VotingError RoundObligations := do
  let ballot ← classifyBallotIntents proposalIds snapshot.intents
  if ballot.choiceProposals ≠ [] ∧ snapshot.delegations = [] then
    return {
      obligations := []
      choiceProposals := ballot.choiceProposals
      openProposals := ballot.openProposals
      unrosteredIntents := ballot.unrosteredIntents
      staleVoteKeys := []
      needsBundleSetup := true
      withheldCasts := ballot.choiceProposals
      lifecycleOwnedChoices := [] }
  let units ← groupVoteUnits P snapshot snapshot.intents
  classify snapshot units ballot

end ZcashVoting
