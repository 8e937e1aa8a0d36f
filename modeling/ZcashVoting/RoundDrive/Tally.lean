import ZcashVoting.RoundPlanning.Coverage

/-!
# ZcashVoting.RoundDrive.Tally

Selected-choice progress, derived from obligations.

A choice counts as completed when no vote obligation covers it and no cast of it is
withheld.  That is exact: the vote passes leave a mark for every bundle on which the vote
is neither confirmed nor terminal, and for no other (`TallyLedger`).  Batches are found by
what their recoveries name and not by their rows, so the marks are followed through the
names of the units.
-/

namespace ZcashVoting.RoundDrive

open Transaction

/-! ## The tally -/

/-- The proposals one obligation still owes vote work for. -/
def obligationProposals : Obligation → List Nat
  | .cast _ drafts _ _ => drafts.map (·.proposalId)
  | .reconcileChain _ _ orderedProposalIds _ _ _ => orderedProposalIds
  | .blocked _ _ | .delegate _ | .advanceDelegation _ _ _ _ | .retire _ _ | .deliver _ _ _ _ _
  | .confirm _ _ _ _ _ _ => []

/-- A set of proposals in ascending order. -/
def sortedProposals (proposals : List Nat) : List Nat := proposals.dedup.insertionSort (· ≤ ·)

/-- `covered_proposals`. -/
def coveredProposals (obligations : RoundObligations) : List Nat :=
  sortedProposals (obligations.obligations.flatMap obligationProposals)

/-- `VoteProgressBaseline`. -/
structure VoteProgressBaseline where
  proposals : List Nat
  deriving DecidableEq

namespace VoteProgressBaseline

/-- `for_selected_choices`. -/
def forSelectedChoices (obligations : RoundObligations) : VoteProgressBaseline :=
  ⟨sortedProposals (obligations.choiceProposals ++ obligations.lifecycleOwnedChoices)⟩

/-- The proposals `tally` counts as completed. -/
def completed (baseline : VoteProgressBaseline) (obligations : RoundObligations) : List Nat :=
  baseline.proposals.filter fun proposalId =>
    proposalId ∉ coveredProposals obligations ∧ proposalId ∉ obligations.withheldCasts

end VoteProgressBaseline

theorem mem_sortedProposals {proposalId : Nat} {proposals : List Nat} :
    proposalId ∈ sortedProposals proposals ↔ proposalId ∈ proposals := by
  simp [sortedProposals]

/-! ## What is owed -/

section

variable {snapshot : RoundSnapshot} {units : List VoteUnit} {ballot : BallotIntentClassification}

/-- The vote is on a bundle of the round and neither confirmed nor terminal. -/
def Owed (snapshot : RoundSnapshot) (key : Nat × Nat) : Prop :=
  (snapshot.delegationPhases.lookup key.1).isSome ∧ snapshot.position key ≠ .confirmed ∧
    snapshot.position key ≠ .terminal

/-- A vote whose cast is due is owed. -/
theorem owed_of_castDue (hgroups : ∀ unit ∈ units, unit.Groups snapshot)
    (hconflict : ensureNoSubmittedVoteConflict snapshot = .ok ())
    {proposalId intentChoice bundleIndex : Nat}
    (hbundle : (snapshot.delegationPhases.lookup bundleIndex).isSome)
    (hintent : snapshot.intents.lookup proposalId = some (.choice intentChoice))
    (hdue : castDue snapshot units ballot proposalId intentChoice bundleIndex = true) :
    Owed snapshot (bundleIndex, proposalId) := by
  suffices howned : (snapshot.position (bundleIndex, proposalId)).isLifecycleOwned = false by
    refine ⟨hbundle, fun hposition => ?_, fun hposition => ?_⟩ <;>
    · rw [hposition] at howned
      cases howned
  unfold RoundSnapshot.position
  cases hvote : snapshot.votes.lookup (bundleIndex, proposalId) with
  | none => rfl
  | some vote =>
    rw [Option.map_some, ← VotePhase.isLifecycleOwned_eq]
    exact not_owned_of_castDue hgroups hconflict hintent hvote hdue

/-- A vote of a unit with chain work is owed on a bundle of the round. -/
theorem owed_of_dispatchable (hgroups : ∀ unit ∈ units, unit.Groups snapshot)
    (hbundles : snapshot.VotesOnBundles) {unit : VoteUnit} (hunit : unit ∈ units)
    (hdispatchable : unit.Dispatchable snapshot ballot) {proposalId : Nat}
    (hmem : proposalId ∈ unit.proposalIds) : Owed snapshot (unit.bundleIndex, proposalId) := by
  obtain ⟨vote, hvote, -⟩ := hgroups unit hunit proposalId hmem
  have hkey : (unit.bundleIndex, proposalId) ∈ unit.keys := VoteUnit.mem_keys.mpr ⟨rfl, hmem⟩
  refine ⟨hbundles _ vote hvote, ?_⟩
  obtain hposition | hposition := position_of_dispatchable hgroups hunit hkey hdispatchable <;>
    simp [hposition]

end

/-! ## Units and their names -/

/-- The proposals of the unit with a given name. -/
def unitProposals (snapshot : RoundSnapshot) : VoteUnitId → List Nat
  | .singleton _ proposalId => [proposalId]
  | .batch bundleIndex digest =>
    (batchMembers digest (snapshot.bundleRecoveries bundleIndex)).map (·.proposalId)

theorem groupVoteUnits_proposalIds {P : Primitives} {snapshot : RoundSnapshot}
    {intents : Table Nat BallotIntent} {units : List VoteUnit}
    (h : groupVoteUnits P snapshot intents = .ok units) :
    ∀ unit ∈ units, unit.proposalIds = unitProposals snapshot unit.id := by
  intro unit hmem
  obtain ⟨entry, -, ⟨-, rfl⟩ | ⟨batch, before, after, -, hunit⟩⟩ := mem_groupVotes h hmem
  · rfl
  · rw [batchUnit_proposalIds hunit, (batchUnit_eq_ok hunit).1]
    rfl

/-! ## What the vote passes leave -/

section

variable (snapshot : RoundSnapshot) (units : List VoteUnit) (ballot : BallotIntentClassification)

/-- Every mark the vote passes leave for a proposal is for a vote that is owed, and a unit
that was reconciled has its chain work. -/
structure TallyLedger (pass : ClassifyPass) : Prop where
  reconciled : ∀ id ∈ pass.reconciledUnits, ∃ unit ∈ units,
    unit.id = id ∧ reconcileObligation snapshot unit ∈ pass.obligations
  chain : ∀ obligation ∈ pass.obligations, obligation.isChain = true →
    ∃ unit ∈ units, obligation = reconcileObligation snapshot unit ∧
      unit.Dispatchable snapshot ballot
  no_casts : ∀ obligation ∈ pass.obligations, obligation.isCast = false
  drafted : ∀ key, pass.Drafted key → Owed snapshot key
  withheld : ∀ proposalId ∈ pass.withheldCasts, ∃ bundleIndex,
    Owed snapshot (bundleIndex, proposalId)

/-- A pass keeps the ledger and only adds marks. -/
structure TallyAdvance (before after : ClassifyPass) : Prop where
  ledger : TallyLedger snapshot units ballot before → TallyLedger snapshot units ballot after
  reconciled : before.reconciledUnits ⊆ after.reconciledUnits
  withheld : before.withheldCasts ⊆ after.withheldCasts
  drafts : ∀ key, before.Drafted key → after.Drafted key

end

section

variable {snapshot : RoundSnapshot} {units : List VoteUnit} {ballot : BallotIntentClassification}

instance : Std.Refl (TallyAdvance snapshot units ballot) :=
  ⟨fun _ => ⟨id, fun _ h => h, fun _ h => h, fun _ h => h⟩⟩

instance : IsTrans ClassifyPass (TallyAdvance snapshot units ballot) where
  trans _ _ _ first second :=
    { ledger := second.ledger ∘ first.ledger
      reconciled := List.Subset.trans first.reconciled second.reconciled
      withheld := List.Subset.trans first.withheld second.withheld
      drafts := fun key h => second.drafts key (first.drafts key h) }

/-- A write to the sets the tally does not read. -/
theorem bookkeeping_tally {statement : ClassifyPass → ClassifyPass}
    (hsame : ∀ pass, (statement pass).obligations = pass.obligations ∧
      (statement pass).reconciledUnits = pass.reconciledUnits ∧
      (statement pass).withheldCasts = pass.withheldCasts ∧
      (statement pass).drafts = pass.drafts) :
    Within (TallyAdvance snapshot units ballot)
      (write fun pass => .ok (statement pass) : Txn ClassifyPass VotingError Unit) := by
  refine Within.write fun before after h => ?_
  cases h
  obtain ⟨hobligations, hreconciled, hwithheld, hdrafts⟩ := hsame before
  refine ⟨fun ledger => ⟨?_, ?_, ?_, ?_, ?_⟩, ?_, ?_, ?_⟩
  · simpa only [hobligations, hreconciled] using ledger.reconciled
  · simpa only [hobligations] using ledger.chain
  · simpa only [hobligations] using ledger.no_casts
  · simpa only [ClassifyPass.Drafted, hdrafts] using ledger.drafted
  · simpa only [hwithheld] using ledger.withheld
  · rw [hreconciled]
    exact fun _ h => h
  · rw [hwithheld]
    exact fun _ h => h
  · simp only [ClassifyPass.Drafted, hdrafts]
    exact fun _ h => h

theorem withhold_tally {bundleIndex proposalId : Nat}
    (howed : Owed snapshot (bundleIndex, proposalId)) :
    Within (TallyAdvance snapshot units ballot) (withhold proposalId) := by
  refine Within.write fun before after h => ?_
  cases h
  refine ⟨fun ledger => ⟨ledger.reconciled, ledger.chain, ledger.no_casts, ledger.drafted, ?_⟩,
    fun _ h => h, fun _ h => List.mem_cons_of_mem _ h, fun _ h => h⟩
  exact List.forall_mem_cons.mpr ⟨⟨bundleIndex, howed⟩, ledger.withheld⟩

theorem planCast_tally {proposalId intentChoice bundleIndex : Nat}
    (howed : Owed snapshot (bundleIndex, proposalId)) :
    Within (TallyAdvance snapshot units ballot)
      (planCast snapshot units ballot proposalId intentChoice bundleIndex) := by
  unfold planCast
  split
  · exact withhold_tally howed
  refine Within.bind (bookkeeping_tally fun _ => ⟨rfl, rfl, rfl, rfl⟩) fun _ => ?_
  split
  · exact withhold_tally howed
  split
  · refine Within.write fun before after h => ?_
    cases h
    have hdrafts := before.drafted_insert bundleIndex proposalId intentChoice
    refine ⟨fun ledger => ⟨ledger.reconciled, ledger.chain, ledger.no_casts, fun key h => ?_,
      ledger.withheld⟩, fun _ h => h, fun _ h => h, fun key h => (hdrafts key).mpr (.inl h)⟩
    obtain h | rfl := (hdrafts key).mp h
    · exact ledger.drafted key h
    · exact howed
  · exact Within.bind (bookkeeping_tally fun _ => ⟨rfl, rfl, rfl, rfl⟩) fun _ => withhold_tally howed

theorem reconcile_tally {unit : VoteUnit} (hunit : unit ∈ units)
    (hdispatchable : unit.Dispatchable snapshot ballot) :
    Within (TallyAdvance snapshot units ballot) (reconcile snapshot unit) := by
  refine (Within.read _).bind fun _ => Within.write fun before after h => ?_
  cases h
  split
  · exact refl_of _ _
  refine ⟨fun ledger => ⟨?_, ?_, ?_, ledger.drafted, ledger.withheld⟩,
    fun _ h => List.mem_cons_of_mem _ h, fun _ h => h, fun _ h => h⟩
  · refine List.forall_mem_cons.mpr ⟨⟨unit, hunit, rfl, by simp⟩, fun id hid => ?_⟩
    obtain ⟨other, hother, hname, hmem⟩ := ledger.reconciled id hid
    exact ⟨other, hother, hname, List.mem_append_left _ hmem⟩
  · rw [List.forall_mem_append, List.forall_mem_singleton]
    exact ⟨ledger.chain, fun _ => ⟨unit, hunit, rfl, hdispatchable⟩⟩
  · rw [List.forall_mem_append, List.forall_mem_singleton]
    exact ⟨ledger.no_casts, rfl⟩

theorem deliver_tally (bundleIndex proposalId : Nat) :
    Within (TallyAdvance snapshot units ballot) (deliver snapshot bundleIndex proposalId) := by
  refine Within.write fun before after h => ?_
  split at h
  · cases h
    exact refl_of _ _
  obtain ⟨owed, howed, h⟩ := except_bind_eq_ok.mp h
  cases h
  have hdelivers : ∀ obligation ∈ owed, obligation.isChain = false := by
    obtain ⟨_, -, ⟨rfl, -⟩ | ⟨_, rfl⟩⟩ := deliverObligations_eq_ok howed <;>
      simp [Obligation.isChain]
  refine ⟨fun ledger => ⟨?_, ?_, ?_, ledger.drafted, ledger.withheld⟩, fun _ h => h, fun _ h => h,
    fun _ h => h⟩
  · intro id hid
    obtain ⟨unit, hunit, hname, hmem⟩ := ledger.reconciled id hid
    exact ⟨unit, hunit, hname, List.mem_append_left _ hmem⟩
  · refine List.forall_mem_append.mpr ⟨ledger.chain, fun obligation hmem hchain => ?_⟩
    rw [hdelivers obligation hmem] at hchain
    cases hchain
  · exact List.forall_mem_append.mpr ⟨ledger.no_casts, deliverObligations_isCast howed⟩

/-- What the vote passes do keeps the ledger. -/
theorem tallyLedger_rules (hgroups : ∀ unit ∈ units, unit.Groups snapshot)
    (hconflict : ensureNoSubmittedVoteConflict snapshot = .ok ()) :
    PassRules snapshot units ballot (TallyAdvance snapshot units ballot) where
  cast hintent hbundle hdue :=
    planCast_tally (owed_of_castDue hgroups hconflict hbundle hintent hdue)
  wait hbundle hvote hposition := withhold_tally (by
    refine ⟨hbundle, ?_⟩
    simp [RoundSnapshot.position, hvote, hposition])
  reconcile := reconcile_tally
  deliver := deliver_tally

/-- Nothing is marked before the passes. -/
theorem tallyLedger_retirements :
    TallyLedger snapshot units ballot { obligations := retirements units ballot.roster } := by
  have hretire : ∀ obligation ∈ retirements units ballot.roster,
      obligation.isChain = false ∧ obligation.isCast = false := by
    intro obligation hmem
    obtain ⟨unit, -, rfl⟩ := List.mem_map.mp hmem
    exact ⟨rfl, rfl⟩
  refine ⟨by simp, fun obligation hmem hchain => ?_, fun obligation hmem => (hretire _ hmem).2, ?_,
    by simp⟩
  · rw [(hretire obligation hmem).1] at hchain
    cases hchain
  · rintro key ⟨drafts, hdrafts, -⟩
    simp at hdrafts

/-! ## The tally is exact -/

theorem obligationProposals_withPrerequisite (delegationBundles : List Nat)
    (obligation : Obligation) :
    obligationProposals (obligation.withPrerequisite delegationBundles) =
      obligationProposals obligation := by
  cases obligation <;> rfl

/-- The casts of the drafts cover what is drafted. -/
theorem mem_castObligations {pass : ClassifyPass} {proposalId : Nat} :
    proposalId ∈ ((pass.drafts.ascending (· ≤ ·)).flatMap (castObligations snapshot)).flatMap
        obligationProposals ↔ ∃ bundleIndex, pass.Drafted (bundleIndex, proposalId) := by
  have hcasts : ∀ entry, (castObligations snapshot entry).flatMap obligationProposals =
      entry.2.map (·.proposalId) := by
    intro entry
    simp [castObligations, atomicVoteBatchesEnabled, obligationProposals]
  simp only [List.flatMap_assoc, hcasts, List.mem_flatMap, Prod.exists, Table.mem_ascending,
    ClassifyPass.Drafted]

/-- A classified round covers what the vote passes planned and drafted, and withholds what
they withheld. -/
theorem classify_marks {result : RoundObligations} (h : classify snapshot units ballot = .ok result) :
    ensureNoSubmittedVoteConflict snapshot = .ok () ∧
      result.choiceProposals = ballot.choiceProposals ∧ ∃ planned,
      planVotes snapshot units ballot { obligations := retirements units ballot.roster } =
        .ok ((), planned) ∧
      ∀ proposalId,
        (proposalId ∈ result.withheldCasts ↔ proposalId ∈ planned.withheldCasts) ∧
        (proposalId ∈ coveredProposals result ↔
          proposalId ∈ planned.obligations.flatMap obligationProposals ∨
            ∃ bundleIndex, planned.Drafted (bundleIndex, proposalId)) := by
  simp only [classify, except_bind_eq_ok, except_pure_eq_ok] at h
  obtain ⟨_, hconflict, ⟨_, planned⟩, hplanned, ⟨_, pass⟩, hpass, rfl⟩ := h
  obtain ⟨hwithheld, added, hobligations, hadded⟩ := planBundles_obligations hpass
  refine ⟨hconflict, rfl, planned, hplanned, fun proposalId => ⟨?_, ?_⟩⟩
  · rw [List.mem_insertionSort, List.mem_dedup, hwithheld]
  · have hbundleWork : added.flatMap obligationProposals = [] := by
      refine List.flatMap_eq_nil_iff.mpr fun obligation hmem => ?_
      have hwork := hadded obligation hmem
      cases obligation <;> simp_all [Obligation.isBundleWork, obligationProposals]
    rw [coveredProposals, mem_sortedProposals, List.flatMap_map]
    simp only [obligationProposals_withPrerequisite]
    rw [hobligations, List.flatMap_append, List.flatMap_append, hbundleWork, List.append_nil,
      List.mem_append, mem_castObligations]

/-- A vote that is owed on some bundle is covered or withheld. -/
theorem marked_of_owed (hgroups : ∀ unit ∈ units, unit.Groups snapshot)
    (hnames : ∀ unit ∈ units, unit.proposalIds = unitProposals snapshot unit.id)
    (hconflict : ensureNoSubmittedVoteConflict snapshot = .ok ()) {planned : ClassifyPass}
    (hplanned : planVotes snapshot units ballot
      { obligations := retirements units ballot.roster } = .ok ((), planned))
    {bundleIndex proposalId choice : Nat} (hmem : proposalId ∈ ballot.choiceProposals)
    (hintent : snapshot.intents.lookup proposalId = some (.choice choice))
    (howed : Owed snapshot (bundleIndex, proposalId)) :
    proposalId ∈ planned.withheldCasts ∨
      proposalId ∈ planned.obligations.flatMap obligationProposals ∨
        planned.Drafted (bundleIndex, proposalId) := by
  have rules : PassRules snapshot units ballot (TallyAdvance snapshot units ballot) :=
    tallyLedger_rules hgroups hconflict
  have ledger := (rules.planVotes hgroups _ _ _ hplanned).ledger tallyLedger_retirements
  obtain ⟨hbundle, hconfirmed, hterminal⟩ := howed
  obtain ⟨earlier, later, hplan, hlater⟩ :=
    rules.exists_planVote hgroups hplanned hmem hintent hbundle
  -- the chain work of a reconciled unit names the proposals of the unit
  have hreconciled : later.Reconciled units (bundleIndex, proposalId) →
      proposalId ∈ planned.obligations.flatMap obligationProposals := by
    rintro ⟨unit, hunit, hkey, hid⟩
    obtain ⟨other, hother, hname, hwork⟩ := ledger.reconciled _ (hlater.reconciled hid)
    refine List.mem_flatMap.mpr ⟨_, hwork, ?_⟩
    show proposalId ∈ other.proposalIds
    rw [hnames other hother, hname, ← hnames unit hunit]
    exact (VoteUnit.mem_keys.mp hkey).2
  have houtcome := planVote_eq_ok hplan
  split at houtcome
  · obtain hdrafted | hwithheld := houtcome
    · exact .inr (.inr (hlater.drafts _ hdrafted))
    · exact .inl (hlater.withheld hwithheld)
  · next hdue =>
    obtain ⟨vote, hvote, houtcome⟩ := houtcome
    have hposition : snapshot.position (bundleIndex, proposalId) = .of (some vote.phase) := by
      simp [RoundSnapshot.position, hvote]
    rw [hposition] at hconfirmed hterminal
    split at houtcome
    · next h => exact absurd h hconfirmed
    · obtain h | hwithheld := houtcome
      · exact .inr (.inl (hreconciled h))
      · exact .inl (hlater.withheld hwithheld)
    · exact .inr (.inl (hreconciled houtcome))
    · next h => exact absurd h hterminal
    · next huncast => simp [castDue, hvote, huncast] at hdue

/-- A proposal that is covered or withheld is owed on some bundle. -/
theorem owed_of_marked (hgroups : ∀ unit ∈ units, unit.Groups snapshot)
    (hbundles : snapshot.VotesOnBundles) {planned : ClassifyPass}
    (ledger : TallyLedger snapshot units ballot planned) {proposalId : Nat}
    (h : proposalId ∈ planned.withheldCasts ∨
      proposalId ∈ planned.obligations.flatMap obligationProposals ∨
        ∃ bundleIndex, planned.Drafted (bundleIndex, proposalId)) :
    ∃ bundleIndex, Owed snapshot (bundleIndex, proposalId) := by
  obtain hwithheld | hcovered | ⟨bundleIndex, hdrafted⟩ := h
  · exact ledger.withheld proposalId hwithheld
  · obtain ⟨obligation, hmem, hproposal⟩ := List.mem_flatMap.mp hcovered
    have hcast := ledger.no_casts obligation hmem
    have hchain : obligation.isChain = true := by
      cases obligation <;> simp_all [obligationProposals, Obligation.isChain, Obligation.isCast]
    obtain ⟨unit, hunit, rfl, hdispatchable⟩ := ledger.chain obligation hmem hchain
    exact ⟨unit.bundleIndex, owed_of_dispatchable hgroups hbundles hunit hdispatchable hproposal⟩
  · exact ⟨bundleIndex, ledger.drafted _ hdrafted⟩

end

/-- The baseline of selected choices holds every rostered choice. -/
theorem mem_forSelectedChoices {P : Primitives} {snapshot : RoundSnapshot} {proposalIds : List Nat}
    {obligations : RoundObligations} (h : classifyRound P snapshot proposalIds = .ok obligations)
    {proposalId choice : Nat} (hroster : proposalId ∈ proposalIds)
    (hchoice : snapshot.intents.lookup proposalId = some (.choice choice)) :
    proposalId ∈ (VoteProgressBaseline.forSelectedChoices obligations).proposals := by
  simp only [classifyRound, except_bind_eq_ok] at h
  obtain ⟨ballot, hballot, h⟩ := h
  have hmem : proposalId ∈ ballot.choiceProposals := by
    obtain ⟨hrostered, hchosen⟩ := choiceProposals_of_choice hballot proposalId
    exact hchosen.mpr ⟨hrostered.mpr hroster, choice, hchoice⟩
  refine mem_sortedProposals.mpr (List.mem_append_left _ ?_)
  split at h
  · cases h
    exact hmem
  · obtain ⟨units, -, h⟩ := except_bind_eq_ok.mp h
    rw [(classify_marks h).2.1]
    exact hmem

/-- **Exact progress.**  `tally` counts the proposals in `completed`: a rostered choice of a
loaded round, measured with the baseline of selected choices that any snapshot with the
same ballot gave, is counted as completed exactly when the round has bundle rows and its
vote is confirmed or terminal on every one of them. -/
theorem tally_completed_exact (P : Primitives) (round : RoundKey) (db : Db)
    (first snapshot : RoundSnapshot) (proposalIds : List Nat) (start obligations : RoundObligations)
    (hkeys : db.VotesReferenceBundles) (hload : loadRoundSnapshot P round db = .ok snapshot)
    (hballot : first.intents = snapshot.intents)
    (hstart : classifyRound P first proposalIds = .ok start)
    (h : classifyRound P snapshot proposalIds = .ok obligations) (proposalId choice : Nat)
    (hroster : proposalId ∈ proposalIds)
    (hchoice : snapshot.intents.lookup proposalId = some (.choice choice)) :
    proposalId ∈ (VoteProgressBaseline.forSelectedChoices start).completed obligations ↔
      snapshot.delegations ≠ [] ∧
        ∀ bundleIndex, (snapshot.delegationPhases.lookup bundleIndex).isSome →
          snapshot.position (bundleIndex, proposalId) = .confirmed ∨
            snapshot.position (bundleIndex, proposalId) = .terminal := by
  have hbundles := votesOnBundles_of_load hkeys hload
  have hselected := mem_forSelectedChoices hstart hroster (hballot ▸ hchoice)
  simp only [VoteProgressBaseline.completed, List.mem_filter, hselected, true_and,
    decide_eq_true_eq]
  simp only [classifyRound, except_bind_eq_ok] at h
  obtain ⟨ballot, hclassified, h⟩ := h
  have hmem : proposalId ∈ ballot.choiceProposals := by
    obtain ⟨hrostered, hchosen⟩ := choiceProposals_of_choice hclassified proposalId
    exact hchosen.mpr ⟨hrostered.mpr hroster, choice, hchoice⟩
  split at h
  · next hsetup =>
    cases h
    simp [hmem, hsetup.2]
  · next hsetup =>
    have hrows : snapshot.delegations ≠ [] :=
      fun hnone => hsetup ⟨List.ne_nil_of_mem hmem, hnone⟩
    obtain ⟨units, hunits, h⟩ := except_bind_eq_ok.mp h
    have hgroups := groupVoteUnits_groups hunits
    obtain ⟨hconflict, -, planned, hplanned, hmarks⟩ := classify_marks h
    have ledger := ((tallyLedger_rules hgroups hconflict).planVotes hgroups _ _ _ hplanned).ledger
      tallyLedger_retirements
    rw [(hmarks proposalId).1, (hmarks proposalId).2]
    constructor
    · rintro ⟨hcovered, hwithheld⟩
      refine ⟨hrows, fun bundleIndex hbundle => ?_⟩
      by_contra hopen
      rw [not_or] at hopen
      obtain hmark | hmark | hmark := marked_of_owed hgroups (groupVoteUnits_proposalIds hunits)
        hconflict hplanned hmem hchoice ⟨hbundle, hopen⟩
      · exact hwithheld hmark
      · exact hcovered (.inl hmark)
      · exact hcovered (.inr ⟨bundleIndex, hmark⟩)
    · rintro ⟨-, hdone⟩
      have hmarked : ¬ ∃ bundleIndex, Owed snapshot (bundleIndex, proposalId) := by
        rintro ⟨bundleIndex, hbundle, hconfirmed, hterminal⟩
        obtain h | h := hdone bundleIndex hbundle
        · exact hconfirmed h
        · exact hterminal h
      constructor
      · exact fun hcovered => hmarked (owed_of_marked hgroups hbundles ledger (.inr hcovered))
      · exact fun hwithheld => hmarked (owed_of_marked hgroups hbundles ledger (.inl hwithheld))

/-- One bundle: a vote on the wire, a confirmed one, and a choice whose cast waits. -/
def halfDoneDb : Db :=
  { coveredDb with bundles := AList.insert ⟨sampleRound, "wallet", 0⟩ delegatedBundle ∅ }

def halfDoneSnapshot : RoundSnapshot :=
  { coveredSnapshot with
    delegations := [⟨0, .confirmed, none⟩]
    bundles := AList.insert 0 ⟨false, some (hex sampleHash.val)⟩ ∅ }

def halfDoneObligations : RoundObligations :=
  ⟨[.reconcileChain (.singleton 0 1) 0 [1] false (some (hex sampleHash.val)) none,
    .deliver 0 2 5 [0] none], [1, 2, 3], [], [], [], false, [3], []⟩

theorem tally_completed_exact_halfDone :
    loadRoundSnapshot samplePrimitives sampleRoundKey halfDoneDb = .ok halfDoneSnapshot ∧
      classifyRound samplePrimitives coveredSnapshot [1, 2, 3] = .ok coveredObligations ∧
      classifyRound samplePrimitives halfDoneSnapshot [1, 2, 3] = .ok halfDoneObligations ∧
      2 ∈ (VoteProgressBaseline.forSelectedChoices coveredObligations).completed
        halfDoneObligations ∧
      1 ∉ (VoteProgressBaseline.forSelectedChoices coveredObligations).completed
        halfDoneObligations := by
  have hstart : classifyRound samplePrimitives coveredSnapshot [1, 2, 3] =
    .ok coveredObligations := by decide +kernel
  have hclassified : classifyRound samplePrimitives halfDoneSnapshot [1, 2, 3] =
    .ok halfDoneObligations := by decide +kernel
  have hexact := tally_completed_exact samplePrimitives sampleRoundKey halfDoneDb coveredSnapshot
    halfDoneSnapshot [1, 2, 3] coveredObligations halfDoneObligations (by decide +kernel) rfl rfl
    hstart hclassified
  have hrow : halfDoneSnapshot.delegationPhases = AList.insert 0 .confirmed ∅ := rfl
  refine ⟨rfl, hstart, hclassified, ?_, ?_⟩
  · refine (hexact 2 0 (by decide) (by decide +kernel)).mpr ⟨by decide, fun bundle hbundle => ?_⟩
    rw [hrow, Table.lookup_insert_eq] at hbundle
    split at hbundle
    · next h =>
      rw [h]
      exact .inl (by decide +kernel)
    · simp at hbundle
  · intro hcompleted
    have hdone := ((hexact 1 0 (by decide) (by decide +kernel)).mp hcompleted).2 0
      (by decide +kernel)
    revert hdone
    decide +kernel

end ZcashVoting.RoundDrive
