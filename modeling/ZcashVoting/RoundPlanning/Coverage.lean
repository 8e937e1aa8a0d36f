import Mathlib.Data.List.Dedup
import ZcashVoting.RoundPlanning.PassLedger

/-!
# ZcashVoting.RoundPlanning.Coverage

The planner covers the round: every vote that is owed has exactly one place in the
obligations.

The ledger of the passes says what the obligations hold, and each pass that what it owed
got in.  Neither depends on the other votes except through the units, so the places of a
row exclude each other because its unit is unique and is in the phase of its votes.
-/

namespace ZcashVoting

open Transaction

section

variable {snapshot : RoundSnapshot} {units : List VoteUnit} {ballot : BallotIntentClassification}

/-! ## Coverage -/

/-- A successful classification: what its vote passes planned, and what its obligations
hold of it. -/
structure Classified (snapshot : RoundSnapshot) (units : List VoteUnit)
    (ballot : BallotIntentClassification) (result : RoundObligations) (planned : ClassifyPass) :
    Prop where
  no_conflict : ensureNoSubmittedVoteConflict snapshot = .ok ()
  planned_eq : planVotes snapshot units ballot { obligations := retirements units ballot.roster } =
    .ok ((), planned)
  ledger : PassLedger snapshot units ballot planned
  withheld : ∀ proposalId, proposalId ∈ planned.withheldCasts → proposalId ∈ result.withheldCasts
  casts : ∀ key, result.obligations.countP (·.drafts key) =
    if (planned.drafts.lookup key.1).any (·.any fun draft => draft.proposalId = key.2) then 1 else 0
  chain : ∀ key, result.obligations.countP (·.reconciles key) =
    planned.obligations.countP (·.reconciles key)
  shares : ∀ key shareIndex, result.obligations.countP (·.delivers key shareIndex) =
    planned.obligations.countP (·.delivers key shareIndex)
  /-- Chain work names the proposals of a unit. -/
  ordered : ∀ unit bundleIndex orderedProposalIds undispatched txHash prerequisite,
    .reconcileChain unit bundleIndex orderedProposalIds undispatched txHash prerequisite ∈
      result.obligations → orderedProposalIds ≠ []

theorem drafted_iff {pass : ClassifyPass} {key : Nat × Nat} :
    pass.Drafted key ↔
      (pass.drafts.lookup key.1).any (·.any fun draft => draft.proposalId = key.2) = true := by
  unfold ClassifyPass.Drafted
  cases pass.drafts.lookup key.1 <;> simp

/-- Nothing is reconciled, delivered or drafted before the passes. -/
theorem passLedger_retirements :
    PassLedger snapshot units ballot { obligations := retirements units ballot.roster } := by
  have hretire : ∀ obligation ∈ retirements units ballot.roster, ∃ id members,
      obligation = .retire id members := by
    intro obligation hmem
    obtain ⟨unit, -, rfl⟩ := List.mem_map.mp hmem
    exact ⟨_, _, rfl⟩
  refine ⟨fun unit _ key _ => ?_, fun obligation hmem hchain => ?_, by simp, by simp,
    fun key _ shareIndex => ?_, fun obligation hmem => ?_, ?_⟩
  · rw [List.countP_eq_zero.mpr]
    · simp
    · intro obligation hmem
      obtain ⟨_, _, rfl⟩ := hretire obligation hmem
      simp [Obligation.reconciles]
  · obtain ⟨_, _, rfl⟩ := hretire obligation hmem
    simp [Obligation.isChain] at hchain
  · refine List.countP_eq_zero.mpr fun obligation hmem => ?_
    obtain ⟨_, _, rfl⟩ := hretire obligation hmem
    simp [Obligation.delivers]
  · obtain ⟨_, _, rfl⟩ := hretire obligation hmem
    rfl
  · rintro key ⟨drafts, hdrafts, -⟩
    simp at hdrafts

theorem classify_classified (hfibres : UnitFibres snapshot (snapshot.votesInOrder.map (·.1)) units)
    (hgroups : ∀ unit ∈ units, unit.Groups snapshot) {result : RoundObligations}
    (h : classify snapshot units ballot = .ok result) :
    ∃ planned, Classified snapshot units ballot result planned := by
  simp only [classify, except_bind_eq_ok, except_pure_eq_ok] at h
  obtain ⟨_, hconflict, ⟨_, planned⟩, hplanned, ⟨_, pass⟩, hpass, rfl⟩ := h
  obtain ⟨hwithheld, added, hobligations, hadded⟩ := planBundles_obligations hpass
  have hledger := ((passLedger_rules hfibres).planVotes hgroups _ _ _ hplanned).ledger
    passLedger_retirements
  -- a count that ignores bundle work and prerequisites sees the planned work and the casts
  have hcount : ∀ q : Obligation → Bool,
      (∀ obligation, q (obligation.withPrerequisite pass.delegationBundles) = q obligation) →
      (∀ obligation, obligation.isBundleWork = true → q obligation = false) →
      (pass.obligations.map (·.withPrerequisite pass.delegationBundles)).countP q =
        planned.obligations.countP q +
          ((planned.drafts.ascending (· ≤ ·)).flatMap (castObligations snapshot)).countP q := by
    intro q hprerequisite hwork
    have hq : q ∘ (·.withPrerequisite pass.delegationBundles) = q := funext hprerequisite
    have hnone : added.countP q = 0 :=
      List.countP_eq_zero.mpr fun obligation hmem => by simp [hwork obligation (hadded _ hmem)]
    rw [List.countP_map, hobligations, hq, List.countP_append, List.countP_append, hnone,
      Nat.add_zero]
  have hcasts : ∀ q : Obligation → Bool, (∀ obligation, obligation.isCast = true →
      q obligation = false) →
      ((planned.drafts.ascending (· ≤ ·)).flatMap (castObligations snapshot)).countP q = 0 := by
    intro q hq
    refine List.countP_eq_zero.mpr fun obligation hmem => ?_
    obtain ⟨entry, -, hmem⟩ := List.mem_flatMap.mp hmem
    simp [hq obligation (castObligations_isCast hmem)]
  refine ⟨planned, hconflict, hplanned, hledger, fun proposalId hmem => ?_, fun key => ?_,
    fun key => ?_, fun key shareIndex => ?_, fun unit b ids undispatched txHash blockedBy hmem => ?_⟩
  · rw [List.mem_insertionSort, List.mem_dedup, hwithheld]
    exact hmem
  · have hnone : planned.obligations.countP (·.drafts key) = 0 :=
      List.countP_eq_zero.mpr fun obligation hmem => by
        have hcast := hledger.no_casts obligation hmem
        cases obligation <;> simp_all [Obligation.drafts, Obligation.isCast]
    rw [hcount _ Obligation.drafts_withPrerequisite
      (by intro obligation; cases obligation <;> simp [Obligation.isBundleWork, Obligation.drafts]),
      hnone, Nat.zero_add, countP_castObligations]
  · rw [hcount _ Obligation.reconciles_withPrerequisite (by
        intro obligation
        cases obligation <;> simp [Obligation.isBundleWork, Obligation.reconciles]),
      hcasts _ (by
        intro obligation
        cases obligation <;> simp [Obligation.isCast, Obligation.reconciles]), Nat.add_zero]
  · rw [hcount _ Obligation.delivers_withPrerequisite (by
        intro obligation
        cases obligation <;> simp [Obligation.isBundleWork, Obligation.delivers]),
      hcasts _ (by
        intro obligation
        cases obligation <;> simp [Obligation.isCast, Obligation.delivers]), Nat.add_zero]
  · obtain ⟨obligation, hmem, hobligation⟩ := List.mem_map.mp hmem
    have hchain : obligation.isChain = true := by
      rw [← Obligation.isChain_withPrerequisite obligation, hobligation]
      rfl
    rw [hobligations, List.mem_append, List.mem_append] at hmem
    obtain (hmem | hmem) | hmem := hmem
    · obtain ⟨unit, -, rfl⟩ := hledger.chain_unit obligation hmem hchain
      cases hobligation
      simp [VoteUnit.proposalIds, unit.members_ne_nil]
    · obtain ⟨entry, -, hmem⟩ := List.mem_flatMap.mp hmem
      rw [Obligation.isChain_of_isCast (castObligations_isCast hmem)] at hchain
      cases hchain
    · rw [Obligation.isChain_of_isBundleWork (hadded obligation hmem)] at hchain
      cases hchain

theorem ballotRelation_of_choice {proposalId intentChoice storedChoice : Nat}
    (hintent : snapshot.intents.lookup proposalId = some (.choice intentChoice)) :
    ballotRelation snapshot.intents proposalId storedChoice =
      if intentChoice = storedChoice then .agrees else .conflicts := by
  simp [ballotRelation, hintent]

/-- Why a cast is due over a stored vote. -/
theorem castDue_cases {proposalId intentChoice bundleIndex : Nat} {vote : VoteSnapshot}
    (hintent : snapshot.intents.lookup proposalId = some (.choice intentChoice))
    (hvote : snapshot.votes.lookup (bundleIndex, proposalId) = some vote)
    (hdue : castDue snapshot units ballot proposalId intentChoice bundleIndex = true) :
    ballotRelation snapshot.intents proposalId vote.choice = .conflicts ∨
      (∃ unit ∈ units, unit.retires ballot.roster = true ∧
        (bundleIndex, proposalId) ∈ unit.keys) ∨
      LifecyclePosition.of (some vote.phase) = .uncast := by
  simp only [castDue, hvote, Bool.or_eq_true, decide_eq_true_eq] at hdue
  obtain ((hstale | hchoice) | hretirable) | huncast := hdue
  · exact .inl ((mem_staleVoteKeys hvote).mp hstale)
  · rw [ballotRelation_of_choice hintent, if_neg (Ne.symm hchoice)]
    exact .inl rfl
  · obtain ⟨unit, hunit, hretires, hbundle, hmem⟩ := mem_retirableVoteKeys.mp hretirable
    exact .inr (.inl ⟨unit, hunit, hretires, VoteUnit.mem_keys.mpr ⟨hbundle, hmem⟩⟩)
  · exact .inr (.inr huncast)

theorem VoteUnit.committed_of_retires {roster : List Nat} {unit : VoteUnit}
    (h : unit.retires roster = true) :
    unit.phase = .committed ∧ rosterRelation unit.proposalIds roster = .leftRoster := by
  simpa [VoteUnit.retires] using h

section

variable (hgroups : ∀ unit ∈ units, unit.Groups snapshot)

include hgroups

/-- A cast is due only over a vote the chain has not seen. -/
theorem not_owned_of_castDue (hconflict : ensureNoSubmittedVoteConflict snapshot = .ok ())
    {proposalId intentChoice bundleIndex : Nat} {vote : VoteSnapshot}
    (hintent : snapshot.intents.lookup proposalId = some (.choice intentChoice))
    (hvote : snapshot.votes.lookup (bundleIndex, proposalId) = some vote)
    (hdue : castDue snapshot units ballot proposalId intentChoice bundleIndex = true) :
    vote.phase.isLifecycleOwned = false := by
  obtain hconflicts | ⟨unit, hunit, hretires, hkey⟩ | huncast := castDue_cases hintent hvote hdue
  · exact ensureNoSubmittedVoteConflict_eq_ok hconflict hvote hconflicts
  · rw [← phase_of_mem_keys hgroups hunit hkey hvote, (VoteUnit.committed_of_retires hretires).1]
    rfl
  · rw [VotePhase.isLifecycleOwned_eq, huncast]
    rfl

/-- No cast is due over a vote whose unit has chain work. -/
theorem not_castDue_of_dispatchable
    (hfibres : UnitFibres snapshot (snapshot.votesInOrder.map (·.1)) units)
    (hconflict : ensureNoSubmittedVoteConflict snapshot = .ok ())
    {proposalId intentChoice bundleIndex : Nat}
    (hintent : snapshot.intents.lookup proposalId = some (.choice intentChoice)) {unit : VoteUnit}
    (hunit : unit ∈ units) (hkey : (bundleIndex, proposalId) ∈ unit.keys)
    (hdispatchable : unit.Dispatchable snapshot ballot) :
    castDue snapshot units ballot proposalId intentChoice bundleIndex = false := by
  obtain ⟨hbundle, hmem⟩ := VoteUnit.mem_keys.mp hkey
  dsimp only at hbundle hmem
  subst hbundle
  obtain ⟨vote, hvote, hphase⟩ := hgroups unit hunit proposalId hmem
  rw [← Bool.not_eq_true]
  intro hdue
  obtain honWire | ⟨hcommitted, hagrees⟩ := hdispatchable
  · have howned := not_owned_of_castDue hgroups hconflict hintent hvote hdue
    rw [VotePhase.isLifecycleOwned_eq, hphase, honWire] at howned
    cases howned
  · have hmember : ∀ proposalId ∈ unit.proposalIds, proposalId ∈ ballot.roster ∧
        (snapshot.votes.lookup (unit.bundleIndex, proposalId)).any fun vote =>
          ballotRelation snapshot.intents proposalId vote.choice = .agrees := by
      simpa [everyMemberAgrees] using hagrees
    obtain hconflicts | ⟨other, hother, hretires, hkey'⟩ | huncast :=
      castDue_cases hintent hvote hdue
    · have := (hmember proposalId hmem).2
      simp [hvote, hconflicts] at this
    · obtain rfl := hfibres.eq_of_mem hother hunit hkey' hkey
      have hleft := (VoteUnit.committed_of_retires hretires).2
      simp only [rosterRelation, List.all_eq_true] at hleft
      split at hleft
      · cases hleft
      · next hroster => exact hroster fun p hp => by simpa using (hmember p hp).1
    · simp [hphase, hcommitted, LifecyclePosition.of] at huncast

end

theorem choiceProposals_of_choice {proposalIds : List Nat}
    (hballot : classifyBallotIntents proposalIds snapshot.intents = .ok ballot) (proposalId : Nat) :
    (proposalId ∈ ballot.roster ↔ proposalId ∈ proposalIds) ∧
      (proposalId ∈ ballot.choiceProposals ↔ proposalId ∈ ballot.roster ∧
        ∃ choice, snapshot.intents.lookup proposalId = some (.choice choice)) := by
  simp only [classifyBallotIntents, except_bind_eq_ok, except_pure_eq_ok] at hballot
  obtain ⟨_, -, rfl⟩ := hballot
  simp only [List.mem_insertionSort, List.mem_filter, true_and]
  refine and_congr_right fun _ => ?_
  cases snapshot.intents.lookup proposalId with
  | none => simp
  | some decision => cases decision <;> simp

end

/-- Where a vote stands in the snapshot. -/
def RoundSnapshot.position (snapshot : RoundSnapshot) (key : Nat × Nat) : LifecyclePosition :=
  .of ((snapshot.votes.lookup key).map (·.phase))

/-- Every vote is on a bundle that has a delegation status. -/
def RoundSnapshot.VotesOnBundles (snapshot : RoundSnapshot) : Prop :=
  ∀ key vote, snapshot.votes.lookup key = some vote →
    (snapshot.delegationPhases.lookup key.1).isSome

/-- The votes of a loaded round are. -/
theorem votesOnBundles_of_load {P : Primitives} {round : RoundKey} {db : Db}
    {snapshot : RoundSnapshot} (hkeys : db.VotesReferenceBundles)
    (hload : loadRoundSnapshot P round db = .ok snapshot) : snapshot.VotesOnBundles := by
  intro key vote hvote
  obtain ⟨status, hmem, hbundle⟩ := exists_delegation_of_vote hkeys hload hvote
  have hphases : snapshot.delegationPhases =
      .collect (snapshot.delegations.map fun status => (status.bundleIndex, status.phase)) := by
    rw [RoundSnapshot.delegationPhases, Table.collect, List.foldl_map]
  rw [hphases, ← hbundle, Option.isSome_iff_exists]
  exact Table.exists_lookup_collect (List.mem_map_of_mem hmem)

/-- The places a chosen proposal can have on a bundle. -/
def coveragePlaces (snapshot : RoundSnapshot) (result : RoundObligations) (key : Nat × Nat) :
    List Prop :=
  [result.obligations.countP (·.drafts key) = 1, result.obligations.countP (·.reconciles key) = 1,
    snapshot.position key = .confirmed, snapshot.position key = .terminal]

section

variable {snapshot : RoundSnapshot} {units : List VoteUnit} {ballot : BallotIntentClassification}
  {result : RoundObligations} {planned : ClassifyPass}

/-- A unit with chain work is on the wire or waits to be dispatched, and so are its
votes. -/
theorem position_of_dispatchable (hgroups : ∀ unit ∈ units, unit.Groups snapshot) {unit : VoteUnit} (hunit : unit ∈ units) {key : Nat × Nat}
    (hkey : key ∈ unit.keys) (hdispatchable : unit.Dispatchable snapshot ballot) :
    snapshot.position key = .onWire ∨ snapshot.position key = .undispatched := by
  obtain ⟨hbundle, hmem⟩ := VoteUnit.mem_keys.mp hkey
  obtain ⟨vote, hvote, hphase⟩ := hgroups unit hunit key.2 hmem
  rw [hbundle] at hvote
  have hposition : snapshot.position key = .of (some unit.phase) := by
    simp [RoundSnapshot.position, hvote, hphase]
  obtain honWire | ⟨hcommitted, -⟩ := hdispatchable
  · exact .inl (hposition.trans honWire)
  · rw [hposition, hcommitted]
    exact .inr rfl

namespace Classified

variable (c : Classified snapshot units ballot result planned)
  (hfibres : UnitFibres snapshot (snapshot.votesInOrder.map (·.1)) units)
  (hgroups : ∀ unit ∈ units, unit.Groups snapshot)

include c

theorem casts_eq_one {key : Nat × Nat} :
    result.obligations.countP (·.drafts key) = 1 ↔ planned.Drafted key := by
  rw [c.casts, drafted_iff]
  split <;> simp_all

theorem chain_eq_one_of_reconciled {key : Nat × Nat} (h : planned.Reconciled units key) :
    result.obligations.countP (·.reconciles key) = 1 := by
  obtain ⟨unit, hunit, hkey, hid⟩ := h
  rw [c.chain, c.ledger.chain unit hunit key hkey, if_pos hid]

/-- Chain work for a vote is that of a unit that holds it. -/
theorem exists_dispatchable {key : Nat × Nat}
    (h : result.obligations.countP (·.reconciles key) = 1) :
    ∃ unit ∈ units, key ∈ unit.keys ∧ unit.Dispatchable snapshot ballot := by
  rw [c.chain] at h
  obtain ⟨obligation, hmem, hreconciles⟩ := List.countP_pos_iff.mp (h ▸ Nat.one_pos)
  obtain ⟨unit, hunit, rfl⟩ :=
    c.ledger.chain_unit obligation hmem (Obligation.isChain_of_reconciles hreconciles)
  rw [reconciles_reconcileObligation, decide_eq_true_eq] at hreconciles
  refine ⟨unit, hunit, hreconciles, c.ledger.dispatchable unit hunit ?_⟩
  by_contra hid
  rw [c.ledger.chain unit hunit key hreconciles, if_neg hid] at h
  cases h

include hgroups

theorem position_of_drafted {key : Nat × Nat} (h : planned.Drafted key) :
    (snapshot.position key).isLifecycleOwned = false := by
  obtain ⟨choice, hintent, hdue⟩ := c.ledger.drafted key h
  unfold RoundSnapshot.position
  cases hvote : snapshot.votes.lookup key with
  | none => rfl
  | some vote =>
    have howned := not_owned_of_castDue hgroups c.no_conflict hintent hvote hdue
    rwa [VotePhase.isLifecycleOwned_eq] at howned

include hfibres

/-- The places exclude each other. -/
theorem places_disjoint (key : Nat × Nat) :
    (coveragePlaces snapshot result key).Pairwise fun p q => ¬ (p ∧ q) := by
  simp only [coveragePlaces, List.pairwise_cons, List.mem_cons, List.not_mem_nil, or_false,
    forall_eq_or_imp, forall_eq, List.Pairwise.nil, c.casts_eq_one, and_true, false_imp_iff,
    implies_true]
  refine ⟨⟨fun ⟨hdrafted, hchain⟩ => ?_, fun ⟨hdrafted, hconfirmed⟩ => ?_,
    fun ⟨hdrafted, hterminal⟩ => ?_⟩, ⟨fun ⟨hchain, hconfirmed⟩ => ?_,
    fun ⟨hchain, hterminal⟩ => ?_⟩, fun ⟨hconfirmed, hterminal⟩ => ?_⟩
  · obtain ⟨unit, hunit, hkey, hdispatchable⟩ := c.exists_dispatchable hchain
    obtain ⟨choice, hintent, hdue⟩ := c.ledger.drafted key hdrafted
    rw [not_castDue_of_dispatchable hgroups hfibres c.no_conflict hintent hunit hkey
      hdispatchable] at hdue
    cases hdue
  · simpa [hconfirmed, LifecyclePosition.isLifecycleOwned] using c.position_of_drafted hgroups hdrafted
  · simpa [hterminal, LifecyclePosition.isLifecycleOwned] using c.position_of_drafted hgroups hdrafted
  · obtain ⟨unit, hunit, hkey, hdispatchable⟩ := c.exists_dispatchable hchain
    simpa [hconfirmed] using position_of_dispatchable hgroups hunit hkey hdispatchable
  · obtain ⟨unit, hunit, hkey, hdispatchable⟩ := c.exists_dispatchable hchain
    simpa [hterminal] using position_of_dispatchable hgroups hunit hkey hdispatchable
  · simp [hconfirmed] at hterminal

/-- A chosen proposal without a place is withheld. -/
theorem withheld_of_no_place {proposalId choice bundleIndex : Nat}
    (hmem : proposalId ∈ ballot.choiceProposals)
    (hintent : snapshot.intents.lookup proposalId = some (.choice choice))
    (hbundle : (snapshot.delegationPhases.lookup bundleIndex).isSome)
    (hnone : ∀ place ∈ coveragePlaces snapshot result (bundleIndex, proposalId), ¬ place) :
    proposalId ∈ result.withheldCasts := by
  obtain ⟨before, after, hplan, hafter⟩ := (passLedger_rules hfibres).exists_planVote hgroups
    c.planned_eq hmem hintent hbundle
  simp only [coveragePlaces, List.forall_mem_cons, List.not_mem_nil, false_imp_iff, implies_true,
    and_true, c.casts_eq_one] at hnone
  obtain ⟨hcast, hchain, hconfirmed, hterminal⟩ := hnone
  have hreconciled : ¬ after.Reconciled units (bundleIndex, proposalId) := fun h =>
    hchain (c.chain_eq_one_of_reconciled (hafter.reconciled_mono h))
  refine c.withheld _ (hafter.withheld ?_)
  have houtcome := planVote_eq_ok hplan
  split at houtcome
  · exact houtcome.resolve_left fun h => hcast (hafter.drafts _ h)
  · next hdue =>
    obtain ⟨vote, hvote, houtcome⟩ := houtcome
    have hposition : snapshot.position (bundleIndex, proposalId) = .of (some vote.phase) := by
      simp [RoundSnapshot.position, hvote]
    rw [hposition] at hconfirmed hterminal
    split at houtcome
    · next h => exact absurd h hconfirmed
    · exact houtcome.resolve_left hreconciled
    · exact absurd houtcome hreconciled
    · next h => exact absurd h hterminal
    · next huncast => simp [castDue, hvote, huncast] at hdue

/-- A vote the chain has seen is visited by the pass that its intent and roster choose. -/
theorem reconciled_or_delivered (hballot : ∀ proposalId, proposalId ∈ ballot.choiceProposals ↔
      proposalId ∈ ballot.roster ∧
        ∃ choice, snapshot.intents.lookup proposalId = some (.choice choice))
    (hbundles : snapshot.VotesOnBundles) {key : Nat × Nat} {vote : VoteSnapshot}
    (hvote : snapshot.votes.lookup key = some vote) :
    (LifecyclePosition.of (some vote.phase) = .onWire → planned.Reconciled units key) ∧
      (LifecyclePosition.of (some vote.phase) = .confirmed → key ∈ planned.deliveredVotes) := by
  obtain ⟨bundleIndex, proposalId⟩ := key
  by_cases hskip : (snapshot.intents.lookup proposalId).isSome ∧ proposalId ∈ ballot.roster
  · -- the ballot decided the proposal, so the first pass planned the vote
    have houtcome : (LifecyclePosition.of (some vote.phase)).isLifecycleOwned = true →
        match LifecyclePosition.of (some vote.phase) with
        | .confirmed => (bundleIndex, proposalId) ∈ planned.deliveredVotes
        | .onWire => planned.Reconciled units (bundleIndex, proposalId)
        | .undispatched | .terminal | .uncast => True := by
      intro howned
      rw [← VotePhase.isLifecycleOwned_eq] at howned
      obtain ⟨decision, hintent⟩ := Option.isSome_iff_exists.mp hskip.1
      cases decision with
      | skipped =>
        have hconflicts : ballotRelation snapshot.intents proposalId vote.choice = .conflicts := by
          simp [ballotRelation, hintent]
        rw [ensureNoSubmittedVoteConflict_eq_ok c.no_conflict hvote hconflicts] at howned
        cases howned
      | choice choice =>
        obtain ⟨before, after, hplan, hafter⟩ := (passLedger_rules hfibres).exists_planVote hgroups
          c.planned_eq ((hballot proposalId).mpr ⟨hskip.2, choice, hintent⟩) hintent (hbundles _ _ hvote)
        have houtcome := planVote_eq_ok hplan
        split at houtcome
        · next hdue =>
          rw [not_owned_of_castDue hgroups c.no_conflict hintent hvote hdue] at howned
          cases howned
        · obtain ⟨stored, hstored, houtcome⟩ := houtcome
          rw [hvote, Option.some.injEq] at hstored
          subst hstored
          cases hposition : LifecyclePosition.of (some vote.phase) <;>
            simp only [hposition] at houtcome ⊢
          case confirmed => exact hafter.delivered houtcome
          case onWire => exact hafter.reconciled_mono houtcome
    refine ⟨fun honWire => ?_, fun hconfirmed => ?_⟩
    · simpa [honWire, LifecyclePosition.isLifecycleOwned] using houtcome
    · simpa [hconfirmed, LifecyclePosition.isLifecycleOwned] using houtcome
  · obtain ⟨before, after, hadvance, hafter⟩ := (passLedger_rules hfibres).exists_advanceVote
      hgroups c.planned_eq hvote
    obtain ⟨honWire, hconfirmed⟩ := advanceVote_eq_ok hskip hadvance
    exact ⟨fun h => hafter.reconciled_mono (honWire h), fun h => hafter.delivered (hconfirmed h)⟩

end Classified

end

/-- **Planner coverage.**  Where a round is loaded and classified whose grouped batches name
their rows: a rostered proposal with a choice has at most one place on a bundle, a draft
of one cast, a unit of one chain obligation, a confirmed vote or a terminal one, and
without one it is withheld; and whatever the roster and the ballot say, a vote on the
wire is in one chain obligation and a missing share of a confirmed vote in one delivery. -/
theorem planner_coverage (P : Primitives) (round : RoundKey) (db : Db) (snapshot : RoundSnapshot)
    (proposalIds : List Nat) (ballot : BallotIntentClassification) (units : List VoteUnit)
    (result : RoundObligations) (hkeys : db.VotesReferenceBundles)
    (hload : loadRoundSnapshot P round db = .ok snapshot) (hrows : snapshot.BatchesNameRows)
    (hballot : classifyBallotIntents proposalIds snapshot.intents = .ok ballot)
    (hunits : groupVoteUnits P snapshot snapshot.intents = .ok units)
    (h : classify snapshot units ballot = .ok result) :
    (∀ bundleIndex proposalId choice, (snapshot.delegationPhases.lookup bundleIndex).isSome →
      proposalId ∈ proposalIds → snapshot.intents.lookup proposalId = some (.choice choice) →
        (coveragePlaces snapshot result (bundleIndex, proposalId)).Pairwise (fun p q => ¬ (p ∧ q)) ∧
        ((∀ place ∈ coveragePlaces snapshot result (bundleIndex, proposalId), ¬ place) →
          proposalId ∈ result.withheldCasts)) ∧
    (∀ key, snapshot.position key = .onWire →
      result.obligations.countP (·.reconciles key) = 1) ∧
    ∀ key, snapshot.position key = .confirmed → ∃ missing,
      missingShareIndexes snapshot key.1 key.2 = .ok missing ∧ ∀ shareIndex ∈ missing,
        result.obligations.countP (·.delivers key shareIndex) = 1 := by
  have hbundles := votesOnBundles_of_load hkeys hload
  have hfibres := groupVoteUnits_fibres hrows hunits
  have hgroups := groupVoteUnits_groups hunits
  obtain ⟨planned, c⟩ := classify_classified hfibres hgroups h
  have hchoices := fun proposalId => (choiceProposals_of_choice hballot proposalId).2
  have hseen : ∀ key position, snapshot.position key = position → position ≠ .uncast →
      ∃ vote, snapshot.votes.lookup key = some vote ∧
        LifecyclePosition.of (some vote.phase) = position := by
    rintro key position rfl huncast
    unfold RoundSnapshot.position at huncast ⊢
    cases hvote : snapshot.votes.lookup key with
    | none => simp [hvote, LifecyclePosition.of] at huncast
    | some vote => exact ⟨vote, rfl, rfl⟩
  refine ⟨fun bundleIndex proposalId choice hbundle hmem hintent => ⟨c.places_disjoint hfibres
    hgroups _, c.withheld_of_no_place hfibres hgroups ?_ hintent hbundle⟩, fun key honWire => ?_,
    fun key hconfirmed => ?_⟩
  · exact (hchoices proposalId).mpr ⟨(choiceProposals_of_choice hballot proposalId).1.mpr hmem, choice, hintent⟩
  · obtain ⟨vote, hvote, hposition⟩ := hseen key _ honWire (by simp)
    exact c.chain_eq_one_of_reconciled
      ((c.reconciled_or_delivered hfibres hgroups hchoices hbundles hvote).1 hposition)
  · obtain ⟨vote, hvote, hposition⟩ := hseen key _ hconfirmed (by simp)
    have hdelivered := (c.reconciled_or_delivered hfibres hgroups hchoices hbundles hvote).2 hposition
    obtain ⟨missing, hmissing, hcount⟩ := c.ledger.shares key hdelivered
    refine ⟨missing, hmissing, fun shareIndex hshare => ?_⟩
    rw [c.shares, hcount shareIndex hshare]

/-- The recovery of a vote for choice 0 that was signed on its own, with one helper share. -/
def sharedRecovery (proposalId : Nat) : VoteRecoveryBundle :=
  { sampleVote with
    proposalId
    encryptedShares := [⟨[], [], 0, 1, []⟩]
    shareBlinds := [Bytes32.fill 1]
    batch := none }

/-- A recovery of a batch of two. -/
def batchRecovery (proposalId index : Nat) : VoteRecoveryBundle :=
  { sharedRecovery proposalId with batch := some ⟨none, Bytes32.fill 2, index, 2⟩ }

/-- A vote row of the sample round that the chain has seen. -/
def seenRow (recovery : VoteRecoveryBundle) (position : Option Nat) : VoteRow :=
  ⟨0, none, some sampleHash, position, some recovery⟩

/-- A bundle whose delegation is confirmed. -/
def delegatedBundle : BundleRow :=
  { notePositionsBlob := some [], delegationTxHash := some sampleHash, vanLeafPosition := some 0 }

def sampleVoteKey (bundleIndex proposalId : Nat) : VoteKey :=
  ⟨⟨sampleRound, "wallet", bundleIndex⟩, proposalId⟩

/-- Three chosen proposals on two bundles: on the first, a vote on the wire and a
confirmed one. -/
def coveredDb : Db where
  bundles := AList.insert ⟨sampleRound, "wallet", 0⟩ delegatedBundle
    (AList.insert ⟨sampleRound, "wallet", 1⟩ delegatedBundle ∅)
  votes := AList.insert (sampleVoteKey 0 1) (seenRow (sharedRecovery 1) none)
    (AList.insert (sampleVoteKey 0 2) (seenRow (sharedRecovery 2) (some 5)) ∅)
  ballotIntent := AList.insert (sampleRoundKey, 1) (.choice 0)
    (AList.insert (sampleRoundKey, 2) (.choice 0) (AList.insert (sampleRoundKey, 3) (.choice 0) ∅))

/-- What the snapshot shows of such a row. -/
def seenVote (recovery : VoteRecoveryBundle) (position : Option Int) : VoteSnapshot :=
  ⟨0, if position.isSome then .confirmed else .submitted, some (hex sampleHash.val), position,
    some recovery⟩

def coveredSnapshot : RoundSnapshot where
  roundId := sampleRound
  delegations := [⟨0, .confirmed, none⟩, ⟨1, .confirmed, none⟩]
  bundles := AList.insert 1 ⟨false, some (hex sampleHash.val)⟩
    (AList.insert 0 ⟨false, some (hex sampleHash.val)⟩ ∅)
  votes := AList.insert (0, 2) (seenVote (sharedRecovery 2) (some 5))
    (AList.insert (0, 1) (seenVote (sharedRecovery 1) none) ∅)
  shares := []
  sharePhases := []
  intents := AList.insert 3 (.choice 0) (AList.insert 2 (.choice 0) (AList.insert 1 (.choice 0) ∅))
  lifecycleHashes := {}
  rejectionBlockedBundles := ∅

def coveredBallot : BallotIntentClassification := ⟨[1, 2, 3], [1, 2, 3], [], []⟩

def coveredUnits : List VoteUnit :=
  [singletonUnit 0 1 (seenVote (sharedRecovery 1) none),
    singletonUnit 0 2 (seenVote (sharedRecovery 2) (some 5))]

def coveredObligations : RoundObligations :=
  ⟨[.reconcileChain (.singleton 0 1) 0 [1] false (some (hex sampleHash.val)) none,
    .deliver 0 2 5 [0] none, .cast 1 [⟨1, 0⟩, ⟨2, 0⟩, ⟨3, 0⟩] none false],
    [1, 2, 3], [], [], [], false, [3], []⟩

theorem planner_coverage_covered :
    loadRoundSnapshot samplePrimitives sampleRoundKey coveredDb = .ok coveredSnapshot ∧
      classifyRound samplePrimitives coveredSnapshot [1, 2, 3] = .ok coveredObligations ∧
      coveredObligations.obligations.countP (·.reconciles (0, 1)) = 1 ∧
      3 ∈ coveredObligations.withheldCasts ∧ ∃ missing,
        missingShareIndexes coveredSnapshot 0 2 = .ok missing ∧ ∀ shareIndex ∈ missing,
          coveredObligations.obligations.countP (·.delivers (0, 2) shareIndex) = 1 := by
  obtain ⟨hplaces, honWire, hshares⟩ := planner_coverage samplePrimitives sampleRoundKey coveredDb
    coveredSnapshot [1, 2, 3] coveredBallot coveredUnits coveredObligations (by decide +kernel) rfl
    (by decide +kernel) (by decide +kernel) (by decide +kernel) (by decide +kernel)
  refine ⟨rfl, by decide +kernel, honWire (0, 1) (by decide +kernel), ?_,
    hshares (0, 2) (by decide +kernel)⟩
  refine (hplaces 0 3 0 (by decide +kernel) (by decide) (by decide +kernel)).2 ?_
  simp only [coveragePlaces, List.forall_mem_cons]
  exact ⟨by decide, by decide, by decide +kernel, by decide +kernel, by simp⟩

/-- A batch on the wire whose second recovery, stored with the confirmed vote of proposal 3,
names proposal 1, which has a vote of its own on the wire. -/
def strayRecoveryDb : Db :=
  { coveredDb with
    votes := AList.insert (sampleVoteKey 0 1) (seenRow (sharedRecovery 1) none)
      (AList.insert (sampleVoteKey 0 2) (seenRow (batchRecovery 2 0) none)
        (AList.insert (sampleVoteKey 0 3) (seenRow (batchRecovery 1 1) (some 5)) ∅)) }

/-- The vote on the wire is then in two chain obligations. -/
theorem planner_coverage_stray :
    strayRecoveryDb.VotesReferenceBundles ∧ ∃ snapshot result,
      loadRoundSnapshot samplePrimitives sampleRoundKey strayRecoveryDb = .ok snapshot ∧
        snapshot.position (0, 1) = .onWire ∧
        classifyRound samplePrimitives snapshot [1, 2, 3] = .ok result ∧
        result.obligations.countP (·.reconciles (0, 1)) = 2 := by
  refine ⟨by decide +kernel, { coveredSnapshot with
    votes := AList.insert (0, 3) (seenVote (batchRecovery 1 1) (some 5))
      (AList.insert (0, 2) (seenVote (batchRecovery 2 0) none)
        (AList.insert (0, 1) (seenVote (sharedRecovery 1) none) ∅)) },
    ⟨[.reconcileChain (.singleton 0 1) 0 [1] false (some (hex sampleHash.val)) none,
      .reconcileChain (.batch 0 (Bytes32.fill 2)) 0 [2, 1] false (some (hex sampleHash.val)) none,
      .deliver 0 3 5 [0] none,
      .cast 1 [⟨1, 0⟩, ⟨2, 0⟩, ⟨3, 0⟩] none false], [1, 2, 3], [], [], [], false, [], []⟩,
    rfl, by decide +kernel, by decide +kernel, by decide⟩

end ZcashVoting
