import ZcashVoting.RoundPlanning.LiveVotes
import ZcashVoting.RoundPlanning.Projection
import ZcashVoting.ShareTracking.ImmediateShare

/-!
# ZcashVoting.ShareTracking.PlannedCast

The planner and helper planning read the ballot through different queries.  Where the
planner lets a cast through, helper planning accepts the same ballot: an unrecorded or
unrostered decision counts for neither when, and only when, the chain lifecycle owns it.
-/

namespace ZcashVoting

open Transaction

/-! ## Rosters -/

/-- The checks of a roster do not look at the ballot. -/
theorem classifyBallotIntents_eq_ok {proposalIds : List Nat} {intents : Table Nat BallotIntent}
    {ballot : BallotIntentClassification}
    (h : classifyBallotIntents proposalIds intents = .ok ballot) :
    ballot.roster = proposalIds.insertionSort (· ≤ ·) ∧ proposalIds.Nodup ∧
      (∀ proposalId, proposalId ∈ ballot.choiceProposals ↔
        proposalId ∈ proposalIds ∧ ∃ choice, intents.lookup proposalId = some (.choice choice)) ∧
      (∀ proposalId, proposalId ∈ ballot.openProposals ↔
        proposalId ∈ proposalIds ∧ intents.lookup proposalId = none) ∧
      (∀ proposalId, proposalId ∈ ballot.unrosteredIntents ↔
        proposalId ∉ proposalIds ∧ ∃ decision, intents.lookup proposalId = some decision) ∧
      ∀ decisions, ∃ ballot', classifyBallotIntents proposalIds decisions = .ok ballot' := by
  simp only [classifyBallotIntents, except_bind_eq_ok, except_pure_eq_ok] at h
  obtain ⟨u, hroster, rfl⟩ := h
  refine ⟨rfl, (nodup_of_validateRoster hroster).1, fun proposalId => ?_, fun proposalId => ?_,
    fun proposalId => ?_, fun decisions => ?_⟩
  · simp only [List.mem_filter, List.mem_insertionSort]
    refine and_congr_right fun _ => ?_
    cases intents.lookup proposalId with
    | none => simp
    | some decision => cases decision <;> simp
  · simp [List.mem_filter, List.mem_insertionSort]
  · simp only [List.mem_filter, List.mem_map, Prod.exists, exists_and_right, exists_eq_right,
      Table.mem_ascending, List.mem_insertionSort, decide_eq_true_eq]
    exact and_comm
  · simp only [classifyBallotIntents, except_bind_eq_ok, except_pure_eq_ok]
    exact ⟨_, u, hroster, rfl⟩

/-- A sorted roster is picked out of the sorted keys of a ballot that decides all of it. -/
theorem roster_eq_filter_keys {proposalIds : List Nat} (hnodup : proposalIds.Nodup)
    {decisions : Table Nat BallotIntent}
    (hdecided : ∀ proposalId ∈ proposalIds, ∃ decision, decisions.lookup proposalId = some decision) :
    proposalIds.insertionSort (· ≤ ·) =
      ((decisions.ascending (· ≤ ·)).map (·.1)).filter (· ∈ proposalIds.insertionSort (· ≤ ·)) := by
  have hkeys : ((decisions.ascending (· ≤ ·)).map (·.1)).Nodup :=
    ((List.perm_insertionSort _ _).map _).nodup_iff.mpr decisions.nodup_rows_keys
  have hsorted : ((decisions.ascending (· ≤ ·)).map (·.1)).Pairwise (· ≤ ·) :=
    List.pairwise_map.mpr (List.pairwise_insertionSort (fun a b : Nat × BallotIntent => a.1 ≤ b.1) _)
  refine List.Perm.eq_of_pairwise' (r := (· ≤ ·)) (List.pairwise_insertionSort _ _)
    (hsorted.sublist List.filter_sublist) ?_
  refine (List.perm_ext_iff_of_nodup ((List.perm_insertionSort _ _).nodup_iff.mpr hnodup)
    (hkeys.filter _)).mpr fun proposalId => ?_
  simp only [List.mem_filter, List.mem_map, Prod.exists, exists_and_right, exists_eq_right,
    Table.mem_ascending, List.mem_insertionSort, decide_eq_true_eq]
  exact ⟨fun hmem => ⟨hdecided proposalId hmem, hmem⟩, And.right⟩

/-! ## Durable decisions -/

section

variable {P : Primitives} {round : RoundKey} {db : Db}

/-- One status records at most the decision of its own vote. -/
theorem withOwnedChoice_lookup (decisions : Table Nat BallotIntent) (status : VoteSubmissionStatus)
    (proposalId : Nat) :
    (withOwnedChoice round db decisions status).lookup proposalId = decisions.lookup proposalId ∨
      (decisions.lookup proposalId = none ∧ status.proposalId = proposalId ∧
        status.phase.isLifecycleOwned = true) := by
  unfold withOwnedChoice
  split
  · exact .inl rfl
  · next hfree =>
    rw [Bool.not_eq_true, Bool.or_eq_false_iff, Option.isSome_eq_false_iff,
      Option.isNone_iff_eq_none, Bool.not_eq_false'] at hfree
    split
    · rw [Table.lookup_insert_eq]
      split
      · next heq =>
        subst heq
        exact .inr ⟨hfree.1, rfl, hfree.2⟩
      · exact .inl rfl
    · exact .inl rfl

/-- Recorded intents stand, and every other decision is that of a lifecycle-owned vote. -/
theorem foldl_withOwnedChoice (round : RoundKey) (db : Db) (statuses : List VoteSubmissionStatus)
    (decisions : Table Nat BallotIntent) (proposalId : Nat) :
    (∀ decision, decisions.lookup proposalId = some decision →
      (statuses.foldl (withOwnedChoice round db) decisions).lookup proposalId = some decision) ∧
    (decisions.lookup proposalId = none →
      (statuses.foldl (withOwnedChoice round db) decisions).lookup proposalId ≠ none →
        ∃ status ∈ statuses, status.proposalId = proposalId ∧
          status.phase.isLifecycleOwned = true) := by
  induction statuses generalizing decisions with
  | nil => exact ⟨fun _ h => h, fun h hne => absurd h hne⟩
  | cons status statuses ih =>
    rw [List.foldl_cons]
    obtain ⟨hkeep, hnew⟩ := ih (withOwnedChoice round db decisions status)
    obtain heq | ⟨hnone, hproposal, howned⟩ := withOwnedChoice_lookup decisions status proposalId
    · rw [heq] at hkeep hnew
      refine ⟨hkeep, fun hnone hne => ?_⟩
      obtain ⟨other, hmem, hother⟩ := hnew hnone hne
      exact ⟨other, List.mem_cons_of_mem _ hmem, hother⟩
    · exact ⟨fun decision h => by simp [hnone] at h,
        fun _ _ => ⟨status, List.mem_cons_self, hproposal, howned⟩⟩

/-- Where every decision outside the roster is lifecycle-owned, the roster is durable. -/
theorem durableRoster_eq_ok {roster proposalIds : List Nat}
    (h : ∀ proposalId ∈ proposalIds, proposalId ∉ roster →
      intentIsLifecycleOwned P round proposalId db = .ok true) :
    durableRoster P round roster db proposalIds = .ok (proposalIds.filter (· ∈ roster)) := by
  induction proposalIds with
  | nil => rfl
  | cons proposalId proposalIds ih =>
    rw [durableRoster, ih fun other hmem => h other (List.mem_cons_of_mem _ hmem), countsForRoster]
    by_cases hroster : proposalId ∈ roster
    · simp [hroster]
    · simp [hroster, h proposalId List.mem_cons_self hroster]

/-- A decision of helper planning is recorded, or that of a lifecycle-owned vote. -/
theorem durableDecisions_eq_ok {statuses : List VoteSubmissionStatus}
    (hstatuses : voteSubmissionStatuses P round db = .ok statuses) : ∃ decisions,
      durableDecisions P round db = .ok decisions ∧
        (∀ proposalId decision, db.ballotIntent.lookup (round, proposalId) = some decision →
          decisions.lookup proposalId = some decision) ∧
        ∀ proposalId decision, decisions.lookup proposalId = some decision →
          db.ballotIntent.lookup (round, proposalId) = some decision ∨
            ∃ status ∈ statuses, status.proposalId = proposalId ∧
              status.phase.isLifecycleOwned = true := by
  refine ⟨statuses.foldl (withOwnedChoice round db) (loadBallotIntents round db), ?_, ?_, ?_⟩
  · simp [durableDecisions, hstatuses]
  · intro proposalId decision h
    rw [← lookup_loadBallotIntents] at h
    exact (foldl_withOwnedChoice round db statuses _ proposalId).1 decision h
  · intro proposalId decision h
    obtain ⟨hkeep, hnew⟩ := foldl_withOwnedChoice round db statuses (loadBallotIntents round db) proposalId
    cases hintent : (loadBallotIntents round db).lookup proposalId with
    | none => exact .inr (hnew hintent (by simp [h]))
    | some recorded =>
      rw [hkeep recorded hintent] at h
      rw [lookup_loadBallotIntents] at hintent
      exact .inl (hintent.trans h)

/-- Under a terminal roster a decision outside it belongs to a vote the lifecycle owns. -/
theorem lifecycleOwned_of_unrostered {proposalIds : List Nat} {snapshot : RoundSnapshot}
    {ballot : BallotIntentClassification} {decisions : Table Nat BallotIntent}
    (hload : loadRoundSnapshot P round db = .ok snapshot)
    (hballot : classifyBallotIntents proposalIds snapshot.intents = .ok ballot)
    (hterminal : clearableIntents snapshot ballot = [])
    (hdecisions : durableDecisions P round db = .ok decisions) {proposalId : Nat}
    {decision : BallotIntent} (hdecision : decisions.lookup proposalId = some decision)
    (houtside : proposalId ∉ proposalIds) :
    intentIsLifecycleOwned P round proposalId db = .ok true := by
  obtain ⟨-, hintents, statuses, hstatuses, hvotes⟩ := loadRoundSnapshot_eq_ok hload
  obtain ⟨_, hdecisions', -, hnew⟩ := durableDecisions_eq_ok hstatuses
  obtain rfl := Except.ok.inj (hdecisions'.symm.trans hdecisions)
  obtain ⟨-, -, -, -, hunrostered, -⟩ := classifyBallotIntents_eq_ok hballot
  obtain ⟨owned, howned, hiff⟩ := intentIsLifecycleOwned_of_statuses hstatuses proposalId
  rw [howned, hiff.mpr]
  obtain hintent | hstatus := hnew proposalId decision hdecision
  · -- the planner left the intent out of the clearable ones
    have hnot : proposalId ∉ clearableIntents snapshot ballot := by simp [hterminal]
    have hlookup : snapshot.intents.lookup proposalId = some decision := by
      rw [hintents, lookup_loadBallotIntents, hintent]
    rw [clearableIntents, List.mem_filter, hunrostered, Bool.not_eq_true'] at hnot
    have hlifecycle : proposalIsLifecycleOwned snapshot proposalId = true := by
      by_contra hfree
      exact hnot ⟨⟨houtside, decision, hlookup⟩, by simpa using hfree⟩
    obtain ⟨⟨bundleIndex, other⟩, vote, hvote, hphase⟩ := Table.any_eq_true.mp hlifecycle
    rw [Bool.and_eq_true, decide_eq_true_eq] at hphase
    obtain ⟨rfl, hphase⟩ := hphase
    obtain ⟨-, -, -, -, -, -, status, hstatus, -, hproposal, heq⟩ := voteSnapshots_lookup hvotes hvote
    exact ⟨status, hstatus, hproposal, by rwa [heq]⟩
  · exact hstatus

/-- Helper planning accepts every ballot that is terminal for the planner. -/
theorem checkHelperBallot_of_terminal {proposalIds : List Nat} {proposalId : Nat}
    {snapshot : RoundSnapshot} {ballot : BallotIntentClassification}
    (hload : loadRoundSnapshot P round db = .ok snapshot)
    (hballot : classifyBallotIntents proposalIds snapshot.intents = .ok ballot)
    (hterminal : rosterIsTerminal snapshot ballot = true)
    (hchosen : proposalId ∈ ballot.choiceProposals) : ∃ classification,
      checkHelperBallot P round proposalId proposalIds db = .ok classification ∧
        classification.openProposals = [] ∧ proposalId ∈ classification.choiceProposals := by
  obtain ⟨-, hintents, statuses, hstatuses, -⟩ := loadRoundSnapshot_eq_ok hload
  obtain ⟨decisions, hdecisions, hkeep, -⟩ := durableDecisions_eq_ok hstatuses
  obtain ⟨-, hnodup, hchoice, -, -, hclassify⟩ := classifyBallotIntents_eq_ok hballot
  obtain ⟨classification, hclassification⟩ := hclassify decisions
  obtain ⟨hroster, -, hchoice', hopen, -, -⟩ := classifyBallotIntents_eq_ok hclassification
  rw [rosterIsTerminal, Bool.and_eq_true, List.isEmpty_iff, List.isEmpty_iff] at hterminal
  have hdecided : ∀ proposalId ∈ proposalIds, ∃ decision,
      decisions.lookup proposalId = some decision := by
    intro proposalId hmem
    obtain ⟨decision, hdecision⟩ := exists_intent_of_openProposals hballot hterminal.1 hmem
    rw [hintents, lookup_loadBallotIntents] at hdecision
    exact ⟨decision, hkeep proposalId decision hdecision⟩
  have hnone : classification.openProposals = [] := by
    rw [List.eq_nil_iff_forall_not_mem]
    intro other hother
    obtain ⟨hother, hundecided⟩ := (hopen other).mp hother
    obtain ⟨decision, hdecision⟩ := hdecided other hother
    simp [hdecision] at hundecided
  have hdurable : durableRoster P round classification.roster db
      ((decisions.ascending (· ≤ ·)).map (·.1)) = .ok classification.roster := by
    rw [durableRoster_eq_ok, hroster, ← roster_eq_filter_keys hnodup hdecided]
    intro other hother houtside
    obtain ⟨⟨_, decision⟩, hentry, rfl⟩ := List.mem_map.mp hother
    exact lifecycleOwned_of_unrostered hload hballot hterminal.2 hdecisions
      (Table.mem_ascending.mp hentry) (by simpa [hroster] using houtside)
  obtain ⟨hmem, choice, hlookup⟩ := (hchoice proposalId).mp hchosen
  rw [hintents, lookup_loadBallotIntents] at hlookup
  have hdecision := hkeep proposalId _ hlookup
  have hne : proposalIds ≠ [] := List.ne_nil_of_mem hmem
  refine ⟨classification, ?_, hnone, (hchoice' proposalId).mpr ⟨hmem, choice, hdecision⟩⟩
  simp only [checkHelperBallot, except_bind_eq_ok, check_eq_ok, except_pure_eq_ok]
  exact ⟨(), by simpa using hne, decisions, hdecisions, classification, hclassification, (),
    by simp [hnone], classification.roster, hdurable, (), by simp, (), by simp [hdecision], rfl⟩

end

/-! ## Casts of a plan -/

/-- The steps of a plan are those of the obligations, in the order of their ranks. -/
theorem project_nextSteps {snapshot : RoundSnapshot} {proposalIds : List Nat}
    {obligations : RoundObligations} {plan : RoundPlan}
    (h : project snapshot proposalIds obligations = .ok plan) : ∃ steps,
      stepsFromObligations obligations.obligations = .ok steps ∧ plan.nextSteps = sortSteps steps := by
  simp only [project, except_bind_eq_ok, except_pure_eq_ok] at h
  obtain ⟨steps, hsteps, _, -, _, -, rfl⟩ := h
  exact ⟨steps, hsteps, rfl⟩

/-- A cast step comes from the draft of a cast. -/
theorem exists_draft_of_castVote {obligation : Obligation} {own : List NextStep}
    {bundleIndex proposalId choice : Nat} (h : stepsOf obligation = .ok own)
    (hcast : .castVote bundleIndex proposalId choice ∈ own) :
    ∃ drafts prerequisite signsDelegation,
      obligation = .cast bundleIndex drafts prerequisite signsDelegation ∧
        ⟨proposalId, choice⟩ ∈ drafts := by
  unfold stepsOf at h
  split at h
  case h_4 bundle drafts prerequisite signsDelegation =>
    cases h
    obtain ⟨draft, hdraft, heq⟩ := List.mem_map.mp hcast
    cases heq
    exact ⟨drafts, prerequisite, signsDelegation, rfl, hdraft⟩
  case h_6 =>
    obtain ⟨_, -, h⟩ := except_bind_eq_ok.mp h
    cases h
    simp at hcast
  all_goals
    cases h
    simp at hcast

/-- **A planned cast passes the ballot checks of helper planning.**  If the plan of a round
casts a proposal on a bundle, then helper planning with the same roster on the same state
gets past its ballot checks for that vote: the roster is fully decided and the proposal is
one of its choices. -/
theorem planned_cast_passes_ballot_checks (P : Primitives) (round : RoundKey)
    (proposalIds : List Nat) (db : Db) (plan : RoundPlan) (bundleIndex proposalId choice : Nat)
    (payloads : List SharePayload) (hplan : planRound P round proposalIds db = .ok plan)
    (hcast : .castVote bundleIndex proposalId choice ∈ plan.nextSteps) :
    ∃ classification, checkHelperBallot P round proposalId proposalIds db = .ok classification ∧
      classification.openProposals = [] ∧ proposalId ∈ classification.choiceProposals ∧
        deriveImmediateShare P round bundleIndex proposalId proposalIds payloads db =
          designateShare round bundleIndex proposalId payloads classification db := by
  simp only [planRound, planRoundClassified, except_bind_eq_ok, except_pure_eq_ok] at hplan
  obtain ⟨_, ⟨snapshot, hload, result, hclassify, _, hproject, rfl⟩, rfl⟩ := hplan
  obtain ⟨steps, hsteps, hsorted⟩ := project_nextSteps hproject
  rw [hsorted, sortSteps, List.mem_insertionSort] at hcast
  obtain ⟨obligation, hobligation, own, hown, hcast⟩ := exists_obligation_of_step hsteps hcast
  obtain ⟨drafts, prerequisite, signsDelegation, rfl, hdraft⟩ := exists_draft_of_castVote hown hcast
  obtain hempty | ⟨ballot, units, hballot, -, hclassified⟩ := classifyRound_eq_ok hclassify
  · simp [hempty] at hobligation
  obtain ⟨-, hterminal, hchosen⟩ := (classify_eq_ok hclassified).2.2 _ _ _ _ hobligation
  obtain ⟨classification, hcheck, hopen, hchoice⟩ :=
    checkHelperBallot_of_terminal hload hballot hterminal (hchosen _ hdraft)
  refine ⟨classification, hcheck, hopen, hchoice, ?_⟩
  rw [deriveImmediateShare, read_bind_of_ok hcheck]

/-- A round with one bundle set up by the wallet and a ballot that chooses option 0 of its
only proposal. -/
def sampleBallotDb : Db :=
  { rounds := AList.insert sampleRoundKey ⟨.testnet, [], .initialized, none⟩ ∅
    bundles := AList.insert ⟨sampleRound, "wallet", 0⟩ { notePositionsBlob := some [] } ∅
    ballotIntent := AList.insert (sampleRoundKey, 1) (.choice 0) ∅ }

theorem planned_cast_passes_ballot_checks_fresh : ∃ plan,
    planRound samplePrimitives sampleRoundKey [1] sampleBallotDb = .ok plan ∧
      .castVote 0 1 0 ∈ plan.nextSteps ∧ ∃ classification,
        checkHelperBallot samplePrimitives sampleRoundKey 1 [1] sampleBallotDb =
            .ok classification ∧
          classification.openProposals = [] ∧ 1 ∈ classification.choiceProposals ∧
            deriveImmediateShare samplePrimitives sampleRoundKey 0 1 [1] [] sampleBallotDb =
              designateShare sampleRoundKey 0 1 [] classification sampleBallotDb := by
  have hany : (planRound samplePrimitives sampleRoundKey [1] sampleBallotDb).toOption.any
      (fun plan => decide (.castVote 0 1 0 ∈ plan.nextSteps)) = true := by decide +kernel
  cases hplan : planRound samplePrimitives sampleRoundKey [1] sampleBallotDb with
  | error e => simp [hplan, Except.toOption] at hany
  | ok plan =>
    have hcast : .castVote 0 1 0 ∈ plan.nextSteps := by
      simpa [hplan, Except.toOption] using hany
    exact ⟨plan, rfl, hcast,
      planned_cast_passes_ballot_checks _ _ _ _ plan 0 1 0 [] hplan hcast⟩

end ZcashVoting
