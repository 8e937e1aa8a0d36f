import ZcashVoting.ChainSubmission.Store.Runs
import ZcashVoting.RoundPlanning.Classify

/-!
# ZcashVoting.RoundPlanning.LiveVotes

A fresh cast spends the bundle's current voting authority note, so it is planned only
where no live vote can still spend it.  No single branch of the rule table checks this:
drafts are made bundle by bundle against the held bundles, which are collected from all
votes, and the votes left out of that collection are the ones the ballot contradicts or
the roster retires.
-/

namespace ZcashVoting

open Transaction

/-- The obligation is a fresh cast. -/
def Obligation.isCast : Obligation → Bool
  | .cast _ _ _ _ => true
  | _ => false

/-- Prerequisites turn casts into casts of the same drafts and nothing else into one. -/
theorem Obligation.withPrerequisite_eq_cast {delegationBundles : List Nat}
    {obligation : Obligation} {bundleIndex : Nat} {drafts : List CastDraft}
    {prerequisite : Option Nat} {signsDelegation : Bool}
    (h : obligation.withPrerequisite delegationBundles =
      .cast bundleIndex drafts prerequisite signsDelegation) :
    ∃ before, obligation = .cast bundleIndex drafts before signsDelegation := by
  cases obligation <;> simp_all [withPrerequisite]

/-- The drafts of one bundle. -/
def ClassifyPass.draftsOf (pass : ClassifyPass) (bundleIndex : Nat) : List CastDraft :=
  (pass.drafts.lookup bundleIndex).getD []

section

variable {snapshot : RoundSnapshot} {units : List VoteUnit} {ballot : BallotIntentClassification}
  {bundleIndex proposalId : Nat} {result : RoundObligations} {vote : VoteSnapshot}
  {roster : List Nat}

/-- What a pass may do: add obligations other than casts, and draft only chosen proposals
for a bundle that is not held, under a terminal roster. -/
structure PassStep (snapshot : RoundSnapshot) (units : List VoteUnit)
    (ballot : BallotIntentClassification) (before after : ClassifyPass) : Prop where
  obligations : ∃ added, after.obligations = before.obligations ++ added ∧
    ∀ obligation ∈ added, obligation.isCast = false
  drafts : ∀ bundleIndex, (after.drafts.lookup bundleIndex).isSome →
    (before.drafts.lookup bundleIndex).isSome ∨
      (bundleIndex ∉ heldBundles snapshot units ballot.roster ∧
        rosterIsTerminal snapshot ballot = true)
  chosen : ∀ bundleIndex, ∀ draft ∈ after.draftsOf bundleIndex,
    draft ∈ before.draftsOf bundleIndex ∨ draft.proposalId ∈ ballot.choiceProposals

namespace PassStep

instance : Std.Refl (PassStep snapshot units ballot) :=
  ⟨fun _ => ⟨⟨[], by simp⟩, fun _ h => .inl h, fun _ _ h => .inl h⟩⟩

instance : IsTrans ClassifyPass (PassStep snapshot units ballot) where
  trans _ _ _ first second := by
    obtain ⟨added, hadded, hfirst⟩ := first.obligations
    obtain ⟨added', hadded', hsecond⟩ := second.obligations
    refine ⟨⟨added ++ added', by rw [hadded', hadded, List.append_assoc], ?_⟩, ?_, ?_⟩
    · intro obligation hmem
      exact (List.mem_append.mp hmem).elim (hfirst obligation) (hsecond obligation)
    · intro bundleIndex h
      exact (second.drafts bundleIndex h).elim (first.drafts bundleIndex) .inr
    · intro bundleIndex draft h
      exact (second.chosen bundleIndex draft h).elim (first.chosen bundleIndex draft) .inr

/-- A statement that adds obligations other than casts and leaves the drafts. -/
theorem of_added {before after : ClassifyPass} {added : List Obligation}
    (hobligations : after.obligations = before.obligations ++ added)
    (hadded : ∀ obligation ∈ added, obligation.isCast = false)
    (hdrafts : after.drafts = before.drafts) : PassStep snapshot units ballot before after := by
  refine ⟨⟨added, hobligations, hadded⟩, fun bundleIndex h => ?_, fun bundleIndex draft h => ?_⟩
  · exact .inl (by rwa [hdrafts] at h)
  · exact .inl (by rwa [ClassifyPass.draftsOf, hdrafts] at h)

/-- A statement that writes only the bookkeeping sets. -/
theorem of_same {before after : ClassifyPass} (hobligations : after.obligations = before.obligations)
    (hdrafts : after.drafts = before.drafts) : PassStep snapshot units ballot before after :=
  .of_added (by rw [hobligations, List.append_nil]) (List.forall_mem_nil _) hdrafts

end PassStep

/-! ## One pass at a time -/

theorem withhold_step (proposalId : Nat) :
    Within (PassStep snapshot units ballot) (withhold proposalId) :=
  Within.write fun _ _ h => by
    cases h
    exact .of_same rfl rfl

theorem reconcile_step (unit : VoteUnit) :
    Within (PassStep snapshot units ballot) (reconcile snapshot unit) := by
  refine (Within.read _).bind fun _ => Within.write fun before after h => ?_
  cases h
  split
  · exact refl_of _ _
  · exact .of_added rfl (by simp [reconcileObligation, Obligation.isCast]) rfl

theorem deliverObligations_isCast {owed : List Obligation}
    (h : deliverObligations snapshot bundleIndex proposalId = .ok owed) :
    ∀ obligation ∈ owed, obligation.isCast = false := by
  simp only [deliverObligations, except_bind_eq_ok] at h
  obtain ⟨shareIndexes, -, h⟩ := h
  cases shareIndexes with
  | nil =>
    cases h
    simp
  | cons shareIndex shareIndexes =>
    simp only [except_bind_eq_ok] at h
    obtain ⟨position, -, h⟩ := h
    cases position with
    | none => simp at h
    | some vcTreePosition =>
      cases h
      simp [Obligation.isCast]

theorem deliver_step (bundleIndex proposalId : Nat) :
    Within (PassStep snapshot units ballot) (deliver snapshot bundleIndex proposalId) := by
  refine Within.write fun before after h => ?_
  split at h
  · cases h
    exact refl_of _ _
  · obtain ⟨owed, howed, h⟩ := except_bind_eq_ok.mp h
    cases h
    exact .of_added rfl (deliverObligations_isCast howed) rfl

theorem planCast_step (hchosen : proposalId ∈ ballot.choiceProposals)
    (intentChoice bundleIndex : Nat) :
    Within (PassStep snapshot units ballot)
      (planCast snapshot units ballot proposalId intentChoice bundleIndex) := by
  unfold planCast
  by_cases hheld : bundleIndex ∈ heldBundles snapshot units ballot.roster
  · rw [if_pos hheld]
    exact withhold_step proposalId
  rw [if_neg hheld]
  refine Within.bind (Within.write fun before after h => ?_) fun _ => ?_
  · cases h
    exact .of_same rfl rfl
  split
  · exact withhold_step proposalId
  split
  · next hterminal =>
    refine Within.write fun before after h => ?_
    cases h
    refine ⟨⟨[], by simp⟩, fun drafted hdrafted => ?_, fun drafted draft hdraft => ?_⟩
    · rw [Table.lookup_insert_eq] at hdrafted
      split at hdrafted
      · next hbundle =>
        rw [hbundle]
        exact .inr ⟨hheld, hterminal⟩
      · exact .inl hdrafted
    · rw [ClassifyPass.draftsOf, Table.lookup_insert_eq] at hdraft
      split at hdraft
      · next hbundle =>
        rw [Option.getD_some, List.mem_append, List.mem_singleton] at hdraft
        obtain hdraft | rfl := hdraft
        · exact .inl (by rwa [hbundle])
        · exact .inr hchosen
      · exact .inl hdraft
  · refine Within.bind (Within.write fun before after h => ?_) fun _ => withhold_step proposalId
    cases h
    exact .of_same rfl rfl

theorem planAgreeing_step (proposalId bundleIndex : Nat) (vote : VoteSnapshot) :
    Within (PassStep snapshot units ballot)
      (planAgreeing snapshot units ballot proposalId bundleIndex vote) := by
  unfold planAgreeing
  split
  · exact deliver_step bundleIndex proposalId
  · refine (Within.read _).bind fun unit => ?_
    split
    · exact reconcile_step unit
    · exact withhold_step proposalId
  · exact (Within.read _).bind reconcile_step
  · exact Within.pure ()
  · exact Within.pure ()

theorem planProposal_step (hchosen : proposalId ∈ ballot.choiceProposals) :
    Within (PassStep snapshot units ballot) (planProposal snapshot units ballot proposalId) := by
  unfold planProposal
  split
  · refine Within.forM (fun entry => ?_) _
    unfold planVote
    split
    · exact planCast_step hchosen _ _
    · split
      · exact planAgreeing_step _ _ _
      · exact Within.abort _
  · exact Within.pure ()

theorem advanceVote_step (entry : (Nat × Nat) × VoteSnapshot) :
    Within (PassStep snapshot units ballot) (advanceVote snapshot units ballot entry) := by
  obtain ⟨⟨bundleIndex, proposalId⟩, vote⟩ := entry
  unfold advanceVote
  dsimp only
  split
  · exact Within.pure ()
  split
  · exact (Within.read _).bind reconcile_step
  · exact deliver_step bundleIndex proposalId
  all_goals exact Within.pure ()

theorem planVotes_step :
    Within (PassStep snapshot units ballot) (planVotes snapshot units ballot) :=
  (Within.forM_of_mem fun _ hchosen => planProposal_step hchosen).bind fun _ =>
    Within.forM advanceVote_step _

/-! ## The passes over bundles -/

/-- Work that is neither a cast nor the work of a vote: of a delegation, of the ballot or
of a share already sent. -/
def Obligation.isBundleWork : Obligation → Bool
  | .cast _ _ _ _ | .reconcileChain _ _ _ _ _ _ | .deliver _ _ _ _ _ => false
  | _ => true

/-- What the passes over bundles may do after the casts are added. -/
structure BundleStep (before after : ClassifyPass) : Prop where
  obligations : ∃ added, after.obligations = before.obligations ++ added ∧
    ∀ obligation ∈ added, obligation.isBundleWork = true
  withheld : after.withheldCasts = before.withheldCasts

instance : Std.Refl BundleStep := ⟨fun _ => ⟨⟨[], by simp⟩, rfl⟩⟩

instance : IsTrans ClassifyPass BundleStep where
  trans _ _ _ first second := by
    obtain ⟨added, hadded, hfirst⟩ := first.obligations
    obtain ⟨added', hadded', hsecond⟩ := second.obligations
    refine ⟨⟨added ++ added', by rw [hadded', hadded, List.append_assoc], ?_⟩,
      second.withheld.trans first.withheld⟩
    intro obligation hmem
    exact (List.mem_append.mp hmem).elim (hfirst obligation) (hsecond obligation)

theorem advanceDelegation_bundleStep (entry : Nat × DelegationPhase) :
    Within BundleStep (advanceDelegation snapshot entry) := by
  obtain ⟨bundleIndex, phase⟩ := entry
  unfold advanceDelegation
  dsimp only
  split
  · exact Within.pure ()
  cases phase
  case submitted | submissionManaged =>
    dsimp only
    split
    · exact Within.abort _
    · refine Within.write fun before after h => ?_
      cases h
      exact ⟨⟨_, rfl, by simp [Obligation.isBundleWork]⟩, rfl⟩
  case prepared | pcztBuilt =>
    refine Within.write fun before after h => ?_
    cases h
    split
    · exact ⟨⟨_, rfl, by simp [Obligation.isBundleWork]⟩, rfl⟩
    · exact refl_of _ _
  all_goals exact Within.pure ()

theorem confirmObligation_isBundleWork {entry : Nat × Nat × Nat × SharePhase}
    {obligation : Obligation} (h : confirmObligation snapshot entry = some obligation) :
    obligation.isBundleWork = true := by
  obtain ⟨bundleIndex, proposalId, shareIndex, phase⟩ := entry
  cases phase <;> simp only [confirmObligation, Option.ite_none_left_eq_some] at h
  · obtain ⟨-, h⟩ := h
    cases h
    rfl
  · simp at h

/-- The passes over bundles add the casts of the drafts and no other vote work. -/
theorem planBundles_obligations {before after : ClassifyPass}
    (h : planBundles snapshot ballot before = .ok ((), after)) :
    after.withheldCasts = before.withheldCasts ∧ ∃ added,
      after.obligations = before.obligations ++
        (before.drafts.ascending (· ≤ ·)).flatMap (castObligations snapshot) ++ added ∧
        ∀ obligation ∈ added, obligation.isBundleWork = true := by
  obtain ⟨_, cast, hcast, h⟩ := bind_eq_ok.mp h
  cases write_eq_ok.mp hcast
  have hrest : Within BundleStep
      (do
        ForM.forM (snapshot.delegationPhases.ascending (· ≤ ·)) (advanceDelegation snapshot)
        write fun pass => .ok { pass with
          obligations := pass.obligations ++
            snapshot.sharePhases.filterMap (confirmObligation snapshot) } :
        Txn ClassifyPass VotingError Unit) := by
    refine (Within.forM advanceDelegation_bundleStep _).bind fun _ => Within.write fun _ _ h => ?_
    cases h
    refine ⟨⟨_, rfl, fun obligation hmem => ?_⟩, rfl⟩
    obtain ⟨entry, -, hconfirm⟩ := List.mem_filterMap.mp hmem
    exact confirmObligation_isBundleWork hconfirm
  obtain ⟨⟨added, hadded, hwork⟩, hwithheld⟩ := hrest _ _ _ h
  refine ⟨hwithheld, _, by rw [hadded, List.append_assoc _ _ added], fun obligation hmem => ?_⟩
  obtain hmem | hmem := List.mem_append.mp hmem
  · obtain ⟨bundleIndex, -, rfl⟩ := List.mem_map.mp hmem
    rfl
  · exact hwork obligation hmem

/-! ## Casts of a classified round -/

/-- The passes over bundles keep every obligation and cast exactly the drafts. -/
theorem planBundles_eq_ok {before after : ClassifyPass}
    (h : planBundles snapshot ballot before = .ok ((), after)) :
    (∀ obligation ∈ before.obligations, obligation ∈ after.obligations) ∧
      ∀ bundleIndex drafts prerequisite signsDelegation,
        .cast bundleIndex drafts prerequisite signsDelegation ∈ after.obligations →
          .cast bundleIndex drafts prerequisite signsDelegation ∈ before.obligations ∨
            before.drafts.lookup bundleIndex = some drafts := by
  obtain ⟨-, added, hadded, hwork⟩ := planBundles_obligations h
  rw [hadded]
  constructor
  · intro obligation hmem
    simp [hmem]
  intro bundleIndex drafts prerequisite signsDelegation hcast
  simp only [List.mem_append, List.mem_flatMap] at hcast
  obtain (hcast | ⟨entry, hdrafts, hcast⟩) | hcast := hcast
  · exact .inl hcast
  · simp only [castObligations, atomicVoteBatchesEnabled, if_true, List.mem_singleton,
      Obligation.cast.injEq] at hcast
    obtain ⟨rfl, rfl, -⟩ := hcast
    exact .inr (Table.mem_ascending.mp hdrafts)
  · simpa [Obligation.isBundleWork] using hwork _ hcast

/-- What a successful classification casts and retires. -/
theorem classify_eq_ok (h : classify snapshot units ballot = .ok result) :
    ensureNoSubmittedVoteConflict snapshot = .ok () ∧
      (∀ unit ∈ units, unit.retires ballot.roster = true →
        .retire unit.id unit.proposalIds ∈ result.obligations) ∧
      ∀ bundleIndex drafts prerequisite signsDelegation,
        .cast bundleIndex drafts prerequisite signsDelegation ∈ result.obligations →
          bundleIndex ∉ heldBundles snapshot units ballot.roster ∧
            rosterIsTerminal snapshot ballot = true ∧
              ∀ draft ∈ drafts, draft.proposalId ∈ ballot.choiceProposals := by
  simp only [classify, except_bind_eq_ok, except_pure_eq_ok] at h
  obtain ⟨_, hconflict, ⟨_, planned⟩, hplanned, ⟨_, pass⟩, hpass, rfl⟩ := h
  obtain ⟨⟨added, hadded, hnone⟩, hdrafts, hchosen⟩ := planVotes_step _ _ _ hplanned
  obtain ⟨hkept, hcasts⟩ := planBundles_eq_ok hpass
  refine ⟨hconflict, fun unit hunit hretires => ?_, fun bundleIndex drafts _ _ hcast => ?_⟩
  · refine List.mem_map.mpr ⟨_, hkept (.retire unit.id unit.proposalIds) ?_, rfl⟩
    rw [hadded]
    refine List.mem_append_left _ (List.mem_map.mpr ⟨unit, ?_, rfl⟩)
    exact List.mem_filter.mpr ⟨hunit, hretires⟩
  · obtain ⟨obligation, hmem, hobligation⟩ := List.mem_map.mp hcast
    obtain ⟨before, rfl⟩ := Obligation.withPrerequisite_eq_cast hobligation
    obtain hbefore | hdrafted := hcasts _ _ _ _ hmem
    · -- before the casts are added there are only retirements and vote work
      rw [hadded, List.mem_append] at hbefore
      obtain hretire | hmem := hbefore
      · simp [retirements] at hretire
      · simpa [Obligation.isCast] using hnone _ hmem
    · obtain ⟨hheld, hterminal⟩ := (hdrafts bundleIndex (by simp [hdrafted])).resolve_left (by simp)
      refine ⟨hheld, hterminal, fun draft hdraft => ?_⟩
      refine (hchosen bundleIndex draft ?_).resolve_left (by simp [ClassifyPass.draftsOf])
      rwa [ClassifyPass.draftsOf, hdrafted]

/-! ## Held bundles -/

theorem mem_staleVoteKeys (hvote : snapshot.votes.lookup (bundleIndex, proposalId) = some vote) :
    (bundleIndex, proposalId) ∈ staleVoteKeys snapshot ↔
      ballotRelation snapshot.intents proposalId vote.choice = .conflicts := by
  simp only [staleVoteKeys, List.mem_map, List.mem_filter, RoundSnapshot.votesInOrder,
    decide_eq_true_eq]
  constructor
  · rintro ⟨⟨key, stored⟩, ⟨hmem, hconflicts⟩, rfl⟩
    obtain rfl : stored = vote := by simpa [Table.mem_ascending.mp hmem] using hvote
    exact hconflicts
  · intro hconflicts
    exact ⟨_, ⟨Table.mem_ascending.mpr hvote, hconflicts⟩, rfl⟩

theorem mem_retirableVoteKeys :
    (bundleIndex, proposalId) ∈ retirableVoteKeys units roster ↔
      ∃ unit ∈ units, unit.retires roster = true ∧ unit.bundleIndex = bundleIndex ∧
        proposalId ∈ unit.proposalIds := by
  simp only [retirableVoteKeys, List.mem_flatMap, List.mem_filter, List.mem_map, Prod.mk.injEq]
  constructor
  · rintro ⟨unit, ⟨hunit, hretires⟩, _, hmem, hbundle, rfl⟩
    exact ⟨unit, hunit, hretires, hbundle, hmem⟩
  · rintro ⟨unit, hunit, hretires, hbundle, hmem⟩
    exact ⟨unit, ⟨hunit, hretires⟩, proposalId, hmem, hbundle, rfl⟩

/-- A vote in a holding phase holds its bundle, unless the ballot contradicts it or the
roster retires it. -/
theorem stale_or_retirable_of_not_held (hheld : bundleIndex ∉ heldBundles snapshot units roster)
    (hvote : snapshot.votes.lookup (bundleIndex, proposalId) = some vote)
    (hholds : votePhaseHoldsBundle vote.phase = true) :
    (bundleIndex, proposalId) ∈ staleVoteKeys snapshot ∨
      (bundleIndex, proposalId) ∈ retirableVoteKeys units roster := by
  by_contra hneither
  rw [not_or] at hneither
  refine hheld (List.mem_append_left _ (List.mem_append_left _ (List.mem_map.mpr
    ⟨((bundleIndex, proposalId), vote), List.mem_filter.mpr ⟨Table.mem_ascending.mpr hvote, ?_⟩,
      rfl⟩)))
  simpa using ⟨hneither.1, hneither.2, hholds⟩

theorem delegationPhase_of_not_held {phase : DelegationPhase}
    (hheld : bundleIndex ∉ heldBundles snapshot units roster)
    (hphase : snapshot.delegationPhases.lookup bundleIndex = some phase) :
    delegationPhaseHoldsBundle phase = false := by
  by_contra hholds
  refine hheld (List.mem_append_left _ (List.mem_append_right _ (List.mem_map.mpr
    ⟨(bundleIndex, phase), List.mem_filter.mpr ⟨Table.mem_rows.mpr hphase, ?_⟩, rfl⟩)))
  simpa using hholds

theorem not_rejectionBlocked_of_not_held (hheld : bundleIndex ∉ heldBundles snapshot units roster) :
    snapshot.rejectionBlockedBundles.lookup bundleIndex = none := by
  by_contra hblocked
  obtain ⟨diagnostic, hdiagnostic⟩ := Option.ne_none_iff_exists'.mp hblocked
  exact hheld (List.mem_append_right _ (List.mem_map.mpr
    ⟨(bundleIndex, diagnostic), Table.mem_rows.mpr hdiagnostic, rfl⟩))

/-- The conflict check passes only if no contradicted vote is lifecycle-owned. -/
theorem ensureNoSubmittedVoteConflict_eq_ok (h : ensureNoSubmittedVoteConflict snapshot = .ok ())
    (hvote : snapshot.votes.lookup (bundleIndex, proposalId) = some vote)
    (hconflicts : ballotRelation snapshot.intents proposalId vote.choice = .conflicts) :
    vote.phase.isLifecycleOwned = false := by
  unfold ensureNoSubmittedVoteConflict at h
  split at h
  · simp at h
  · next hnone =>
    simpa [hvote] using List.find?_eq_none.mp hnone _ ((mem_staleVoteKeys hvote).mpr hconflicts)

/-! ## No recast over a live vote -/

/-- What has to hold of a bundle for a fresh cast on it. -/
structure FreeToCast (snapshot : RoundSnapshot) (units : List VoteUnit) (proposalIds : List Nat)
    (obligations : List Obligation) (bundleIndex : Nat) : Prop where
  /-- No vote of the bundle can still reach the chain by itself. -/
  off_wire : ∀ proposalId vote, snapshot.votes.lookup (bundleIndex, proposalId) = some vote →
    vote.phase ≠ .submitted ∧ vote.phase ≠ .submissionManaged ∧
      vote.phase ≠ .submittedWithoutHash
  /-- A committed vote is superseded by the ballot or retired with its unit. -/
  committed : ∀ proposalId vote, snapshot.votes.lookup (bundleIndex, proposalId) = some vote →
    vote.phase = .committed →
      ballotRelation snapshot.intents proposalId vote.choice = .conflicts ∨
        ∃ unit ∈ units, unit.bundleIndex = bundleIndex ∧ proposalId ∈ unit.proposalIds ∧
          .retire unit.id unit.proposalIds ∈ obligations
  delegation : snapshot.delegationPhases.lookup bundleIndex ≠ some .submissionManaged ∧
    snapshot.delegationPhases.lookup bundleIndex ≠ some .submittedWithoutHash ∧
      snapshot.delegationPhases.lookup bundleIndex ≠ some .submissionRejected
  not_blocked : snapshot.rejectionBlockedBundles.lookup bundleIndex = none
  decided : ∀ proposalId ∈ proposalIds, ∃ decision,
    snapshot.intents.lookup proposalId = some decision

/-- On a bundle that is not held, a holding vote is a committed one that the ballot
contradicts or the roster retires. -/
theorem committed_of_not_held (hunits : ∀ unit ∈ units, unit.Groups snapshot)
    (h : classify snapshot units ballot = .ok result)
    (hheld : bundleIndex ∉ heldBundles snapshot units ballot.roster)
    (hvote : snapshot.votes.lookup (bundleIndex, proposalId) = some vote)
    (hholds : votePhaseHoldsBundle vote.phase = true) :
    vote.phase = .committed ∧
      (ballotRelation snapshot.intents proposalId vote.choice = .conflicts ∨
        ∃ unit ∈ units, unit.bundleIndex = bundleIndex ∧ proposalId ∈ unit.proposalIds ∧
          .retire unit.id unit.proposalIds ∈ result.obligations) := by
  obtain ⟨hconflict, hretired, -⟩ := classify_eq_ok h
  obtain hstale | hretirable := stale_or_retirable_of_not_held hheld hvote hholds
  · have hconflicts := (mem_staleVoteKeys hvote).mp hstale
    have howned := ensureNoSubmittedVoteConflict_eq_ok hconflict hvote hconflicts
    refine ⟨?_, .inl hconflicts⟩
    by_contra hcommitted
    rw [VotePhase.isLifecycleOwned_of_holds hholds hcommitted] at howned
    exact Bool.noConfusion howned
  · obtain ⟨unit, hunit, hretires, rfl, hmem⟩ := mem_retirableVoteKeys.mp hretirable
    -- the unit is in the phase of its members, and it is undispatched
    obtain ⟨stored, hstored, hphase⟩ := hunits unit hunit proposalId hmem
    obtain rfl : stored = vote := by simpa [hstored] using hvote
    have hcommitted : unit.phase = .committed := by
      have := (Bool.and_eq_true _ _ ▸ hretires).1
      simpa using this
    exact ⟨hphase.trans hcommitted, .inr ⟨unit, hunit, rfl, hmem, hretired unit hunit hretires⟩⟩

theorem freeToCast_of_cast {proposalIds : List Nat}
    (hballot : classifyBallotIntents proposalIds snapshot.intents = .ok ballot)
    (hunits : ∀ unit ∈ units, unit.Groups snapshot)
    (h : classify snapshot units ballot = .ok result) {drafts : List CastDraft}
    {prerequisite : Option Nat} {signsDelegation : Bool}
    (hcast : .cast bundleIndex drafts prerequisite signsDelegation ∈ result.obligations) :
    FreeToCast snapshot units proposalIds result.obligations bundleIndex := by
  obtain ⟨hheld, hterminal, -⟩ := (classify_eq_ok h).2.2 _ _ _ _ hcast
  have hlive := fun (proposalId : Nat) (vote : VoteSnapshot)
      (hvote : snapshot.votes.lookup (bundleIndex, proposalId) = some vote) =>
    committed_of_not_held hunits h hheld hvote
  refine ⟨fun proposalId vote hvote => ?_, fun proposalId vote hvote hcommitted => ?_, ?_,
    not_rejectionBlocked_of_not_held hheld, fun proposalId hmem => ?_⟩
  · refine ⟨fun hphase => ?_, fun hphase => ?_, fun hphase => ?_⟩ <;>
      simpa [hphase] using (hlive proposalId vote hvote (by simp [hphase, votePhaseHoldsBundle])).1
  · exact (hlive proposalId vote hvote (by simp [hcommitted, votePhaseHoldsBundle])).2
  · refine ⟨fun hphase => ?_, fun hphase => ?_, fun hphase => ?_⟩ <;>
      simpa [delegationPhaseHoldsBundle] using delegationPhase_of_not_held hheld hphase
  · have hopen : ballot.openProposals = [] := by
      have := (Bool.and_eq_true _ _ ▸ hterminal).1
      simpa using this
    exact exists_intent_of_openProposals hballot hopen hmem

/-- A ballot that contradicts a lifecycle-owned vote is an error. -/
theorem classify_eq_error_of_conflict
    (hvote : snapshot.votes.lookup (bundleIndex, proposalId) = some vote)
    (howned : vote.phase.isLifecycleOwned = true)
    (hconflicts : ballotRelation snapshot.intents proposalId vote.choice = .conflicts) :
    ∃ error, classify snapshot units ballot = .error error := by
  cases h : classify snapshot units ballot with
  | error error => exact ⟨error, rfl⟩
  | ok result =>
    have := ensureNoSubmittedVoteConflict_eq_ok (classify_eq_ok h).1 hvote hconflicts
    rw [this] at howned
    exact Bool.noConfusion howned

end

/-- A classified round comes from the rule table, or waits for its bundles with no
obligations. -/
theorem classifyRound_eq_ok {P : Primitives} {snapshot : RoundSnapshot} {proposalIds : List Nat}
    {result : RoundObligations} (h : classifyRound P snapshot proposalIds = .ok result) :
    result.obligations = [] ∨ ∃ ballot units,
      classifyBallotIntents proposalIds snapshot.intents = .ok ballot ∧
        groupVoteUnits P snapshot snapshot.intents = .ok units ∧
          classify snapshot units ballot = .ok result := by
  obtain ⟨ballot, hballot, h⟩ := except_bind_eq_ok.mp h
  split at h
  · cases h
    exact .inl rfl
  · obtain ⟨units, hunits, h⟩ := except_bind_eq_ok.mp h
    exact .inr ⟨ballot, units, hballot, hunits, h⟩

/-- **No recast over a live vote.**  Where a snapshot and a roster are classified, a fresh
cast is planned only on a bundle that is free to cast; and a ballot that contradicts a
lifecycle-owned vote is an error of the rule table, so that the round owes no step. -/
theorem no_recast_over_live_vote (P : Primitives) (snapshot : RoundSnapshot)
    (proposalIds : List Nat) :
    (∀ ballot units result,
      classifyBallotIntents proposalIds snapshot.intents = .ok ballot →
      groupVoteUnits P snapshot snapshot.intents = .ok units →
      classify snapshot units ballot = .ok result →
      ∀ bundleIndex drafts prerequisite signsDelegation,
        .cast bundleIndex drafts prerequisite signsDelegation ∈ result.obligations →
          FreeToCast snapshot units proposalIds result.obligations bundleIndex) ∧
    ∀ bundleIndex proposalId vote,
      snapshot.votes.lookup (bundleIndex, proposalId) = some vote →
      vote.phase.isLifecycleOwned = true →
      ballotRelation snapshot.intents proposalId vote.choice = .conflicts →
        (∀ units ballot, ∃ error, classify snapshot units ballot = .error error) ∧
          ∀ result, classifyRound P snapshot proposalIds = .ok result →
            result.obligations = [] := by
  refine ⟨fun ballot units result hballot hunits h _ _ _ _ hcast =>
    freeToCast_of_cast hballot (groupVoteUnits_groups hunits) h hcast, ?_⟩
  intro bundleIndex proposalId vote hvote howned hconflicts
  refine ⟨fun units ballot => classify_eq_error_of_conflict hvote howned hconflicts,
    fun result hresult => ?_⟩
  obtain hempty | ⟨ballot, units, -, -, hclassify⟩ := classifyRound_eq_ok hresult
  · exact hempty
  · have herror : ∃ error, classify snapshot units ballot = .error error :=
      classify_eq_error_of_conflict hvote howned hconflicts
    simp [hclassify] at herror

/-- A singleton vote of the sample round, signed for choice 0. -/
def sampleStored (phase : VotePhase) : VoteSnapshot :=
  ⟨0, phase, none, none, some { sampleVote with batch := none }⟩

/-- A round with one delegated bundle: the ballot has moved on from its vote for proposal
1, and its undispatched vote for proposal 2 left the roster. -/
def sampleSnapshot (phase : VotePhase) : RoundSnapshot where
  roundId := sampleRound
  delegations := [⟨0, .confirmed, none⟩]
  bundles := AList.insert 0 ⟨false, none⟩ ∅
  votes := AList.insert (0, 1) (sampleStored phase)
    (AList.insert (0, 2) (sampleStored .committed) ∅)
  shares := []
  sharePhases := []
  intents := AList.insert 1 (.choice 1) ∅
  lifecycleHashes := {}
  rejectionBlockedBundles := ∅

def sampleBallot : BallotIntentClassification := ⟨[1], [1], [], []⟩

def sampleUnits (phase : VotePhase) : List VoteUnit :=
  [singletonUnit 0 1 (sampleStored phase), singletonUnit 0 2 (sampleStored .committed)]

def sampleObligations : RoundObligations :=
  ⟨[.retire (.singleton 0 2) [2], .cast 0 [⟨1, 1⟩] none false], [1], [], [], [(0, 1)], false, [], []⟩

theorem no_recast_over_live_vote_retired :
    (classifyRound samplePrimitives (sampleSnapshot .committed) [1] = .ok sampleObligations ∧
      FreeToCast (sampleSnapshot .committed) (sampleUnits .committed) [1]
        sampleObligations.obligations 0) ∧
    ∃ error, classify (sampleSnapshot .submitted) (sampleUnits .submitted) sampleBallot =
      .error error := by
  obtain ⟨hfree, -⟩ := no_recast_over_live_vote samplePrimitives (sampleSnapshot .committed) [1]
  obtain ⟨-, hconflict⟩ := no_recast_over_live_vote samplePrimitives (sampleSnapshot .submitted) [1]
  refine ⟨⟨by decide +kernel, ?_⟩, ?_⟩
  · exact hfree sampleBallot _ _ (by decide +kernel) (by decide +kernel) (by decide +kernel)
      0 [⟨1, 1⟩] none false (by decide)
  · exact (hconflict 0 1 (sampleStored .submitted) (by decide +kernel) (by decide)
      (by decide +kernel)).1 _ _

end ZcashVoting
