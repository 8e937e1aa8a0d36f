import ZcashVoting.RoundPlanning.UnitPartition
import ZcashVoting.RoundPlanning.Classify

/-!
# ZcashVoting.RoundPlanning.PassRules

The induction over the vote passes of the classifier.

The passes do four things: cast a due vote, withhold one whose batch waits, reconcile a
unit and deliver shares.  A relation between what is accumulated before and after that
all four stay within (`PassRules`) is one that the passes stay within, and every chosen
proposal was visited on every bundle (`PassRules.exists_planVote`).
-/

namespace ZcashVoting

open Transaction

theorem unitOf_eq_ok {units : List VoteUnit} {bundleIndex proposalId : Nat} {unit : VoteUnit}
    (h : unitOf units bundleIndex proposalId = .ok unit) :
    unit ∈ units ∧ (bundleIndex, proposalId) ∈ unit.keys := by
  unfold unitOf at h
  split at h
  · next hfind =>
    cases h
    have hcontains := List.find?_some hfind
    refine ⟨List.mem_of_find?_eq_some hfind, VoteUnit.mem_keys.mpr ?_⟩
    simpa [VoteUnit.contains, VoteUnit.proposalIds] using hcontains
  · cases h

/-- A unit is in the phase of its votes. -/
theorem phase_of_mem_keys {snapshot : RoundSnapshot} {units : List VoteUnit}
    (hgroups : ∀ unit ∈ units, unit.Groups snapshot) {unit : VoteUnit} (hunit : unit ∈ units)
    {key : Nat × Nat} (hkey : key ∈ unit.keys) {vote : VoteSnapshot}
    (hvote : snapshot.votes.lookup key = some vote) : unit.phase = vote.phase := by
  obtain ⟨hbundle, hmem⟩ := VoteUnit.mem_keys.mp hkey
  obtain ⟨stored, hstored, hphase⟩ := hgroups unit hunit key.2 hmem
  rw [hbundle, hvote, Option.some.injEq] at hstored
  rw [hstored, hphase]

section

variable (snapshot : RoundSnapshot) (units : List VoteUnit) (ballot : BallotIntentClassification)

/-- What the chain work of a unit needs: the chain may act on it already, or the whole
ballot agrees with it. -/
def VoteUnit.Dispatchable (unit : VoteUnit) : Prop :=
  LifecyclePosition.of (some unit.phase) = .onWire ∨
    (unit.phase = .committed ∧ everyMemberAgrees snapshot ballot unit.bundleIndex unit = true)

/-- What the vote passes do stays within the relation. -/
structure PassRules (r : ClassifyPass → ClassifyPass → Prop) : Prop where
  cast : ∀ {proposalId intentChoice bundleIndex : Nat},
    snapshot.intents.lookup proposalId = some (.choice intentChoice) →
    (snapshot.delegationPhases.lookup bundleIndex).isSome →
    castDue snapshot units ballot proposalId intentChoice bundleIndex = true →
    Within r (planCast snapshot units ballot proposalId intentChoice bundleIndex)
  wait : ∀ {proposalId bundleIndex : Nat} {vote : VoteSnapshot},
    (snapshot.delegationPhases.lookup bundleIndex).isSome →
    snapshot.votes.lookup (bundleIndex, proposalId) = some vote →
    LifecyclePosition.of (some vote.phase) = .undispatched → Within r (withhold proposalId)
  reconcile : ∀ {unit : VoteUnit}, unit ∈ units → unit.Dispatchable snapshot ballot →
    Within r (reconcile snapshot unit)
  deliver : ∀ bundleIndex proposalId : Nat, Within r (deliver snapshot bundleIndex proposalId)

end

namespace PassRules

variable {snapshot : RoundSnapshot} {units : List VoteUnit} {ballot : BallotIntentClassification}
  {r : ClassifyPass → ClassifyPass → Prop} [Std.Refl r] [IsTrans ClassifyPass r]
  (rules : PassRules snapshot units ballot r) (hgroups : ∀ unit ∈ units, unit.Groups snapshot)

include rules hgroups

omit [IsTrans ClassifyPass r] in
theorem planAgreeing {proposalId bundleIndex : Nat} {vote : VoteSnapshot}
    (hbundle : (snapshot.delegationPhases.lookup bundleIndex).isSome)
    (hvote : snapshot.votes.lookup (bundleIndex, proposalId) = some vote) :
    Within r (planAgreeing snapshot units ballot proposalId bundleIndex vote) := by
  unfold ZcashVoting.planAgreeing
  split
  · exact rules.deliver bundleIndex proposalId
  · next hposition =>
    refine Within.read_bind fun unit _ hunit => ?_
    obtain ⟨hunit, hkey⟩ := unitOf_eq_ok hunit
    have hown : unit.bundleIndex = bundleIndex := (VoteUnit.mem_keys.mp hkey).1
    split
    · next hagrees =>
      refine rules.reconcile hunit (.inr ⟨?_, hown ▸ hagrees⟩)
      rw [phase_of_mem_keys hgroups hunit hkey hvote]
      simpa using hposition
    · exact rules.wait hbundle hvote hposition
  · next hposition =>
    refine Within.read_bind fun unit _ hunit => ?_
    obtain ⟨hunit, hkey⟩ := unitOf_eq_ok hunit
    refine rules.reconcile hunit (.inl ?_)
    rw [phase_of_mem_keys hgroups hunit hkey hvote, hposition]
  · exact Within.pure ()
  · exact Within.pure ()

omit [IsTrans ClassifyPass r] in
theorem planVote {proposalId intentChoice bundleIndex : Nat}
    (hintent : snapshot.intents.lookup proposalId = some (.choice intentChoice))
    (hbundle : (snapshot.delegationPhases.lookup bundleIndex).isSome) :
    Within r (planVote snapshot units ballot proposalId intentChoice bundleIndex) := by
  unfold ZcashVoting.planVote
  split
  · next hdue => exact rules.cast hintent hbundle hdue
  · split
    · next hvote => exact rules.planAgreeing hgroups hbundle hvote
    · exact Within.abort _

theorem planProposal (proposalId : Nat) :
    Within r (planProposal snapshot units ballot proposalId) := by
  unfold ZcashVoting.planProposal
  split
  · next hintent =>
    refine Within.forM_of_mem fun entry hentry => rules.planVote hgroups hintent ?_
    rw [Table.mem_ascending.mp hentry]
    rfl
  · exact Within.pure ()

omit [IsTrans ClassifyPass r] in
theorem advanceVote {entry : (Nat × Nat) × VoteSnapshot} (hentry : entry ∈ snapshot.votesInOrder) :
    Within r (advanceVote snapshot units ballot entry) := by
  obtain ⟨⟨bundleIndex, proposalId⟩, vote⟩ := entry
  have hvote := Table.mem_ascending.mp hentry
  unfold ZcashVoting.advanceVote
  dsimp only
  split
  · exact Within.pure ()
  split
  · next hposition =>
    refine Within.read_bind fun unit _ hunit => ?_
    obtain ⟨hunit, hkey⟩ := unitOf_eq_ok hunit
    refine rules.reconcile hunit (.inl ?_)
    rw [phase_of_mem_keys hgroups hunit hkey hvote, hposition]
  · exact rules.deliver bundleIndex proposalId
  all_goals exact Within.pure ()

/-- The vote passes stay within the relation. -/
theorem planVotes : Within r (planVotes snapshot units ballot) :=
  (Within.forM (rules.planProposal hgroups) _).bind fun _ =>
    Within.forM_of_mem fun _ hentry => rules.advanceVote hgroups hentry

/-- The first pass visited every chosen proposal on every bundle. -/
theorem exists_planVote {before planned : ClassifyPass}
    (h : ZcashVoting.planVotes snapshot units ballot before = .ok ((), planned))
    {proposalId choice bundleIndex : Nat} (hmem : proposalId ∈ ballot.choiceProposals)
    (hintent : snapshot.intents.lookup proposalId = some (.choice choice))
    (hbundle : (snapshot.delegationPhases.lookup bundleIndex).isSome) :
    ∃ earlier later, ZcashVoting.planVote snapshot units ballot proposalId choice bundleIndex
      earlier = .ok ((), later) ∧ r later planned := by
  obtain ⟨phase, hphase⟩ := Option.isSome_iff_exists.mp hbundle
  obtain ⟨_, first, hfirst, hsecond⟩ := bind_eq_ok.mp h
  have hrest : r first planned :=
    Within.forM_of_mem (fun _ hentry => rules.advanceVote hgroups hentry) _ _ _ hsecond
  obtain ⟨s₁, s₂, -, hproposal, hs₂⟩ :=
    Within.forM_step (rules.planProposal hgroups) hfirst hmem
  simp only [ZcashVoting.planProposal, hintent] at hproposal
  have hvote : ∀ entry ∈ snapshot.delegationPhases.ascending (· ≤ ·),
      Within r (ZcashVoting.planVote snapshot units ballot proposalId choice entry.1) := by
    intro entry hentry
    refine rules.planVote hgroups hintent ?_
    rw [Table.mem_ascending.mp hentry]
    rfl
  obtain ⟨earlier, later, -, hplan, hlater⟩ :=
    Within.forM_step_of_mem hvote hproposal (Table.mem_ascending.mpr hphase)
  exact ⟨earlier, later, hplan, trans_of _ hlater (trans_of _ hs₂ hrest)⟩

/-- The second pass visited every vote. -/
theorem exists_advanceVote {before planned : ClassifyPass}
    (h : ZcashVoting.planVotes snapshot units ballot before = .ok ((), planned))
    {key : Nat × Nat} {vote : VoteSnapshot} (hvote : snapshot.votes.lookup key = some vote) :
    ∃ earlier later, ZcashVoting.advanceVote snapshot units ballot (key, vote) earlier =
      .ok ((), later) ∧ r later planned := by
  obtain ⟨_, first, -, hsecond⟩ := bind_eq_ok.mp h
  obtain ⟨earlier, later, -, hadvance, hlater⟩ := Within.forM_step_of_mem
    (fun _ hentry => rules.advanceVote hgroups hentry) hsecond (Table.mem_ascending.mpr hvote)
  exact ⟨earlier, later, hadvance, hlater⟩

end PassRules

end ZcashVoting
