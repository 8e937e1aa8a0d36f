import ZcashVoting.Primitives
import ZcashVoting.RoundPlanning.Snapshot

/-!
# ZcashVoting.RoundPlanning.VoteUnits

Grouping a round's votes into the units the chain dispatches, singletons and atomic
batches.  A batch is planned, retired, advanced and recast as one thing.
-/

namespace ZcashVoting

open Transaction

/-- `VoteUnitId`. -/
inductive VoteUnitId where
  | singleton (bundleIndex proposalId : Nat)
  | batch (bundleIndex : Nat) (orderedBatchDigest : Bytes32)
  deriving DecidableEq

def VoteUnitId.bundleIndex : VoteUnitId → Nat
  | .singleton bundleIndex _ => bundleIndex
  | .batch bundleIndex _ => bundleIndex

/-- `VoteMember`. -/
structure VoteMember where
  proposalId : Nat
  recovery : Option VoteRecoveryBundle
  deriving DecidableEq

/-- `VoteUnit`: a singleton vote or an atomic batch.  The members are in batch order and
there is at least one. -/
structure VoteUnit where
  id : VoteUnitId
  bundleIndex : Nat
  members : List VoteMember
  phase : VotePhase
  members_ne_nil : members ≠ []
  deriving DecidableEq

namespace VoteUnit

variable (unit : VoteUnit)

/-- `anchor_proposal_id`: the first ordered action names the unit. -/
def anchorProposalId : Nat := (unit.members.head unit.members_ne_nil).proposalId

/-- `proposal_ids`. -/
def proposalIds : List Nat := unit.members.map (·.proposalId)

/-- `ordered_batch_digest`. -/
def orderedBatchDigest : Option Bytes32 :=
  match unit.id with
  | .singleton _ _ => none
  | .batch _ digest => some digest

/-- `contains`. -/
def contains (proposalId : Nat) : Bool := unit.members.any (·.proposalId = proposalId)

end VoteUnit

/-- `singleton_unit`. -/
def singletonUnit (bundleIndex proposalId : Nat) (vote : VoteSnapshot) : VoteUnit where
  id := .singleton bundleIndex proposalId
  bundleIndex
  members := [⟨proposalId, vote.recovery⟩]
  phase := vote.phase
  members_ne_nil := by simp

/-- The batch a vote is grouped by: the chain may still act on it and its recovery names
one. -/
def VoteSnapshot.batch? (vote : VoteSnapshot) : Option VoteBatchRecovery :=
  match vote.phase with
  | .committed | .submitted | .submissionManaged => vote.recovery.bind (·.batch)
  | .prepared | .submittedWithoutHash | .submissionRejected | .confirmed => none

section

variable (P : Primitives) (snapshot : RoundSnapshot) (intents : Table Nat BallotIntent)

/-- The stored vote of a batch member. -/
def unitMemberVote (bundleIndex proposalId : Nat) : Except VotingError VoteSnapshot :=
  let round := hex snapshot.roundId.val.val
  match snapshot.votes.lookup (bundleIndex, proposalId) with
  | some member => .ok member
  | none => .error (.invalidInput
      s!"persisted atomic vote batch is missing proposal {proposalId} for round={round}, bundle={bundleIndex}")

/-- The member loop of `group_vote_units`: every member is in the batch's phase, agrees
with the ballot where one is recorded, and reports the hash the others report. -/
def unitMembers (bundleIndex : Nat) (phase : VotePhase) :
    Option String → List VoteRecoveryBundle → Except VotingError (List VoteMember)
  | _, [] => .ok []
  | sharedTxHash, recovery :: recoveries => do
    let round := hex snapshot.roundId.val.val
    let proposalId := recovery.proposalId
    let member ← unitMemberVote snapshot bundleIndex proposalId
    let found := member.phase.asStr
    let expected := phase.asStr
    check (member.phase = phase) (.invalidInput
      s!"persisted atomic vote batch has mixed phases for round={round}, bundle={bundleIndex}: proposal {proposalId} is {found}, expected {expected}")
    check (member.choice = recovery.voteDecision ∧
        (intents.lookup proposalId).all (· = .choice recovery.voteDecision)) (.invalidInput
      s!"persisted atomic vote batch conflicts with ballot intent for round={round}, bundle={bundleIndex}, proposal={proposalId}")
    let txHash := if phase = .submitted then snapshot.voteTxHash bundleIndex proposalId else none
    check (txHash.isNone || sharedTxHash.all (some · = txHash)) (.invalidInput
      s!"submitted atomic vote batch has conflicting transaction hashes for round={round}, bundle={bundleIndex}")
    let members ← unitMembers bundleIndex phase (txHash.or sharedTxHash) recoveries
    return ⟨proposalId, member.recovery⟩ :: members

-- Votes are looked up by their bundle and proposal.
instance lawfulBEq_voteKey : LawfulBEq (Nat × Nat) := inferInstance

/-- Enter the members of a batch among the votes already grouped. -/
def claimMembers (bundleIndex : Nat) :
    List (Nat × Nat) → List VoteMember → Except VotingError (List (Nat × Nat))
  | grouped, [] => .ok grouped
  | grouped, member :: members => do
    let round := hex snapshot.roundId.val.val
    let proposalId := member.proposalId
    check ((bundleIndex, proposalId) ∉ grouped) (.invalidInput
      s!"vote belongs to more than one atomic batch for round={round}, bundle={bundleIndex}, proposal={proposalId}")
    claimMembers bundleIndex ((bundleIndex, proposalId) :: grouped) members

/-- The unit of a batch, with the votes grouped after it. -/
def batchUnit (bundleIndex : Nat) (phase : VotePhase) (batch : VoteBatchRecovery)
    (grouped : List (Nat × Nat)) : Except VotingError (VoteUnit × List (Nat × Nat)) := do
  let round := hex snapshot.roundId.val.val
  let recoveries ← assembleVoteBatchRecoveries P.castVoteBatchSighash
    P.delegateAndVoteBatchSighash snapshot.roundId bundleIndex batch.digest
    (snapshot.bundleRecoveries bundleIndex)
  match ← unitMembers snapshot intents bundleIndex phase none recoveries with
  | [] => .error (.invalidInput
      s!"persisted atomic vote batch is empty for round={round}, bundle={bundleIndex}")
  | anchor :: members => do
    let grouped ← claimMembers snapshot bundleIndex grouped (anchor :: members)
    return ({
      id := .batch bundleIndex batch.digest
      bundleIndex
      members := anchor :: members
      phase
      members_ne_nil := by simp }, grouped)

/-- The loop of `group_vote_units`; `grouped` are the votes that earlier batches took. -/
def groupVotes :
    List (Nat × Nat) → List ((Nat × Nat) × VoteSnapshot) → Except VotingError (List VoteUnit)
  | _, [] => .ok []
  | grouped, ((bundleIndex, proposalId), vote) :: votes =>
    if (bundleIndex, proposalId) ∈ grouped then groupVotes grouped votes
    else match vote.batch? with
      | none => do
        let units ← groupVotes grouped votes
        return singletonUnit bundleIndex proposalId vote :: units
      | some batch => do
        let (unit, grouped) ← batchUnit P snapshot intents bundleIndex vote.phase batch grouped
        let units ← groupVotes grouped votes
        return unit :: units

/-- `group_vote_units`: in the order of the units' anchors. -/
def groupVoteUnits : Except VotingError (List VoteUnit) :=
  groupVotes P snapshot intents [] snapshot.votesInOrder

end

/-! ## Units and the votes they group -/

/-- Every member of the unit is a stored vote in the unit's phase. -/
def VoteUnit.Groups (unit : VoteUnit) (snapshot : RoundSnapshot) : Prop :=
  ∀ proposalId ∈ unit.proposalIds, ∃ vote,
    snapshot.votes.lookup (unit.bundleIndex, proposalId) = some vote ∧ vote.phase = unit.phase

section

variable {P : Primitives} {snapshot : RoundSnapshot} {intents : Table Nat BallotIntent}

theorem unitMemberVote_eq_ok {bundleIndex proposalId : Nat} {vote : VoteSnapshot} :
    unitMemberVote snapshot bundleIndex proposalId = .ok vote ↔
      snapshot.votes.lookup (bundleIndex, proposalId) = some vote := by
  unfold unitMemberVote
  cases snapshot.votes.lookup (bundleIndex, proposalId) <;> simp

theorem unitMembers_phase {bundleIndex : Nat} {phase : VotePhase} {sharedTxHash : Option String}
    {recoveries : List VoteRecoveryBundle} {members : List VoteMember}
    (h : unitMembers snapshot intents bundleIndex phase sharedTxHash recoveries = .ok members) :
    ∀ proposalId ∈ members.map (·.proposalId), ∃ vote,
      snapshot.votes.lookup (bundleIndex, proposalId) = some vote ∧ vote.phase = phase := by
  induction recoveries generalizing sharedTxHash members with
  | nil =>
    cases h
    simp
  | cons recovery recoveries ih =>
    simp only [unitMembers, except_bind_eq_ok, check_eq_ok, except_pure_eq_ok] at h
    obtain ⟨member, hmember, -, hphase, -, -, -, -, rest, hrest, rfl⟩ := h
    intro proposalId hmem
    rw [List.map_cons, List.mem_cons] at hmem
    obtain rfl | hmem := hmem
    · exact ⟨member, unitMemberVote_eq_ok.mp hmember, of_decide_eq_true hphase⟩
    · exact ih hrest proposalId hmem

theorem batchUnit_groups {bundleIndex : Nat} {phase : VotePhase} {batch : VoteBatchRecovery}
    {grouped grouped' : List (Nat × Nat)} {unit : VoteUnit}
    (h : batchUnit P snapshot intents bundleIndex phase batch grouped = .ok (unit, grouped')) :
    unit.Groups snapshot := by
  simp only [batchUnit, except_bind_eq_ok] at h
  obtain ⟨recoveries, -, members, hmembers, h⟩ := h
  cases members with
  | nil => simp at h
  | cons anchor members =>
    simp only [except_bind_eq_ok, except_pure_eq_ok, Prod.mk.injEq] at h
    obtain ⟨_, -, rfl, -⟩ := h
    exact unitMembers_phase hmembers

theorem singletonUnit_groups {bundleIndex proposalId : Nat} {vote : VoteSnapshot}
    (h : snapshot.votes.lookup (bundleIndex, proposalId) = some vote) :
    (singletonUnit bundleIndex proposalId vote).Groups snapshot := by
  intro member hmember
  obtain rfl : member = proposalId := by simpa [VoteUnit.proposalIds, singletonUnit] using hmember
  exact ⟨vote, h, rfl⟩

/-- Where a unit comes from: a vote that no batch groups, or the batch of one that it does. -/
theorem mem_groupVotes {grouped : List (Nat × Nat)} {votes : List ((Nat × Nat) × VoteSnapshot)}
    {units : List VoteUnit} {unit : VoteUnit}
    (h : groupVotes P snapshot intents grouped votes = .ok units) (hmem : unit ∈ units) :
    ∃ entry ∈ votes,
      (entry.2.batch? = none ∧ unit = singletonUnit entry.1.1 entry.1.2 entry.2) ∨
        ∃ batch before after, entry.2.batch? = some batch ∧
          batchUnit P snapshot intents entry.1.1 entry.2.phase batch before = .ok (unit, after) := by
  induction votes generalizing grouped units with
  | nil =>
    cases h
    simp at hmem
  | cons entry votes ih =>
    obtain ⟨⟨bundleIndex, proposalId⟩, vote⟩ := entry
    rw [List.exists_mem_cons_iff]
    unfold groupVotes at h
    split at h
    · exact .inr (ih h hmem)
    cases hbatch : vote.batch? with
    | none =>
      simp only [hbatch, except_bind_eq_ok, except_pure_eq_ok] at h
      obtain ⟨rest, hunits, rfl⟩ := h
      obtain rfl | hmem := List.mem_cons.mp hmem
      · exact .inl (.inl ⟨rfl, rfl⟩)
      · exact .inr (ih hunits hmem)
    | some batch =>
      simp only [hbatch, except_bind_eq_ok, except_pure_eq_ok] at h
      obtain ⟨⟨first, after⟩, hunit, rest, hunits, rfl⟩ := h
      obtain rfl | hmem := List.mem_cons.mp hmem
      · exact .inl (.inr ⟨batch, grouped, after, rfl, hunit⟩)
      · exact .inr (ih hunits hmem)

/-- What a unit is: stored votes of one bundle, all in its phase. -/
theorem groupVoteUnits_groups {units : List VoteUnit}
    (h : groupVoteUnits P snapshot intents = .ok units) : ∀ unit ∈ units, unit.Groups snapshot := by
  intro unit hmem
  obtain ⟨entry, hentry, ⟨-, rfl⟩ | ⟨batch, before, after, -, hunit⟩⟩ := mem_groupVotes h hmem
  · exact singletonUnit_groups (Table.mem_ascending.mp hentry)
  · exact batchUnit_groups hunit

end

end ZcashVoting
