import ZcashVoting.RoundPlanning.VoteUnits
import ZcashVoting.Vote.Batch

/-!
# ZcashVoting.RoundPlanning.UnitPartition

Grouping partitions the vote rows.

Every row has one unit it belongs to, the batch that its recovery names while the chain
may still act on it and itself otherwise (`RoundSnapshot.unitId`), and the units are the
fibres of that map (`groupVoteUnits_fibres`).  The members of a batch are found by the
proposals their recoveries name, so this rests on the recoveries of the grouped batches
naming the rows they are stored in (`BatchesNameRows`), and a partition into batches with
their members' recoveries shows that they do (`batchesNameRows_of_partition`).
-/

namespace ZcashVoting

open Transaction

/-- The rows a unit covers. -/
def VoteUnit.keys (unit : VoteUnit) : List (Nat × Nat) :=
  unit.proposalIds.map fun proposalId => (unit.bundleIndex, proposalId)

theorem VoteUnit.mem_keys {unit : VoteUnit} {key : Nat × Nat} :
    key ∈ unit.keys ↔ unit.bundleIndex = key.1 ∧ key.2 ∈ unit.proposalIds := by
  obtain ⟨bundleIndex, proposalId⟩ := key
  simp [VoteUnit.keys, and_comm]

theorem VoteUnit.keys_ne_nil (unit : VoteUnit) : unit.keys ≠ [] := by
  simp [VoteUnit.keys, VoteUnit.proposalIds, unit.members_ne_nil]

/-- The stored recoveries of one batch name the proposals of their rows. -/
def RoundSnapshot.NamesRows (snapshot : RoundSnapshot) (bundleIndex : Nat) (digest : Bytes32) :
    Prop :=
  ∀ proposalId vote recovery, snapshot.votes.lookup (bundleIndex, proposalId) = some vote →
    vote.recovery = some recovery → recovery.batchDigest? = some digest →
      recovery.proposalId = proposalId

/-- So do those of every batch by which a vote is grouped. -/
def RoundSnapshot.BatchesNameRows (snapshot : RoundSnapshot) : Prop :=
  ∀ key vote batch, snapshot.votes.lookup key = some vote → vote.batch? = some batch →
    snapshot.NamesRows key.1 batch.digest

instance (snapshot : RoundSnapshot) : Decidable snapshot.BatchesNameRows :=
  decidable_of_iff (∀ row ∈ snapshot.votes.rows, ∀ batch ∈ row.2.batch?,
    ∀ other ∈ snapshot.votes.rows, other.1.1 = row.1.1 → ∀ recovery ∈ other.2.recovery,
      recovery.batchDigest? = some batch.digest → recovery.proposalId = other.1.2) <| by
    simp only [RoundSnapshot.BatchesNameRows, RoundSnapshot.NamesRows, Prod.forall,
      Table.mem_rows, Option.mem_def]
    grind

/-- The unit a stored vote belongs to. -/
def RoundSnapshot.unitId (snapshot : RoundSnapshot) (key : Nat × Nat) : Option VoteUnitId :=
  (snapshot.votes.lookup key).map fun vote =>
    match vote.batch? with
    | some batch => .batch key.1 batch.digest
    | none => .singleton key.1 key.2

section

variable {P : Primitives} {snapshot : RoundSnapshot} {intents : Table Nat BallotIntent}
  {key : Nat × Nat} {vote : VoteSnapshot} {batch : VoteBatchRecovery} {bundleIndex : Nat}
  {units : List VoteUnit}

theorem unitId_of_lookup (hvote : snapshot.votes.lookup key = some vote)
    (hbatch : vote.batch? = none) :
    snapshot.unitId key = some (.singleton key.1 key.2) := by
  simp [RoundSnapshot.unitId, hvote, hbatch]

theorem unitId_of_batch (hvote : snapshot.votes.lookup key = some vote)
    (hbatch : vote.batch? = some batch) :
    snapshot.unitId key = some (.batch key.1 batch.digest) := by
  simp [RoundSnapshot.unitId, hvote, hbatch]

/-- Only a row itself belongs to its singleton. -/
theorem eq_of_unitId_singleton {proposalId : Nat}
    (h : snapshot.unitId key = some (.singleton bundleIndex proposalId)) :
    key = (bundleIndex, proposalId) := by
  obtain ⟨vote, -, hid⟩ := Option.map_eq_some_iff.mp h
  split at hid <;> cases hid
  rfl

theorem unitId_eq_batch {digest : Bytes32} :
    snapshot.unitId key = some (.batch bundleIndex digest) ↔
      key.1 = bundleIndex ∧ ∃ vote batch, snapshot.votes.lookup key = some vote ∧
        vote.batch? = some batch ∧ batch.digest = digest := by
  unfold RoundSnapshot.unitId
  cases hvote : snapshot.votes.lookup key with
  | none => simp
  | some vote => cases hbatch : vote.batch? <;> simp [hbatch]

/-- The phase decides whether a batch recovery groups its vote. -/
theorem batch?_of_phase {vote' : VoteSnapshot}
    (hbatch : vote.batch? = some batch) (hphase : vote'.phase = vote.phase) :
    vote'.batch? = vote'.recovery.bind (·.batch) := by
  unfold VoteSnapshot.batch? at hbatch ⊢
  rw [hphase]
  cases hvote : vote.phase <;> simp [hvote] at hbatch ⊢

theorem recovery_of_batch? (hbatch : vote.batch? = some batch) :
    vote.recovery.bind (·.batch) = some batch := by
  rwa [← batch?_of_phase hbatch rfl]

/-! ## One batch -/

/-- What the member loop finds for each assembled recovery: a stored vote in the batch's
phase, which the ballot does not contradict. -/
structure MemberOf (snapshot : RoundSnapshot) (intents : Table Nat BallotIntent)
    (bundleIndex : Nat) (phase : VotePhase) (recovery : VoteRecoveryBundle)
    (member : VoteMember) (vote : VoteSnapshot) : Prop where
  proposalId_eq : member.proposalId = recovery.proposalId
  recovery_eq : member.recovery = vote.recovery
  stored : snapshot.votes.lookup (bundleIndex, recovery.proposalId) = some vote
  phase_eq : vote.phase = phase
  choice_eq : vote.choice = recovery.voteDecision
  agrees : ∀ intent, intents.lookup recovery.proposalId = some intent →
    intent = .choice recovery.voteDecision

theorem unitMembers_eq_ok {phase : VotePhase} {sharedTxHash : Option String}
    {recoveries : List VoteRecoveryBundle} {members : List VoteMember}
    (h : unitMembers snapshot intents bundleIndex phase sharedTxHash recoveries = .ok members) :
    List.Forall₂ (fun recovery member => ∃ vote,
      MemberOf snapshot intents bundleIndex phase recovery member vote) recoveries members := by
  induction recoveries generalizing sharedTxHash members with
  | nil =>
    cases h
    exact .nil
  | cons recovery recoveries ih =>
    simp only [unitMembers, except_bind_eq_ok, check_eq_ok, except_pure_eq_ok,
      decide_eq_true_eq] at h
    obtain ⟨vote, hvote, -, hphase, -, ⟨hchoice, hagrees⟩, -, -, rest, hrest, rfl⟩ := h
    refine .cons ⟨vote, rfl, rfl, unitMemberVote_eq_ok.mp hvote, hphase, hchoice, ?_⟩ (ih hrest)
    intro intent hintent
    simpa [hintent] using hagrees

/-- Claimed members are distinct rows that no earlier batch took. -/
theorem claimMembers_eq_ok {grouped grouped' : List (Nat × Nat)} {members : List VoteMember}
    (h : claimMembers snapshot bundleIndex grouped members = .ok grouped') :
    (grouped.Nodup → grouped'.Nodup) ∧
      grouped' = (members.map fun member => (bundleIndex, member.proposalId)).reverse ++ grouped := by
  induction members generalizing grouped with
  | nil =>
    cases h
    simp
  | cons member members ih =>
    simp only [claimMembers, except_bind_eq_ok, check_eq_ok, decide_eq_true_eq] at h
    obtain ⟨_, hfresh, h⟩ := h
    obtain ⟨hnodup, rfl⟩ := ih h
    refine ⟨fun hgrouped => hnodup (List.nodup_cons.mpr ⟨hfresh, hgrouped⟩), ?_⟩
    simp

/-- The recoveries of a bundle are those of its rows. -/
theorem mem_bundleRecoveries {recovery : VoteRecoveryBundle} :
    recovery ∈ snapshot.bundleRecoveries bundleIndex ↔ ∃ proposalId vote,
      snapshot.votes.lookup (bundleIndex, proposalId) = some vote ∧
        vote.recovery = some recovery := by
  simp only [RoundSnapshot.bundleRecoveries, RoundSnapshot.votesInOrder, List.mem_filterMap,
    Prod.exists, Table.mem_ascending]
  constructor
  · rintro ⟨stored, proposalId, vote, hvote, hrecovery⟩
    split at hrecovery
    · next hbundle =>
      subst hbundle
      exact ⟨proposalId, vote, hvote, hrecovery⟩
    · simp at hrecovery
  · rintro ⟨proposalId, vote, hvote, hrecovery⟩
    exact ⟨bundleIndex, proposalId, vote, hvote, by simpa using hrecovery⟩

/-- A batch as its unit holds it: complete, in batch order and of one phase. -/
structure VoteUnit.IsBatch (unit : VoteUnit) (snapshot : RoundSnapshot) (digest : Bytes32) :
    Prop where
  /-- The members name the batch, the places `0, 1, …` and its size. -/
  places : unit.members.map (fun member =>
      (member.recovery.bind (·.batch)).map fun b => (b.digest, b.index, b.size)) =
    (List.range unit.members.length).map fun i => some (digest, i, unit.members.length)
  /-- Every stored recovery of the batch is a member's. -/
  complete : ∀ proposalId vote, snapshot.votes.lookup (unit.bundleIndex, proposalId) = some vote →
    vote.recovery.bind (·.batchDigest?) = some digest → proposalId ∈ unit.proposalIds
  one_phase : unit.Groups snapshot

section

variable {bundleIndex proposalId : Nat} {vote : VoteSnapshot} {batch : VoteBatchRecovery}
  {grouped grouped' : List (Nat × Nat)} {unit : VoteUnit}

/-- The steps of `batchUnit`. -/
theorem batchUnit_eq_ok
    (h : batchUnit P snapshot intents bundleIndex vote.phase batch grouped = .ok (unit, grouped')) :
    unit.id = .batch bundleIndex batch.digest ∧ unit.bundleIndex = bundleIndex ∧
      unit.phase = vote.phase ∧
      ∃ recoveries, recoveries = batchMembers batch.digest (snapshot.bundleRecoveries bundleIndex) ∧
        validateBatchMembers P.castVoteBatchSighash P.delegateAndVoteBatchSighash snapshot.roundId
          bundleIndex batch.digest recoveries = .ok () ∧
        List.Forall₂ (fun recovery member => ∃ stored,
          MemberOf snapshot intents bundleIndex vote.phase recovery member stored)
          recoveries unit.members ∧
        claimMembers snapshot bundleIndex grouped unit.members = .ok grouped' := by
  simp only [batchUnit, except_bind_eq_ok] at h
  obtain ⟨recoveries, hrecoveries, members, hmembers, h⟩ := h
  rw [assembleVoteBatchRecoveries_eq, except_map_eq_ok] at hrecoveries
  obtain ⟨_, hvalid, rfl⟩ := hrecoveries
  cases members with
  | nil => simp at h
  | cons anchor members =>
    simp only [except_bind_eq_ok, except_pure_eq_ok, Prod.mk.injEq] at h
    obtain ⟨_, hclaim, rfl, rfl⟩ := h
    exact ⟨rfl, rfl, rfl, _, rfl, hvalid, unitMembers_eq_ok hmembers, hclaim⟩

theorem batchUnit_proposalIds
    (h : batchUnit P snapshot intents bundleIndex vote.phase batch grouped = .ok (unit, grouped')) :
    unit.proposalIds =
      (batchMembers batch.digest (snapshot.bundleRecoveries bundleIndex)).map (·.proposalId) := by
  obtain ⟨-, -, -, recoveries, rfl, -, hmembers, -⟩ := batchUnit_eq_ok h
  rw [VoteUnit.proposalIds, ← List.forall₂_eq_eq_eq, List.forall₂_map_left_iff,
    List.forall₂_map_right_iff]
  refine hmembers.flip.imp fun _ _ hmember => ?_
  obtain ⟨_, hmember⟩ := hmember
  exact hmember.proposalId_eq

/-- An assembled recovery is the one stored in the row it names. -/
theorem stored_of_mem_batchMembers {digest : Bytes32}
    (hrows : snapshot.NamesRows bundleIndex digest) {recovery : VoteRecoveryBundle}
    (hmem : recovery ∈ batchMembers digest (snapshot.bundleRecoveries bundleIndex)) :
    recovery.batchDigest? = some digest ∧ ∃ stored,
      snapshot.votes.lookup (bundleIndex, recovery.proposalId) = some stored ∧
        stored.recovery = some recovery := by
  rw [(batchMembers_perm _).mem_iff, List.mem_filter, mem_bundleRecoveries,
    decide_eq_true_eq] at hmem
  obtain ⟨⟨proposalId, stored, hstored, hrecovery⟩, hdigest⟩ := hmem
  rw [hrows _ _ _ hstored hrecovery hdigest]
  exact ⟨hdigest, stored, hstored, hrecovery⟩

/-- The members of a batch are the rows whose recovery names it. -/
theorem mem_batchUnit (hrows : snapshot.NamesRows bundleIndex batch.digest)
    (h : batchUnit P snapshot intents bundleIndex vote.phase batch grouped = .ok (unit, grouped')) :
    proposalId ∈ unit.proposalIds ↔ ∃ stored,
      snapshot.votes.lookup (bundleIndex, proposalId) = some stored ∧
        stored.recovery.bind (·.batchDigest?) = some batch.digest := by
  rw [batchUnit_proposalIds h, List.mem_map]
  constructor
  · rintro ⟨recovery, hmem, rfl⟩
    obtain ⟨hdigest, stored, hstored, hrecovery⟩ := stored_of_mem_batchMembers hrows hmem
    exact ⟨stored, hstored, by simpa [hrecovery] using hdigest⟩
  · rintro ⟨stored, hstored, hdigest⟩
    obtain ⟨recovery, hrecovery, hdigest⟩ := Option.bind_eq_some_iff.mp hdigest
    refine ⟨recovery, ?_, hrows _ _ _ hstored hrecovery hdigest⟩
    rw [(batchMembers_perm _).mem_iff, List.mem_filter, mem_bundleRecoveries]
    exact ⟨⟨proposalId, stored, hstored, hrecovery⟩, by simpa using hdigest⟩

theorem batchUnit_recoveries (hrows : snapshot.NamesRows bundleIndex batch.digest)
    (h : batchUnit P snapshot intents bundleIndex vote.phase batch grouped = .ok (unit, grouped')) :
    unit.members.map (·.recovery) =
      (batchMembers batch.digest (snapshot.bundleRecoveries bundleIndex)).map some := by
  obtain ⟨-, -, -, recoveries, rfl, -, hmembers, -⟩ := batchUnit_eq_ok h
  rw [← List.forall₂_eq_eq_eq, List.forall₂_map_left_iff, List.forall₂_map_right_iff]
  refine ((List.forall₂_and_left _ _).mpr ⟨fun recovery hmem =>
    (stored_of_mem_batchMembers hrows hmem).2, hmembers⟩).flip.imp ?_
  rintro member recovery ⟨⟨stored, hlookup, hrecovery⟩, row, hmember⟩
  obtain rfl : row = stored := by simpa [hlookup] using hmember.stored.symm
  rw [hmember.recovery_eq, hrecovery]

theorem batchUnit_isBatch (hrows : snapshot.NamesRows bundleIndex batch.digest)
    (h : batchUnit P snapshot intents bundleIndex vote.phase batch grouped = .ok (unit, grouped')) :
    unit.IsBatch snapshot batch.digest := by
  obtain ⟨-, hbundle, -, recoveries, rfl, hvalid, hmembers, -⟩ := batchUnit_eq_ok h
  refine ⟨?_, fun proposalId stored hstored hdigest => ?_, batchUnit_groups h⟩
  · have hplaces : ∀ members : List VoteMember,
        members.map (fun member =>
          (member.recovery.bind (·.batch)).map fun b => (b.digest, b.index, b.size)) =
        (members.map (·.recovery)).map fun recovery =>
          (recovery.bind (·.batch)).map fun b => (b.digest, b.index, b.size) := by simp
    rw [hplaces, batchUnit_recoveries hrows h, List.map_map, ← hmembers.length_eq]
    exact places_of_valid hvalid
  · rw [hbundle] at hstored
    exact (mem_batchUnit hrows h).mpr ⟨stored, hstored, hdigest⟩

/-- A member carries the recovery of its row. -/
theorem recovery_of_mem_batchUnit
    (h : batchUnit P snapshot intents bundleIndex vote.phase batch grouped = .ok (unit, grouped'))
    {member : VoteMember} (hmem : member ∈ unit.members) {stored : VoteSnapshot}
    (hstored : snapshot.votes.lookup (bundleIndex, member.proposalId) = some stored) :
    member.recovery = stored.recovery := by
  obtain ⟨-, -, -, recoveries, -, -, hmembers, -⟩ := batchUnit_eq_ok h
  obtain ⟨i, hi, rfl⟩ := List.getElem_of_mem hmem
  obtain ⟨row, hmember⟩ := hmembers.get (hmembers.length_eq ▸ hi) hi
  simp only [List.get_eq_getElem] at hmember
  rw [hmember.proposalId_eq, hmember.stored, Option.some.injEq] at hstored
  rw [hmember.recovery_eq, hstored]

/-- Where the members' recoveries have their places, every recovery of the batch names its
row: the member in its place is the row it is stored in. -/
theorem namesRows_of_isBatch
    (h : batchUnit P snapshot intents bundleIndex vote.phase batch grouped = .ok (unit, grouped'))
    (hbatch : unit.IsBatch snapshot batch.digest) :
    snapshot.NamesRows bundleIndex batch.digest := by
  intro proposalId stored recovery hstored hrecovery hdigest
  obtain ⟨-, hbundle, -, recoveries, hrecoveries, hvalid, hmembers, -⟩ := batchUnit_eq_ok h
  have hmem := hbatch.complete proposalId stored (by rwa [hbundle]) (by simpa [hrecovery] using hdigest)
  obtain ⟨member, hmember, rfl⟩ := List.mem_map.mp hmem
  have hown := recovery_of_mem_batchUnit h hmember hstored
  obtain ⟨i, hi, rfl⟩ := List.getElem_of_mem hmember
  have hplace := List.getElem_of_eq hbatch.places (by simpa using hi)
  have hlisted : recovery ∈ recoveries := by
    rw [hrecoveries, (batchMembers_perm _).mem_iff, List.mem_filter, mem_bundleRecoveries]
    exact ⟨⟨_, stored, hstored, hrecovery⟩, by simpa using hdigest⟩
  obtain ⟨j, hj, rfl⟩ := List.getElem_of_mem hlisted
  have hplace' := List.getElem_of_eq (places_of_valid hvalid) (by simpa using hj)
  simp only [List.getElem_map, List.getElem_range, hown, hrecovery, Option.bind_some] at hplace hplace'
  rw [hplace, Option.some.injEq, Prod.mk.injEq, Prod.mk.injEq] at hplace'
  obtain ⟨-, rfl, -⟩ := hplace'
  obtain ⟨_, hnamed⟩ := hmembers.get hj hi
  exact hnamed.proposalId_eq.symm

/-- A batch unit is a fibre: its rows are the ones that belong to it. -/
theorem batchUnit_fibre (hrows : snapshot.NamesRows bundleIndex batch.digest)
    (hbatch : vote.batch? = some batch)
    (h : batchUnit P snapshot intents bundleIndex vote.phase batch grouped = .ok (unit, grouped'))
    (key : Nat × Nat) : key ∈ unit.keys ↔ snapshot.unitId key = some unit.id := by
  obtain ⟨hid, hbundle, hphase, -⟩ := batchUnit_eq_ok h
  obtain ⟨bundle, proposalId⟩ := key
  rw [VoteUnit.mem_keys, hid, unitId_eq_batch, hbundle, eq_comm]
  refine and_congr_right fun hbundle' => ?_
  dsimp only at hbundle' ⊢
  subst hbundle'
  constructor
  · intro hmem
    -- a member is in the phase of the batch, so its own recovery groups it
    obtain ⟨stored, hstored, hdigest⟩ := (mem_batchUnit hrows h).mp hmem
    obtain ⟨row, hrow, hrowPhase⟩ := batchUnit_groups h proposalId hmem
    rw [hbundle, hstored, Option.some.injEq] at hrow
    subst hrow
    have hown := batch?_of_phase hbatch (hrowPhase.trans hphase)
    obtain ⟨recovery, hrecovery, hdigest⟩ := Option.bind_eq_some_iff.mp hdigest
    obtain ⟨own, hsome, hdigest⟩ := Option.map_eq_some_iff.mp hdigest
    exact ⟨stored, own, hstored, by simp [hown, hrecovery, hsome], hdigest⟩
  · rintro ⟨stored, own, hstored, hown, hdigest⟩
    refine (mem_batchUnit hrows h).mpr ⟨stored, hstored, ?_⟩
    obtain ⟨recovery, hrecovery, hsome⟩ := Option.bind_eq_some_iff.mp (recovery_of_batch? hown)
    simp [hrecovery, VoteRecoveryBundle.batchDigest?, hsome, hdigest]

theorem mem_grouped_of_batchUnit
    (h : batchUnit P snapshot intents bundleIndex vote.phase batch grouped = .ok (unit, grouped'))
    (key : Nat × Nat) : key ∈ grouped' ↔ key ∈ unit.keys ∨ key ∈ grouped := by
  obtain ⟨-, hbundle, -, _, -, -, -, hclaim⟩ := batchUnit_eq_ok h
  rw [(claimMembers_eq_ok hclaim).2, VoteUnit.keys, VoteUnit.proposalIds, hbundle]
  simp

theorem nodup_batchUnit_keys (hgrouped : grouped.Nodup)
    (h : batchUnit P snapshot intents bundleIndex vote.phase batch grouped = .ok (unit, grouped')) :
    grouped'.Nodup ∧ unit.keys.Nodup := by
  obtain ⟨-, hbundle, -, _, -, -, -, hclaim⟩ := batchUnit_eq_ok h
  obtain ⟨hnodup, hgrouped'⟩ := claimMembers_eq_ok hclaim
  have hkeys := (List.nodup_append.mp (hgrouped' ▸ hnodup hgrouped)).1
  rw [List.nodup_reverse] at hkeys
  refine ⟨hnodup hgrouped, ?_⟩
  rw [VoteUnit.keys, VoteUnit.proposalIds, hbundle, List.map_map]
  exact hkeys

end

/-! ## All rows -/

/-- The units are the fibres of `unitId` over the rows that are pending. -/
structure UnitFibres (snapshot : RoundSnapshot) (pending : List (Nat × Nat))
    (units : List VoteUnit) : Prop where
  fibre : ∀ unit ∈ units, ∀ key, key ∈ unit.keys ↔ snapshot.unitId key = some unit.id
  nodup_keys : ∀ unit ∈ units, unit.keys.Nodup
  nodup_ids : (units.map (·.id)).Nodup
  pending_of_unit : ∀ unit ∈ units, ∃ key ∈ pending, snapshot.unitId key = some unit.id
  unit_of_pending : ∀ key ∈ pending, ∃ unit ∈ units, snapshot.unitId key = some unit.id
  batches : ∀ unit ∈ units, ∀ bundleIndex digest, unit.id = .batch bundleIndex digest →
    unit.IsBatch snapshot digest

theorem singletonUnit_fibre (hvote : snapshot.votes.lookup key = some vote)
    (hbatch : vote.batch? = none)
    (other : Nat × Nat) : other ∈ (singletonUnit key.1 key.2 vote).keys ↔
      snapshot.unitId other = some (singletonUnit key.1 key.2 vote).id := by
  have hkeys : (singletonUnit key.1 key.2 vote).keys = [key] := rfl
  rw [hkeys, List.mem_singleton]
  constructor
  · intro heq
    rw [heq]
    exact unitId_of_lookup hvote hbatch
  · intro h
    exact eq_of_unitId_singleton h

/-- A unit whose rows are the next ones pending joins the units of the rest. -/
theorem UnitFibres.cons {pending rest : List (Nat × Nat)} {unit : VoteUnit}
    (hfibre : ∀ key, key ∈ unit.keys ↔ snapshot.unitId key = some unit.id)
    (hnodup : unit.keys.Nodup)
    (hbatch : ∀ bundleIndex digest, unit.id = .batch bundleIndex digest →
      unit.IsBatch snapshot digest)
    (hpending : ∀ key, key ∈ pending ↔ key ∈ unit.keys ∨ key ∈ rest)
    (hdisjoint : ∀ key ∈ unit.keys, key ∉ rest)
    (h : UnitFibres snapshot rest units) : UnitFibres snapshot pending (unit :: units) where
  fibre := List.forall_mem_cons.mpr ⟨hfibre, h.fibre⟩
  nodup_keys := List.forall_mem_cons.mpr ⟨hnodup, h.nodup_keys⟩
  nodup_ids := by
    rw [List.map_cons, List.nodup_cons]
    refine ⟨fun hmem => ?_, h.nodup_ids⟩
    obtain ⟨other, hother, hid⟩ := List.mem_map.mp hmem
    obtain ⟨key, hkey, hunitId⟩ := h.pending_of_unit other hother
    exact hdisjoint key ((hfibre key).mpr (hid ▸ hunitId)) hkey
  pending_of_unit := by
    refine List.forall_mem_cons.mpr ⟨?_, fun other hother => ?_⟩
    · obtain ⟨key, hkey⟩ := List.exists_mem_of_ne_nil _ unit.keys_ne_nil
      exact ⟨key, (hpending key).mpr (.inl hkey), (hfibre key).mp hkey⟩
    · obtain ⟨key, hkey, hunitId⟩ := h.pending_of_unit other hother
      exact ⟨key, (hpending key).mpr (.inr hkey), hunitId⟩
  unit_of_pending := by
    intro key hkey
    obtain hkey | hkey := (hpending key).mp hkey
    · exact ⟨unit, List.mem_cons_self, (hfibre key).mp hkey⟩
    · obtain ⟨other, hother, hunitId⟩ := h.unit_of_pending key hkey
      exact ⟨other, List.mem_cons_of_mem _ hother, hunitId⟩
  batches := List.forall_mem_cons.mpr ⟨hbatch, h.batches⟩

/-- The loop: `grouped` are the rows of the batches already claimed, and every row of a
batch that is not claimed is still ahead. -/
theorem groupVotes_fibres (hrows : snapshot.BatchesNameRows) {grouped : List (Nat × Nat)}
    {claimed : List VoteUnitId} {votes : List ((Nat × Nat) × VoteSnapshot)}
    (hvotes : ∀ entry ∈ votes, snapshot.votes.lookup entry.1 = some entry.2)
    (hnodup : (votes.map (·.1)).Nodup) (hgroupedNodup : grouped.Nodup)
    (hgrouped : ∀ key, key ∈ grouped ↔ ∃ id ∈ claimed, snapshot.unitId key = some id)
    (hahead : ∀ key bundleIndex digest, snapshot.unitId key = some (.batch bundleIndex digest) →
      .batch bundleIndex digest ∉ claimed → key ∈ votes.map (·.1))
    (h : groupVotes P snapshot intents grouped votes = .ok units) :
    UnitFibres snapshot ((votes.map (·.1)).filter (· ∉ grouped)) units := by
  induction votes generalizing grouped claimed units with
  | nil =>
    cases h
    exact ⟨by simp, by simp, by simp, by simp, by simp, by simp⟩
  | cons entry votes ih =>
    obtain ⟨⟨bundleIndex, proposalId⟩, vote⟩ := entry
    have hrest := fun entry hmem => hvotes entry (List.mem_cons_of_mem _ hmem)
    have hvote := hvotes _ List.mem_cons_self
    rw [List.map_cons, List.nodup_cons] at hnodup
    unfold groupVotes at h
    split at h
    · next hskip =>
      rw [List.map_cons, List.filter_cons_of_neg (by simpa using hskip)]
      refine ih hrest hnodup.2 hgroupedNodup hgrouped (fun key b digest hid hfresh => ?_) h
      have hmem := hahead key b digest hid hfresh
      rw [List.map_cons, List.mem_cons] at hmem
      refine hmem.resolve_left fun heq => ?_
      obtain ⟨id, hclaimed, hid'⟩ := (hgrouped _).mp hskip
      rw [heq, hid', Option.some.injEq] at hid
      exact hfresh (hid ▸ hclaimed)
    next hfresh =>
    cases hbatch : vote.batch? with
    | none =>
      simp only [hbatch, except_bind_eq_ok, except_pure_eq_ok] at h
      obtain ⟨rest, hunits, rfl⟩ := h
      have hown := unitId_of_lookup hvote hbatch
      refine .cons (singletonUnit_fibre hvote hbatch) (List.nodup_singleton _) (by simp [singletonUnit])
        (fun key => ?_) (fun key hkey => ?_)
        (ih hrest hnodup.2 hgroupedNodup hgrouped (fun key b digest hid hunclaimed => ?_) hunits)
      · have hkeys : (singletonUnit bundleIndex proposalId vote).keys = [(bundleIndex, proposalId)] :=
          rfl
        rw [List.map_cons, List.filter_cons_of_pos (by simpa using hfresh), hkeys,
          List.mem_singleton, List.mem_cons]
      · obtain rfl : key = (bundleIndex, proposalId) := List.mem_singleton.mp hkey
        exact fun hmem => hnodup.1 (List.mem_filter.mp hmem).1
      · have hmem := hahead key b digest hid hunclaimed
        rw [List.map_cons, List.mem_cons] at hmem
        refine hmem.resolve_left fun heq => ?_
        simp [heq, hown] at hid
    | some batch =>
      simp only [hbatch, except_bind_eq_ok, except_pure_eq_ok] at h
      obtain ⟨⟨unit, grouped'⟩, hunit, rest, hunits, rfl⟩ := h
      have hnames := hrows _ _ _ hvote hbatch
      have hfibre := batchUnit_fibre hnames hbatch hunit
      obtain ⟨hgroupedNodup', hkeysNodup⟩ := nodup_batchUnit_keys hgroupedNodup hunit
      have hid := (batchUnit_eq_ok hunit).1
      have hown : snapshot.unitId (bundleIndex, proposalId) = some unit.id := by
        rw [hid]
        exact unitId_of_batch hvote hbatch
      have hunclaimed : unit.id ∉ claimed := fun hmem => hfresh ((hgrouped _).mpr ⟨_, hmem, hown⟩)
      have hclaimed' : ∀ key, key ∈ grouped' ↔
          ∃ id ∈ unit.id :: claimed, snapshot.unitId key = some id := by
        intro key
        rw [mem_grouped_of_batchUnit hunit, hfibre, hgrouped, List.exists_mem_cons_iff]
      have hahead' : ∀ key b digest, snapshot.unitId key = some (.batch b digest) →
          .batch b digest ∉ unit.id :: claimed → key ∈ votes.map (·.1) := by
        intro key b digest hkey hunclaimed'
        rw [List.mem_cons, not_or] at hunclaimed'
        have hmem := hahead key b digest hkey hunclaimed'.2
        rw [List.map_cons, List.mem_cons] at hmem
        refine hmem.resolve_left fun heq => hunclaimed'.1 ?_
        simpa [heq, hown] using hkey.symm
      refine .cons hfibre hkeysNodup (fun b digest hid' => ?_) (fun key => ?_)
        (fun key hkey hmem => ?_) (ih hrest hnodup.2 hgroupedNodup' hclaimed' hahead' hunits)
      · obtain ⟨-, rfl⟩ := VoteUnitId.batch.inj (hid.symm.trans hid')
        exact batchUnit_isBatch hnames hunit
      · simp only [List.map_cons, List.mem_filter, List.mem_cons, decide_eq_true_eq,
          mem_grouped_of_batchUnit hunit, not_or]
        constructor
        · rintro ⟨hmem, hpending⟩
          by_cases hkey : key ∈ unit.keys
          · exact .inl hkey
          · refine .inr ⟨hmem.resolve_left fun heq => hkey ?_, hkey, hpending⟩
            rw [heq, hfibre, hown]
        · rintro (hkey | ⟨hmem, -, hpending⟩)
          · -- the batch is not claimed yet, so none of its rows is and all are ahead
            rw [hfibre] at hkey
            refine ⟨?_, fun hmem => ?_⟩
            · simpa using hahead key _ _ (hkey.trans (congrArg some hid)) (hid ▸ hunclaimed)
            · obtain ⟨id, hclaimed, hid'⟩ := (hgrouped key).mp hmem
              rw [hkey, Option.some.injEq] at hid'
              exact hunclaimed (hid' ▸ hclaimed)
          · exact ⟨.inr hmem, hpending⟩
      · have hgrouped' : key ∉ grouped' := by simpa using (List.mem_filter.mp hmem).2
        exact hgrouped' ((mem_grouped_of_batchUnit hunit key).mpr (.inl hkey))

theorem nodup_votesInOrder (snapshot : RoundSnapshot) :
    (snapshot.votesInOrder.map (·.1)).Nodup :=
  ((List.perm_insertionSort _ _).map _).nodup_iff.mpr snapshot.votes.nodup_rows_keys

/-- Accepted units are the fibres of `unitId` over the vote rows. -/
theorem groupVoteUnits_fibres (hrows : snapshot.BatchesNameRows)
    (h : groupVoteUnits P snapshot intents = .ok units) :
    UnitFibres snapshot (snapshot.votesInOrder.map (·.1)) units := by
  have hnone : ∀ key, key ∈ ([] : List (Nat × Nat)) ↔
      ∃ id ∈ ([] : List VoteUnitId), snapshot.unitId key = some id := by simp
  have hfibres := groupVotes_fibres hrows (fun _ hmem => Table.mem_ascending.mp hmem)
    (nodup_votesInOrder snapshot) List.nodup_nil hnone (fun key b digest hid _ => by
      obtain ⟨vote, hvote, -⟩ := Option.map_eq_some_iff.mp hid
      exact List.mem_map.mpr ⟨(key, vote), Table.mem_ascending.mpr hvote, rfl⟩) h
  rwa [List.filter_eq_self.mpr (by simp)] at hfibres

/-! ## The partition -/

namespace UnitFibres

variable {units : List VoteUnit}
  (h : UnitFibres snapshot (snapshot.votesInOrder.map (·.1)) units)

include h

/-- Two units that share a row are one. -/
theorem eq_of_mem {unit other : VoteUnit} (hunit : unit ∈ units) (hother : other ∈ units)
    {key : Nat × Nat} (hkey : key ∈ unit.keys) (hkey' : key ∈ other.keys) : unit = other := by
  rw [h.fibre unit hunit] at hkey
  rw [h.fibre other hother, hkey, Option.some.injEq] at hkey'
  exact List.inj_on_of_nodup_map h.nodup_ids hunit hother hkey'

/-- Every row is in a unit. -/
theorem exists_unit {key : Nat × Nat} {vote : VoteSnapshot}
    (hvote : snapshot.votes.lookup key = some vote) : ∃ unit ∈ units, key ∈ unit.keys := by
  obtain ⟨unit, hunit, hid⟩ := h.unit_of_pending key
    (List.mem_map.mpr ⟨(key, vote), Table.mem_ascending.mpr hvote, rfl⟩)
  exact ⟨unit, hunit, (h.fibre unit hunit key).mpr hid⟩

/-- The units' rows, together, are the vote rows, each once. -/
theorem rows_perm : (units.flatMap (·.keys)).Perm (snapshot.votesInOrder.map (·.1)) := by
  refine (List.perm_ext_iff_of_nodup ?_ (nodup_votesInOrder snapshot)).mpr fun key => ?_
  · rw [List.nodup_flatMap]
    refine ⟨h.nodup_keys, ?_⟩
    have hids := h.nodup_ids
    rw [List.Nodup, List.pairwise_map] at hids
    refine hids.imp_of_mem fun {unit other} hunit hother hne key hkey hkey' => hne ?_
    rw [h.eq_of_mem hunit hother hkey hkey']
  · rw [List.mem_flatMap]
    constructor
    · rintro ⟨unit, hunit, hkey⟩
      obtain ⟨vote, hvote, -⟩ := Option.map_eq_some_iff.mp ((h.fibre unit hunit key).mp hkey)
      exact List.mem_map.mpr ⟨(key, vote), Table.mem_ascending.mpr hvote, rfl⟩
    · intro hkey
      obtain ⟨unit, hunit, hid⟩ := h.unit_of_pending key hkey
      exact ⟨unit, hunit, (h.fibre unit hunit key).mpr hid⟩

end UnitFibres

/-- Only a snapshot whose batches name their rows is partitioned into batches that carry
the recoveries of their places. -/
theorem batchesNameRows_of_partition (h : groupVoteUnits P snapshot intents = .ok units)
    (hperm : (units.flatMap (·.keys)).Perm (snapshot.votesInOrder.map (·.1)))
    (hbatches : ∀ unit ∈ units, ∀ bundleIndex digest, unit.id = .batch bundleIndex digest →
      unit.IsBatch snapshot digest) : snapshot.BatchesNameRows := by
  rintro ⟨bundleIndex, proposalId⟩ vote batch hvote hbatch
  have hrow : (bundleIndex, proposalId) ∈ snapshot.votesInOrder.map (·.1) :=
    List.mem_map.mpr ⟨_, Table.mem_ascending.mpr hvote, rfl⟩
  obtain ⟨unit, hunit, hkey⟩ := List.mem_flatMap.mp (hperm.mem_iff.mpr hrow)
  obtain ⟨⟨key, stored⟩, hentry, ⟨hnone, rfl⟩ | ⟨own, before, after, -, hgrouped⟩⟩ :=
    mem_groupVotes h hunit
  · -- a unit of its own is that of a vote without a batch
    obtain rfl : (bundleIndex, proposalId) = key := List.mem_singleton.mp hkey
    obtain rfl : stored = vote := by simpa [hvote] using (Table.mem_ascending.mp hentry).symm
    simp [hnone] at hbatch
  · obtain ⟨hid, hbundle, -⟩ := batchUnit_eq_ok hgrouped
    have hisBatch := hbatches unit hunit _ _ hid
    obtain ⟨hbundle', hmem⟩ := VoteUnit.mem_keys.mp hkey
    obtain rfl : key.1 = bundleIndex := hbundle.symm.trans hbundle'
    obtain ⟨member, hmember, rfl⟩ := List.mem_map.mp hmem
    have hown := recovery_of_mem_batchUnit hgrouped hmember hvote
    -- so the batch that the vote names is the one it is a member of
    obtain ⟨i, hi, rfl⟩ := List.getElem_of_mem hmember
    have hplace := List.getElem_of_eq hisBatch.places (by simpa using hi)
    simp only [List.getElem_map, List.getElem_range, hown, recovery_of_batch? hbatch,
      Option.map_some, Option.some.injEq, Prod.mk.injEq] at hplace
    rw [hplace.1]
    exact namesRows_of_isBatch hgrouped hisBatch

end

end ZcashVoting
