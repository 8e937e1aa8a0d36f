import ZcashVoting.Lib.Canonical
import ZcashVoting.ChainSubmission.Store.Runs
import ZcashVoting.Vote.Batch

/-!
# ZcashVoting.Vote.Assembly

What the assembly of an atomic batch accepts.  Among the recoveries of a bundle, in
whatever order they are read, it takes those that name the digest and asks for one at each
place of the batch, all for the same delegation, whose recomputed sighash is the digest.
-/

open Canonical

namespace ZcashVoting

open Transaction

/-- A list is given by its values at the indices. -/
theorem map_eq_map_range {α β : Type} {as : List α} {f : α → β} {g : Nat → β} :
    as.map f = (List.range as.length).map g ↔ ∀ i (h : i < as.length), f as[i] = g i := by
  constructor
  · intro heq i hi
    have hget := List.getElem_of_eq heq (i := i) (by simpa using hi)
    simpa using hget
  · intro h
    refine List.ext_getElem (by simp) fun i hi _ => ?_
    simpa using h i (by simpa using hi)

section Assembly

variable (castVoteBatchSighash :
    VoteRoundId → Nat → List CastVoteBatchSighashAction → Except VotingError Bytes32)
  (delegateAndVoteBatchSighash :
    VoteRoundId → Bytes32 → List CastVoteBatchSighashAction → Except VotingError Bytes32)

/-- The sighash of a batch: a combined batch binds its initial VAN, an ordinary one the
anchor of its first member. -/
def batchSighash (roundId : VoteRoundId) (van : Option Bytes32)
    (members : List VoteRecoveryBundle) : Except VotingError Bytes32 :=
  let actions := members.map VoteRecoveryBundle.sighashAction
  match van with
  | some van => delegateAndVoteBatchSighash roundId van actions
  | none => castVoteBatchSighash roundId ((members.head?.map (·.anchorHeight)).getD 0) actions

/-- The members are a complete batch, in the order of their places. -/
structure CompleteBatch (roundId : VoteRoundId) (batchDigest : Bytes32) (van : Option Bytes32)
    (members : List VoteRecoveryBundle) : Prop where
  ne_nil : members ≠ []
  /-- One member at each place, with the digest, the size and the delegation of the batch. -/
  places : ∀ i (h : i < members.length),
    members[i].batch = some ⟨van, batchDigest, i, members.length⟩
  /-- A combined batch has no anchor. -/
  anchors : van.isSome → ∀ member ∈ members, member.anchorHeight = 0
  sighash : batchSighash castVoteBatchSighash delegateAndVoteBatchSighash roundId van members
    = .ok batchDigest

variable {castVoteBatchSighash delegateAndVoteBatchSighash}
variable {roundId : VoteRoundId} {bundleIndex : Nat} {batchDigest : Bytes32}
  {van : Option Bytes32} {members candidates candidates' : List VoteRecoveryBundle}

namespace CompleteBatch

theorem map_batchIndex (h : CompleteBatch castVoteBatchSighash delegateAndVoteBatchSighash roundId
    batchDigest van members) : members.map (·.batchIndex) = List.range members.length := by
  rw [← List.map_id (List.range _), map_eq_map_range]
  intro i hi
  simp [VoteRecoveryBundle.batchIndex, h.places i hi]

end CompleteBatch

/-- The last check: the recomputed sighash is the digest. -/
theorem recomputed_eq_ok {sighash : Except VotingError Bytes32} {e : VotingError} :
    (sighash >>= fun recomputed => if recomputed ≠ batchDigest then throw e else pure ()) = .ok () ↔
      sighash = .ok batchDigest := by
  cases sighash with
  | error e => constructor <;> intro h <;> cases h
  | ok recomputed =>
    by_cases hdigest : recomputed = batchDigest
    · subst hdigest
      simp
    · simp only [Except.ok.injEq, hdigest, iff_false]
      intro h
      simp [hdigest] at h

/-- What the checks of a first member and the others ask for. -/
theorem validateBatchMembers_cons {first : VoteRecoveryBundle} {rest : List VoteRecoveryBundle} :
    validateBatchMembers castVoteBatchSighash delegateAndVoteBatchSighash roundId bundleIndex
        batchDigest (first :: rest) = .ok () ↔
      (first :: rest).map (fun r => r.batch.map fun b => (b.digest, b.index, b.size))
          = (List.range (first :: rest).length).map
              (fun i => some (batchDigest, i, (first :: rest).length)) ∧
        (∀ member ∈ first :: rest, member.delegationVan? = first.delegationVan? ∧
          (first.delegationVan?.isSome → member.anchorHeight = 0)) ∧
        batchSighash castVoteBatchSighash delegateAndVoteBatchSighash roundId first.delegationVan?
          (first :: rest) = .ok batchDigest := by
  have hsize : (first :: rest).map (fun r => r.batch.map fun b => (b.digest, b.index, b.size))
      = (List.range (first :: rest).length).map
          (fun i => some (batchDigest, i, (first :: rest).length)) →
      (first :: rest).length = (first.batch.map (·.size)).getD 0 := by
    intro h
    have hfirst := map_eq_map_range.mp h 0 (by simp)
    simp only [List.getElem_cons_zero, Option.map_eq_some_iff, Prod.mk.injEq] at hfirst
    obtain ⟨batch, hbatch, -, -, hsize⟩ := hfirst
    simp [hbatch, hsize]
  dsimp only [validateBatchMembers]
  generalize hexpected : (first.batch.map (·.size)).getD 0 = size at hsize ⊢
  by_cases hcomplete : (first :: rest).length = size ∧
      (first :: rest).map (fun r => r.batch.map fun b => (b.digest, b.index, b.size))
        = (List.range (first :: rest).length).map fun i => some (batchDigest, i, size)
  · obtain ⟨rfl, hplaces⟩ := hcomplete
    rw [if_neg (by simpa only [ne_eq, not_true_eq_false, false_or, not_not] using hplaces)]
    simp only [hplaces, true_and]
    by_cases hshared : ∀ member ∈ first :: rest, member.delegationVan? = first.delegationVan? ∧
        (first.delegationVan?.isSome → member.anchorHeight = 0)
    · rw [if_neg]
      · rw [and_iff_right hshared]
        unfold batchSighash
        cases first.delegationVan? with
        | some van => exact recomputed_eq_ok
        | none => exact recomputed_eq_ok
      · simp only [List.any_eq_true, not_exists, not_and]
        intro member hmember
        obtain ⟨hvan, hanchor⟩ := hshared member hmember
        simpa [hvan] using hanchor
    · rw [if_pos]
      · constructor
        · intro h
          cases h
        · exact fun h => absurd h.1 hshared
      · simp only [not_forall] at hshared
        obtain ⟨member, hmember, hdiffers⟩ := hshared
        refine List.any_eq_true.mpr ⟨member, hmember, ?_⟩
        by_cases hvan : member.delegationVan? = first.delegationVan? <;> simp_all
  · rw [if_pos (not_and_or.mp hcomplete)]
    constructor
    · intro h
      cases h
    · rintro ⟨hplaces, -, -⟩
      have hlength := hsize hplaces
      exact absurd ⟨hlength, by rw [← hlength]; exact hplaces⟩ hcomplete

/-- The checks accept exactly the complete batches. -/
theorem validateBatchMembers_iff :
    validateBatchMembers castVoteBatchSighash delegateAndVoteBatchSighash roundId bundleIndex
        batchDigest members = .ok () ↔
      ∃ van, CompleteBatch castVoteBatchSighash delegateAndVoteBatchSighash roundId batchDigest van
        members := by
  cases members with
  | nil =>
    constructor
    · intro h
      cases h
    · rintro ⟨van, h⟩
      exact absurd rfl h.ne_nil
  | cons first rest =>
    rw [validateBatchMembers_cons, map_eq_map_range]
    constructor
    · rintro ⟨hplaces, hshared, hsighash⟩
      refine ⟨first.delegationVan?, List.cons_ne_nil _ _, fun i hi => ?_, fun hvan member hmember =>
        (hshared member hmember).2 hvan, hsighash⟩
      have hvan := (hshared _ (List.getElem_mem hi)).1
      obtain ⟨batch, hbatch, hplace⟩ := Option.map_eq_some_iff.mp (hplaces i hi)
      simp only [Prod.mk.injEq] at hplace
      obtain ⟨hdigest, hindex, hsize⟩ := hplace
      rw [VoteRecoveryBundle.delegationVan?, hbatch, Option.bind_some] at hvan
      rw [hbatch, ← hvan, ← hdigest, ← hindex, ← hsize]
    · rintro ⟨van, h⟩
      have hvan : ∀ member ∈ first :: rest, member.delegationVan? = van := by
        intro member hmember
        obtain ⟨i, hi, rfl⟩ := List.getElem_of_mem hmember
        simp [VoteRecoveryBundle.delegationVan?, h.places i hi]
      have hfirst := hvan first List.mem_cons_self
      refine ⟨fun i hi => by rw [h.places i hi]; rfl, fun member hmember => ?_, ?_⟩
      · rw [hvan member hmember, hfirst]
        exact ⟨rfl, fun hsome => h.anchors hsome member hmember⟩
      · rw [hfirst]
        exact h.sighash

/-- Members whose places are not distinct are refused, whoever comes first. -/
theorem validateBatchMembers_of_not_nodup {members : List VoteRecoveryBundle}
    (h : ¬ (members.map (·.batchIndex)).Nodup) :
    validateBatchMembers castVoteBatchSighash delegateAndVoteBatchSighash roundId bundleIndex
        batchDigest members
      = .error (.invalidInput "persisted atomic vote batch is incomplete or out of order") := by
  cases members with
  | nil => exact absurd List.nodup_nil h
  | cons first rest =>
    dsimp only [validateBatchMembers]
    rw [if_pos]
    · rfl
    · by_contra hcomplete
      simp only [not_or, not_not] at hcomplete
      have hindex : (first :: rest).map (·.batchIndex) = List.range (first :: rest).length := by
        have hplaces := congrArg (List.map fun place : Option (Bytes32 × Nat × Nat) =>
          (place.map fun p => p.2.1).getD 0) hcomplete.2
        simpa [Function.comp_def, VoteRecoveryBundle.batchIndex] using hplaces
      exact h (hindex ▸ List.nodup_range)

/-- Candidates in another order have the same members, or members whose places clash. -/
theorem batchMembers_eq_of_perm (hperm : candidates'.Perm candidates)
    (hnodup : ((batchMembers batchDigest candidates).map (·.batchIndex)).Nodup) :
    batchMembers batchDigest candidates' = batchMembers batchDigest candidates := by
  refine insertionSort_eq_of_perm (fun a ha b hb hab hba => ?_) (hperm.filter _)
  have hmem : ∀ {a}, a ∈ candidates.filter (fun recovery =>
      recovery.batchDigest? = some batchDigest) → a ∈ batchMembers batchDigest candidates :=
    fun h => (batchMembers_perm candidates).mem_iff.mpr h
  exact List.inj_on_of_nodup_map hnodup (hmem ha) (hmem hb) (le_antisymm hab hba)

/-- The order in which the recoveries are read does not matter. -/
theorem assembleVoteBatchRecoveries_perm (hperm : candidates'.Perm candidates) :
    assembleVoteBatchRecoveries castVoteBatchSighash delegateAndVoteBatchSighash roundId bundleIndex
        batchDigest candidates'
      = assembleVoteBatchRecoveries castVoteBatchSighash delegateAndVoteBatchSighash roundId
        bundleIndex batchDigest candidates := by
  rw [assembleVoteBatchRecoveries_eq, assembleVoteBatchRecoveries_eq]
  by_cases hnodup : ((batchMembers batchDigest candidates).map (·.batchIndex)).Nodup
  · rw [batchMembers_eq_of_perm hperm hnodup]
  · have hmembers : (batchMembers batchDigest candidates').Perm (batchMembers batchDigest candidates) :=
      (batchMembers_perm candidates').trans
        ((hperm.filter _).trans (batchMembers_perm candidates).symm)
    have hnodup' : ¬ ((batchMembers batchDigest candidates').map (·.batchIndex)).Nodup := by
      rwa [(hmembers.map _).nodup_iff]
    rw [validateBatchMembers_of_not_nodup hnodup, validateBatchMembers_of_not_nodup hnodup']
    rfl

/-- A complete batch among the candidates is what is selected. -/
theorem batchMembers_eq_of_complete (hcomplete : CompleteBatch castVoteBatchSighash
      delegateAndVoteBatchSighash roundId batchDigest van members)
    (hperm : members.Perm (candidates.filter fun recovery =>
      recovery.batchDigest? = some batchDigest)) :
    batchMembers batchDigest candidates = members := by
  have hindex := hcomplete.map_batchIndex
  have hnodup : (members.map (·.batchIndex)).Nodup := hindex ▸ List.nodup_range
  have hsorted : members.Pairwise fun a b => a.batchIndex ≤ b.batchIndex := by
    have hle : (members.map (·.batchIndex)).Pairwise (· ≤ ·) := hindex ▸ List.pairwise_le_range
    exact List.pairwise_map.mp hle
  unfold batchMembers
  rw [insertionSort_eq_of_perm (fun a ha b hb hab hba => List.inj_on_of_nodup_map hnodup ha hb
    (le_antisymm hab hba)) hperm.symm]
  exact hsorted.insertionSort_eq

end Assembly

/-- **Batch assembly.**  The order in which the recoveries of a bundle are read does not
matter.  Members are returned exactly if the recoveries that name the digest are a complete
batch, and they are these, in the order of their places. -/
theorem assembleVoteBatchRecoveries_exact (castVoteBatchSighash :
      VoteRoundId → Nat → List CastVoteBatchSighashAction → Except VotingError Bytes32)
    (delegateAndVoteBatchSighash :
      VoteRoundId → Bytes32 → List CastVoteBatchSighashAction → Except VotingError Bytes32)
    (roundId : VoteRoundId) (bundleIndex : Nat) (batchDigest : Bytes32)
    (candidates : List VoteRecoveryBundle) :
    let assemble := assembleVoteBatchRecoveries castVoteBatchSighash delegateAndVoteBatchSighash
      roundId bundleIndex batchDigest
    (∀ candidates', candidates'.Perm candidates → assemble candidates' = assemble candidates) ∧
    (∀ members, assemble candidates = .ok members ↔
      members.Perm (candidates.filter fun recovery => recovery.batchDigest? = some batchDigest) ∧
        ∃ van, CompleteBatch castVoteBatchSighash delegateAndVoteBatchSighash roundId batchDigest
          van members) := by
  refine ⟨fun candidates' hperm => assembleVoteBatchRecoveries_perm hperm, fun members => ?_⟩
  rw [assembleVoteBatchRecoveries_eq, except_map_eq_ok]
  constructor
  · rintro ⟨_, hvalid, rfl⟩
    exact ⟨batchMembers_perm candidates, validateBatchMembers_iff.mp hvalid⟩
  · rintro ⟨hperm, van, hcomplete⟩
    have hmembers := batchMembers_eq_of_complete hcomplete hperm
    exact ⟨(), by rw [hmembers]; exact validateBatchMembers_iff.mpr ⟨van, hcomplete⟩, hmembers⟩

/-- A sighash that reads the anchor and the number of actions. -/
def sampleSighash (_ : VoteRoundId) (anchorHeight : Nat)
    (actions : List CastVoteBatchSighashAction) : Except VotingError Bytes32 :=
  .ok (Bytes32.fill (UInt8.ofNat (16 * anchorHeight + actions.length)))

/-- A member of an ordinary batch of two. -/
def anchoredMember (index anchorHeight : Nat) : VoteRecoveryBundle :=
  { sampleVote with
    proposalId := index + 1
    anchorHeight
    batch := some ⟨none, Bytes32.fill 82, index, 2⟩ }

/-- The members of an ordinary batch need not share their anchor: only that of the first
one enters the sighash. -/
theorem assembled_anchors_differ :
    assembleVoteBatchRecoveries sampleSighash (fun _ _ _ => .ok (Bytes32.fill 0)) sampleRound 0
        (Bytes32.fill 82) [anchoredMember 1 6, anchoredMember 0 5]
      = .ok [anchoredMember 0 5, anchoredMember 1 6] ∧
    (anchoredMember 0 5).anchorHeight ≠ (anchoredMember 1 6).anchorHeight := by
  decide +kernel

end ZcashVoting
