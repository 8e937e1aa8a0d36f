import ZcashVoting.Lib.Canonical
import ZcashVoting.ChainSubmission.Store.Sqlite
import ZcashVoting.ChainSubmission.Transcript
import ZcashVoting.RoundPlanning.Snapshot

/-!
# ZcashVoting.RoundPlanning.LifecycleHashes

The two readers of the hashes in `chain_submissions`: a point query for one target, and
the single pass that builds the planner's map.  Both are stated over the columns as SQLite
holds them, because the pass reads shapes the point queries never ask about.
-/

open Canonical

namespace ZcashVoting

open Transaction

/-! ## Stored rows -/

/-- The columns of one `chain_submissions` row that the readers select. -/
structure SubmissionColumns where
  roundId : String
  walletId : String
  kind : String
  bundleIndex : Int
  proposalId : Option Int
  orderedBatchDigest : Option Bytes
  candidateTransactionHash : Option Bytes
  confirmedTransactionHash : Option Bytes
  deriving DecidableEq

/-- SQL `AND`; `none` is `NULL`. -/
def sqlAnd : Option Bool → Option Bool → Option Bool
  | some false, _ => some false
  | _, some false => some false
  | some true, some true => some true
  | _, _ => none

/-- SQL `OR`. -/
def sqlOr : Option Bool → Option Bool → Option Bool
  | some true, _ => some true
  | _, some true => some true
  | some false, some false => some false
  | _, _ => none

@[simp] theorem sqlAnd_eq_true {a b : Option Bool} :
    sqlAnd a b = some true ↔ a = some true ∧ b = some true := by
  rcases a with _ | _ | _ <;> rcases b with _ | _ | _ <;> simp [sqlAnd]

@[simp] theorem sqlOr_eq_true {a b : Option Bool} :
    sqlOr a b = some true ↔ a = some true ∨ b = some true := by
  rcases a with _ | _ | _ <;> rcases b with _ | _ | _ <;> simp [sqlOr]

namespace SubmissionColumns

/-- The kinds that carry a batch. -/
def batchKinds : List String := ["vote_batch", "delegate_and_cast_vote_batch"]

/-- `CHECK (kind IN (...))`. -/
def kindCheck (row : SubmissionColumns) : Option Bool :=
  some (row.kind ∈ ["delegation", "vote"] ++ batchKinds)

/-- `CHECK (... IS NULL OR length(...) = 32)` on the two hashes. -/
def hashCheck (row : SubmissionColumns) : Option Bool :=
  some (row.candidateTransactionHash.all (·.length = 32) ∧
    row.confirmedTransactionHash.all (·.length = 32))

/-- `CHECK (bundle_index BETWEEN 0 AND 4294967295)`. -/
def bundleCheck (row : SubmissionColumns) : Option Bool :=
  some (0 ≤ row.bundleIndex ∧ row.bundleIndex ≤ 4294967295)

/-- The `CHECK` on the columns that name the target.  Comparing an absent proposal or the
length of an absent digest is `NULL`. -/
def targetCheck (row : SubmissionColumns) : Option Bool :=
  sqlOr (sqlOr
    (sqlAnd (sqlAnd (some (row.kind = "delegation")) (some row.proposalId.isNone))
      (some row.orderedBatchDigest.isNone))
    (sqlAnd (sqlAnd (some (row.kind = "vote"))
      (row.proposalId.map fun id => decide (1 ≤ id ∧ id ≤ 50)))
      (some row.orderedBatchDigest.isNone)))
    (sqlAnd (sqlAnd (some (row.kind ∈ batchKinds)) (some row.proposalId.isNone))
      (row.orderedBatchDigest.map fun digest => decide (digest.length = 32)))

/-- SQLite stores a row unless a `CHECK` is false; one that is `NULL` passes. -/
def stored (row : SubmissionColumns) : Bool :=
  [row.kindCheck, row.bundleCheck, row.targetCheck, row.hashCheck].all (· ≠ some false)

/-- The row names its target: the `CHECK`s on it are true. -/
def Named (row : SubmissionColumns) : Prop :=
  row.bundleCheck = some true ∧ row.targetCheck = some true

instance (row : SubmissionColumns) : Decidable row.Named := inferInstanceAs (Decidable (_ ∧ _))

/-- `COALESCE(confirmed_transaction_hash, candidate_transaction_hash)`. -/
def transactionHash (row : SubmissionColumns) : Option Bytes :=
  row.confirmedTransactionHash.or row.candidateTransactionHash

/-! ## The point query -/

/-- The condition a target adds to the query. -/
def isFor (row : SubmissionColumns) : PlanningTarget → Bool
  | .delegation => row.kind ∈ ["delegation", "delegate_and_cast_vote_batch"]
  | .vote proposalId => row.kind = "vote" ∧ row.proposalId = some (proposalId : Int)
  | .voteBatch digest => row.kind ∈ batchKinds ∧ row.orderedBatchDigest = some digest.val

/-- `lifecycle_transaction_hash`: the distinct hashes of the target, two at most, and the
only one of them. -/
def lifecycleTransactionHash (rows : List SubmissionColumns) (walletId roundId : String)
    (bundleIndex : Nat) (target : PlanningTarget) : Except VotingError (Option String) :=
  let selected := rows.filterMap fun row =>
    if row.roundId = roundId ∧ row.walletId = walletId ∧ row.bundleIndex = (bundleIndex : Int) ∧
      row.isFor target then row.transactionHash else none
  let hashes := (distinctBy id selected).take 2
  .ok ((sole hashes).map hex)

/-! ## The single pass -/

/-- `as u32`. -/
def asU32 (value : Int) : Nat := (value % 2 ^ 32).toNat

/-- The key of a row's own target. -/
def lifecycleHashKey (row : SubmissionColumns) : Except VotingError LifecycleHashKey :=
  let bundleIndex := asU32 row.bundleIndex
  let kind := row.kind
  let unexpected := Except.error (.internal
    s!"chain submission row has unexpected shape for kind {kind}")
  if kind = "delegation" then .ok ⟨bundleIndex, .delegation⟩
  else if kind = "vote" then
    match row.proposalId with
    | some proposalId => .ok ⟨bundleIndex, .vote (asU32 proposalId)⟩
    | none => unexpected
  else if kind ∈ batchKinds then
    match row.orderedBatchDigest with
    | some digest =>
      if h : digest.length = 32 then .ok ⟨bundleIndex, .voteBatch ⟨digest, h⟩⟩
      else .error (.internal "stored ordered batch digest is not 32 bytes")
    | none => unexpected
  else unexpected

/-- One turn of the pass.  A combined row owns the batch and its delegation. -/
def recordRow (lifecycle : LifecycleTransactionHashes) (row : SubmissionColumns) :
    Except VotingError LifecycleTransactionHashes :=
  match row.transactionHash with
  | none => .ok lifecycle
  | some hash => do
    let key ← row.lifecycleHashKey
    let lifecycle :=
      if row.kind = "delegate_and_cast_vote_batch" then
        lifecycle.record ⟨asU32 row.bundleIndex, .delegation⟩ hash
      else lifecycle
    return lifecycle.record key hash

/-- `lifecycle_transaction_hashes`. -/
def lifecycleTransactionHashes (rows : List SubmissionColumns) (walletId roundId : String) :
    Except VotingError LifecycleTransactionHashes :=
  (rows.filter fun row => row.roundId = roundId ∧ row.walletId = walletId).foldlM recordRow {}

end SubmissionColumns

/-! ## What the map holds -/

namespace LifecycleTransactionHashes

variable {lifecycle : LifecycleTransactionHashes} {key key' : LifecycleHashKey} {hash hash' : Bytes}

/-- The distinct hashes known at a key. -/
def known (lifecycle : LifecycleTransactionHashes) (key : LifecycleHashKey) : List Bytes :=
  ((lifecycle.hashes.lookup key).map (·.val)).getD []

theorem nodup_known (lifecycle : LifecycleTransactionHashes) (key : LifecycleHashKey) :
    (lifecycle.known key).Nodup := by
  unfold known
  cases lifecycle.hashes.lookup key with
  | none => exact List.nodup_nil
  | some distinct => exact distinct.property

theorem hash_eq_sole (bundleIndex : Nat) (target : PlanningTarget) :
    lifecycle.hash bundleIndex target = (sole (lifecycle.known ⟨bundleIndex, target⟩)).map hex := by
  unfold LifecycleTransactionHashes.hash known
  generalize lifecycle.hashes.lookup ⟨bundleIndex, target⟩ = found
  match found with
  | none | some ⟨[], _⟩ | some ⟨[_], _⟩ | some ⟨_ :: _ :: _, _⟩ => rfl

@[simp] theorem mem_known_record :
    hash' ∈ (lifecycle.record key hash).known key' ↔
      (key' = key ∧ hash' = hash) ∨ hash' ∈ lifecycle.known key' := by
  unfold record known
  rw [Table.lookup_insert_eq]
  by_cases h : key' = key
  · subst h
    simp only [↓reduceIte, Option.map_some, Option.getD_some, List.mem_insert_iff, true_and]
    cases lifecycle.hashes.lookup key' <;> rfl
  · simp [h]

@[simp] theorem known_empty : (({} : LifecycleTransactionHashes).known key) = [] := rfl

end LifecycleTransactionHashes

/-! ## The two readers agree -/

namespace SubmissionColumns

open LifecycleTransactionHashes

variable {row : SubmissionColumns} {lifecycle lifecycle' : LifecycleTransactionHashes}
  {bundleIndex : Nat} {target : PlanningTarget} {hash : Bytes}

/-- The row is selected for a target of a bundle, and this is its hash. -/
def Reports (row : SubmissionColumns) (bundleIndex : Nat) (target : PlanningTarget)
    (hash : Bytes) : Prop :=
  row.bundleIndex = bundleIndex ∧ row.isFor target = true ∧ row.transactionHash = some hash

theorem asU32_of_bundleCheck (h : row.bundleCheck = some true) :
    (asU32 row.bundleIndex : Int) = row.bundleIndex := by
  simp only [bundleCheck, Option.some.injEq, decide_eq_true_eq] at h
  unfold asU32
  omega

/-- A row that names its target has the shape of its kind. -/
theorem targetCheck_eq_true : row.targetCheck = some true ↔
    (row.kind = "delegation" ∧ row.proposalId = none ∧ row.orderedBatchDigest = none) ∨
    (row.kind = "vote" ∧ (∃ id, row.proposalId = some id ∧ 1 ≤ id ∧ id ≤ 50) ∧
      row.orderedBatchDigest = none) ∨
    (row.kind ∈ batchKinds ∧ row.proposalId = none ∧
      ∃ digest, row.orderedBatchDigest = some digest ∧ digest.length = 32) := by
  simp [targetCheck, and_assoc, or_assoc]

/-- One turn adds the hash of the row to exactly the targets the row is selected for. -/
theorem recordRow_named (hnamed : row.transactionHash ≠ none → row.Named)
    (lifecycle : LifecycleTransactionHashes) :
    ∃ lifecycle', recordRow lifecycle row = .ok lifecycle' ∧
      ∀ bundleIndex target hash, hash ∈ lifecycle'.known ⟨bundleIndex, target⟩ ↔
        row.Reports bundleIndex target hash ∨ hash ∈ lifecycle.known ⟨bundleIndex, target⟩ := by
  unfold recordRow Reports
  cases hhash : row.transactionHash with
  | none => exact ⟨lifecycle, rfl, by simp⟩
  | some stored =>
    have hnamed := hnamed (by simp [hhash])
    have hbundle := asU32_of_bundleCheck hnamed.1
    rcases targetCheck_eq_true.mp hnamed.2 with
      ⟨hkind, -, -⟩ | ⟨hkind, ⟨id, hid, hpos, hle⟩, -⟩ | ⟨hkind, -, digest, hdigest, hlength⟩
    · refine ⟨lifecycle.record ⟨asU32 row.bundleIndex, .delegation⟩ stored, ?_, ?_⟩
      · simp [lifecycleHashKey, hkind]
      · intro bundleIndex target hash
        cases target <;> simp [isFor, hkind, batchKinds]
        grind
    · refine ⟨lifecycle.record ⟨asU32 row.bundleIndex, .vote (asU32 id)⟩ stored, ?_, ?_⟩
      · simp [lifecycleHashKey, hkind, hid]
      · intro bundleIndex target hash
        have hid' : (asU32 id : Int) = id := by
          unfold asU32
          omega
        cases target <;> simp [isFor, hkind, hid, batchKinds]
        grind
    · have hnot : row.kind ≠ "delegation" ∧ row.kind ≠ "vote" := by
        constructor <;> rintro h <;> simp [h, batchKinds] at hkind
      by_cases hcombined : row.kind = "delegate_and_cast_vote_batch"
      · refine ⟨(lifecycle.record ⟨asU32 row.bundleIndex, .delegation⟩ stored).record
          ⟨asU32 row.bundleIndex, .voteBatch ⟨digest, hlength⟩⟩ stored, ?_, ?_⟩
        · simp [lifecycleHashKey, hcombined, batchKinds, hdigest, hlength]
        · intro bundleIndex target hash
          cases target <;> simp [isFor, hcombined, hdigest, batchKinds] <;> grind
      · refine ⟨lifecycle.record ⟨asU32 row.bundleIndex, .voteBatch ⟨digest, hlength⟩⟩ stored,
          ?_, ?_⟩
        · simp [lifecycleHashKey, hnot, hcombined, hkind, hdigest, hlength]
        · intro bundleIndex target hash
          cases target <;> simp [isFor, hnot, hkind, hcombined, hdigest]
          grind

/-- A pass over rows that have no hash or name their targets succeeds, and holds at every target
the hashes of the rows the point query selects. -/
theorem foldlM_recordRow {rows : List SubmissionColumns}
    (hnamed : ∀ row ∈ rows, row.transactionHash ≠ none → row.Named) (lifecycle : LifecycleTransactionHashes) :
    ∃ lifecycle', rows.foldlM recordRow lifecycle = .ok lifecycle' ∧
      ∀ bundleIndex target hash, hash ∈ lifecycle'.known ⟨bundleIndex, target⟩ ↔
        (∃ row ∈ rows, row.Reports bundleIndex target hash) ∨
          hash ∈ lifecycle.known ⟨bundleIndex, target⟩ := by
  induction rows generalizing lifecycle with
  | nil => exact ⟨lifecycle, rfl, by simp⟩
  | cons row rows ih =>
    obtain ⟨next, hnext, hadded⟩ := recordRow_named (hnamed row List.mem_cons_self) lifecycle
    obtain ⟨last, hlast, hrest⟩ := ih (fun row h => hnamed row (List.mem_cons_of_mem _ h)) next
    refine ⟨last, ?_, fun bundleIndex target hash => ?_⟩
    · rw [List.foldlM_cons, hnext]
      exact hlast
    · rw [hrest, hadded]
      simp only [List.mem_cons, exists_eq_or_imp]
      rw [or_left_comm, or_assoc]

/-- If the hashed rows of the wallet and round name their targets, the map built in one pass
answers every target as the point query does. -/
theorem map_hash_of_named (rows : List SubmissionColumns) (walletId roundId : String)
    (hnamed : ∀ row ∈ rows, row.roundId = roundId → row.walletId = walletId →
      row.transactionHash ≠ none → row.Named) (bundleIndex : Nat) (target : PlanningTarget) :
    (lifecycleTransactionHashes rows walletId roundId).map (·.hash bundleIndex target)
      = lifecycleTransactionHash rows walletId roundId bundleIndex target := by
  have hnamed' : ∀ row ∈ rows.filter (fun row => row.roundId = roundId ∧ row.walletId = walletId),
      row.transactionHash ≠ none → row.Named := by
    intro row hrow
    obtain ⟨hmem, hround, hwallet⟩ := by simpa using hrow
    exact hnamed row hmem hround hwallet
  obtain ⟨lifecycle, hpass, hmem⟩ := foldlM_recordRow hnamed' {}
  rw [lifecycleTransactionHashes, hpass, lifecycleTransactionHash]
  simp only [Except.map, sole_take_two, hash_eq_sole]
  congr 2
  refine sole_eq_of_mem_iff (nodup_known _ _) (nodup_distinctBy _) fun hash => ?_
  have hdistinct : ∀ selected : List Bytes, hash ∈ distinctBy id selected ↔ hash ∈ selected :=
    fun _ => mem_distinctBy fun _ _ _ _ h => h
  rw [hmem, hdistinct]
  simp only [known_empty, List.not_mem_nil, or_false, Reports, List.mem_filter, List.mem_filterMap,
    decide_eq_true_eq, Option.ite_none_right_eq_some]
  constructor
  · rintro ⟨row, ⟨hrow, hround, hwallet⟩, hbundle, hfor, hhash⟩
    exact ⟨row, hrow, ⟨hround, hwallet, hbundle, hfor⟩, hhash⟩
  · rintro ⟨row, hrow, ⟨hround, hwallet, hbundle, hfor⟩, hhash⟩
    exact ⟨row, ⟨hrow, hround, hwallet⟩, hbundle, hfor, hhash⟩

end SubmissionColumns

/-! ## The columns of typed rows -/

/-- The columns that are bound for a submission. -/
def submissionColumns (identity : ChainSubmissionIdentity) (row : ChainSubmissionRow) :
    SubmissionColumns where
  roundId := hex identity.voteRoundId.val.val
  walletId := identity.walletId
  kind := identity.targetColumns.1
  bundleIndex := identity.bundleIndex
  proposalId := identity.targetColumns.2.1.map Int.ofNat
  orderedBatchDigest := identity.targetColumns.2.2
  candidateTransactionHash := row.candidateTransactionHash.map (·.val)
  confirmedTransactionHash := row.confirmedTransactionHash.map (·.val)

/-- What the store writes names its target. -/
theorem named_submissionColumns (identity : ChainSubmissionIdentity) (row : ChainSubmissionRow) :
    (submissionColumns identity row).Named := by
  have hbundle := identity.bundleIndex_le
  have hvalid := identity.target_valid
  constructor
  · unfold u32Max at hbundle
    simp [SubmissionColumns.bundleCheck, submissionColumns]
    omega
  · rw [SubmissionColumns.targetCheck_eq_true]
    simp only [submissionColumns, ChainSubmissionIdentity.targetColumns]
    cases htarget : identity.target with
    | delegation => simp
    | vote proposalId =>
      rw [htarget] at hvalid
      simp only [ChainSubmissionTarget.Valid, minProposalId, maxProposalId] at hvalid
      simp
      omega
    | voteBatch digest => simp [SubmissionColumns.batchKinds, digest.property]
    | delegateAndVoteBatch digest => simp [SubmissionColumns.batchKinds, digest.property]

/-- One turn over a typed row. -/
theorem recordRow_submissionColumns (lifecycle : LifecycleTransactionHashes)
    (identity : ChainSubmissionIdentity) (row : ChainSubmissionRow) :
    SubmissionColumns.recordRow lifecycle (submissionColumns identity row) =
      .ok (match row.confirmedTransactionHash.or row.candidateTransactionHash with
        | none => lifecycle
        | some hash =>
          let lifecycle :=
            if identity.target.isCombined then
              lifecycle.record ⟨identity.bundleIndex, .delegation⟩ hash.val
            else lifecycle
          lifecycle.record ⟨identity.bundleIndex, identity.target.planning⟩ hash.val) := by
  have hbundle : SubmissionColumns.asU32 identity.bundleIndex = identity.bundleIndex := by
    have := identity.bundleIndex_le
    unfold u32Max at this
    unfold SubmissionColumns.asU32
    omega
  have hhash : (submissionColumns identity row).transactionHash
      = (row.confirmedTransactionHash.or row.candidateTransactionHash).map (·.val) := by
    simp only [SubmissionColumns.transactionHash, submissionColumns]
    cases row.confirmedTransactionHash <;> rfl
  unfold SubmissionColumns.recordRow
  rw [hhash]
  cases row.confirmedTransactionHash.or row.candidateTransactionHash with
  | none => rfl
  | some hash =>
    have hvalid := identity.target_valid
    cases htarget : identity.target with
    | vote proposalId =>
      have hproposal : SubmissionColumns.asU32 proposalId = proposalId := by
        rw [htarget] at hvalid
        simp only [ChainSubmissionTarget.Valid, minProposalId, maxProposalId] at hvalid
        unfold SubmissionColumns.asU32
        omega
      simp [SubmissionColumns.lifecycleHashKey, submissionColumns,
        ChainSubmissionIdentity.targetColumns, htarget, hbundle, hproposal,
        ChainSubmissionTarget.isCombined, ChainSubmissionTarget.planning]
    | delegation =>
      simp [SubmissionColumns.lifecycleHashKey, submissionColumns,
        ChainSubmissionIdentity.targetColumns, htarget, hbundle,
        ChainSubmissionTarget.isCombined, ChainSubmissionTarget.planning]
    | voteBatch digest | delegateAndVoteBatch digest =>
      simp [SubmissionColumns.lifecycleHashKey, submissionColumns, SubmissionColumns.batchKinds,
        ChainSubmissionIdentity.targetColumns, htarget, hbundle, digest.property,
        ChainSubmissionTarget.isCombined, ChainSubmissionTarget.planning]

/-- The planner's map is the pass over the stored columns. -/
theorem lifecycleTransactionHashes_columns (round : RoundKey) (db : Db) :
    SubmissionColumns.lifecycleTransactionHashes
        (db.chainSubmissions.rows.map fun (identity, row) => submissionColumns identity row)
        round.walletId (hex round.roundId.val.val)
      = .ok (lifecycleTransactionHashes round db) := by
  have hselect : ∀ entry : ChainSubmissionIdentity × ChainSubmissionRow,
      ((submissionColumns entry.1 entry.2).roundId = hex round.roundId.val.val ∧
        (submissionColumns entry.1 entry.2).walletId = round.walletId)
      ↔ entry.1.bundleKey.round = round := by
    rintro ⟨identity, row⟩
    obtain ⟨roundId, walletId⟩ := round
    have hround : hex identity.voteRoundId.val.val = hex roundId.val.val
        ↔ identity.voteRoundId = roundId := by
      refine ⟨fun h => ?_, fun h => h ▸ rfl⟩
      have hlength : identity.voteRoundId.val.val.length = roundId.val.val.length := by
        rw [identity.voteRoundId.val.property, roundId.val.property]
      exact Subtype.ext (Subtype.ext (hex_inj hlength h))
    simp [submissionColumns, ChainSubmissionIdentity.bundleKey, BundleKey.round, hround]
  unfold SubmissionColumns.lifecycleTransactionHashes lifecycleTransactionHashes
  rw [List.filter_map]
  simp only [Function.comp_def, hselect]
  generalize db.chainSubmissions.rows.filter _ = entries
  generalize ({} : LifecycleTransactionHashes) = lifecycle
  induction entries generalizing lifecycle with
  | nil => rfl
  | cons entry entries ih =>
    rw [List.map_cons, List.foldlM_cons, recordRow_submissionColumns]
    exact ih _

/-- **Batched and single lookups agree** wherever the rows of the wallet and round that have a
hash name their targets, and so on every table the store writes: for every bundle and target the
map built in one pass answers as the point query does. -/
theorem lifecycle_lookups_agree :
    (∀ (rows : List SubmissionColumns) (walletId roundId : String),
      (∀ row ∈ rows, row.roundId = roundId → row.walletId = walletId →
        row.transactionHash ≠ none → row.Named) → ∀ bundleIndex target,
        (SubmissionColumns.lifecycleTransactionHashes rows walletId roundId).map
            (·.hash bundleIndex target)
          = SubmissionColumns.lifecycleTransactionHash rows walletId roundId bundleIndex target) ∧
    (∀ (round : RoundKey) (db : Db) bundleIndex target,
      .ok ((lifecycleTransactionHashes round db).hash bundleIndex target)
        = SubmissionColumns.lifecycleTransactionHash
            (db.chainSubmissions.rows.map fun (identity, row) => submissionColumns identity row)
            round.walletId (hex round.roundId.val.val) bundleIndex target) := by
  constructor
  · exact fun rows walletId roundId hnamed bundleIndex target =>
      SubmissionColumns.map_hash_of_named rows walletId roundId hnamed bundleIndex target
  · intro round db bundleIndex target
    rw [← SubmissionColumns.map_hash_of_named, lifecycleTransactionHashes_columns]
    · rfl
    · intro columns hcolumns _ _ _
      obtain ⟨entry, -, rfl⟩ := List.mem_map.mp hcolumns
      exact named_submissionColumns entry.1 entry.2

namespace SubmissionColumns

/-- A combined row in flight. -/
def combinedSample : SubmissionColumns where
  roundId := "round"
  walletId := "wallet"
  kind := "delegate_and_cast_vote_batch"
  bundleIndex := 0
  proposalId := none
  orderedBatchDigest := some (List.replicate 32 7)
  candidateTransactionHash := some (List.replicate 32 1)
  confirmedTransactionHash := none

/-- Two rows that do not name their targets: one of another wallet, one without a hash. -/
def ignoredSamples : List SubmissionColumns :=
  [{ combinedSample with walletId := "other", orderedBatchDigest := none },
    { combinedSample with candidateTransactionHash := none, orderedBatchDigest := none }]

/-- The combined row answers for the bundle's delegation in both readers. -/
theorem lifecycle_lookups_agree_combined :
    (∀ row ∈ ignoredSamples, ¬ row.Named) ∧
    lifecycleTransactionHash (combinedSample :: ignoredSamples) "wallet" "round" 0 .delegation
        = .ok (some (hex (List.replicate 32 1))) ∧
      (lifecycleTransactionHashes (combinedSample :: ignoredSamples) "wallet" "round").map
          (·.hash 0 .delegation)
        = lifecycleTransactionHash (combinedSample :: ignoredSamples) "wallet" "round" 0
          .delegation :=
  ⟨by decide, rfl, lifecycle_lookups_agree.1 (combinedSample :: ignoredSamples) "wallet" "round"
    (by decide) 0 .delegation⟩

/-- The `CHECK` on a vote row without a proposal is `NULL`, so SQLite stores it; the single
pass fails on it, and the point query for the bundle's delegation does not see it. -/
theorem lifecycle_lookups_differ :
    let row : SubmissionColumns := { combinedSample with kind := "vote", orderedBatchDigest := none }
    row.stored = true ∧
      (lifecycleTransactionHashes [row] "wallet" "round").map (·.hash 0 .delegation)
        = .error (.internal "chain submission row has unexpected shape for kind vote") ∧
      lifecycleTransactionHash [row] "wallet" "round" 0 .delegation = .ok none :=
  ⟨by decide, rfl, rfl⟩

end SubmissionColumns

end ZcashVoting
