import Mathlib.Logic.Relation
import ZcashVoting.ChainSubmission.Store.Operations

/-!
# ZcashVoting.ChainSubmission.Store.Runs

Runs of the store: any sequence of its calls, with any clock readings, from a
database without submissions, while other parts of the crate change the other
tables at will between two calls.

`StoreReachable.invariant` packages the induction: a property of the submissions
table that holds of the empty one and is kept by every `RowStep` holds in every
reachable state.  `Canonical` is the first such property: every row is the row
of a record, so every row loads.
-/

namespace ZcashVoting

open Transaction

/-- One step of a run of the store. -/
inductive StoreStep (P : Primitives) (db : Db) : Db → Prop where
  /-- A call of the store, committed or failed. -/
  | call (op : StoreOp) : StoreStep P db (op.run P db).2
  /-- Anything that leaves the submissions alone. -/
  | other (db' : Db) (h : Same Db.submissions db db') : StoreStep P db db'

/-- The databases a run of the store can reach. -/
def StoreReachable (P : Primitives) (db : Db) : Prop :=
  ∃ start : Db, start.submissions = ∅ ∧ Relation.ReflTransGen (StoreStep P) start db

theorem StoreReachable.step {P : Primitives} {db db' : Db} (h : StoreReachable P db)
    (hstep : StoreStep P db db') : StoreReachable P db' := by
  obtain ⟨start, hstart, hrun⟩ := h
  exact ⟨start, hstart, hrun.tail hstep⟩

/-- A property of the submissions that every `RowStep` keeps. -/
structure RowInvariant (I : Db → Prop) : Prop where
  empty : ∀ db : Db, db.submissions = ∅ → I db
  same : ∀ db db' : Db, I db → Same Db.submissions db db' → I db'
  step : ∀ (db db' : Db) identity row, I db → RowStep db identity row →
    SetsRow db identity row db' → I db'

theorem StoreReachable.invariant {P : Primitives} {I : Db → Prop} (hI : RowInvariant I) {db : Db}
    (h : StoreReachable P db) : I db := by
  obtain ⟨start, hstart, hrun⟩ := h
  induction hrun with
  | refl => exact hI.empty start hstart
  | tail _ hstep ih =>
    cases hstep with
    | call op =>
      obtain ⟨row, hrow, hset⟩ := StoreOp.run_takesRowStep P op _
      exact hI.step _ _ _ row ih hrow hset
    | other _ hsame => exact hI.same _ _ ih hsame

/-! ## Every row loads -/

/-- A diagnostic as its stored text reads back. -/
def ChainSubmissionDiagnostic.reload (diagnostic : ChainSubmissionDiagnostic) :
    ChainSubmissionDiagnostic :=
  .fromRedactedMessage diagnostic.kind diagnostic.message

/-- A state as its stored columns read back: only the text of a diagnostic can
differ. -/
def SubmissionRecordState.reload : SubmissionRecordState → SubmissionRecordState
  | .recovering candidate diagnostic => .recovering candidate diagnostic.reload
  | .submittedWithoutHash diagnostic => .submittedWithoutHash diagnostic.reload
  | .rejected diagnostic => .rejected diagnostic.reload
  | state => state

/-- The diagnostic columns of a persisted state. -/
def StoredChainSubmission.persistedDiagnostic (record : StoredChainSubmission) :
    Option ChainSubmissionDiagnostic :=
  match record.state with
  | .submitting | .confirmed _ => none
  | .tracking _ => record.diagnostic
  | .recovering _ diagnostic | .submittedWithoutHash diagnostic | .rejected diagnostic =>
    some diagnostic

/-- A record as its row reads back. -/
def StoredChainSubmission.reload (record : StoredChainSubmission) : StoredChainSubmission :=
  { record with
    state := record.state.reload
    diagnostic := record.persistedDiagnostic.map (·.reload) }

theorem treePosition?_val (position : TreePosition) : treePosition? position.val = .ok position := by
  simp [treePosition?, position.isLt]

theorem mapM_treePosition?_val (positions : List TreePosition) :
    (positions.map (·.val)).mapM treePosition? = .ok positions := by
  induction positions with
  | nil => rfl
  | cons position positions ih =>
    rw [List.map_cons, List.mapM_cons, treePosition?_val, ih]
    rfl

theorem fromHash_val (hash : CandidateTransactionHash) (van : TreePosition)
    (vcs : List TreePosition) :
    ValidatedChainSubmissionConfirmation.fromHash hash van.val (vcs.map (·.val)) =
      .ok (.hash hash van vcs) := by
  simp only [ValidatedChainSubmissionConfirmation.fromHash, treePosition?_val,
    mapM_treePosition?_val]
  rfl

theorem fromTree_val (van : TreePosition) (vcs : List TreePosition) :
    ValidatedChainSubmissionConfirmation.fromTree van.val (vcs.map (·.val)) =
      .ok (.tree van vcs) := by
  simp only [ValidatedChainSubmissionConfirmation.fromTree, treePosition?_val,
    mapM_treePosition?_val]
  rfl

/-- A persisted record loads, and as itself up to the text of its diagnostic. -/
theorem load_row (record : StoredChainSubmission) :
    record.row.load record.identity = .ok record.reload := by
  obtain ⟨identity, digest, state, reservations, tracking, diagnostic, created, updated⟩ := record
  cases state with
  | confirmed confirmation =>
    cases confirmation with
    | hash hash van vcs =>
      have hvalid := fromHash_val hash van vcs
      simp_all [StoredChainSubmission.row, ChainSubmissionRow.load,
        ChainSubmissionRow.loadDiagnostic, ChainSubmissionRow.loadState,
        ChainSubmissionRow.loadConfirmation, column, check,
        StoredChainSubmission.durableState, SubmissionRecordState.durableState,
        ValidatedChainSubmissionConfirmation.confirmation, StoredChainSubmission.reload,
        SubmissionRecordState.reload, StoredChainSubmission.persistedDiagnostic,
        bind, Except.bind, pure, Except.pure, Except.map]
    | tree van vcs =>
      have hvalid := fromTree_val van vcs
      simp_all [StoredChainSubmission.row, ChainSubmissionRow.load,
        ChainSubmissionRow.loadDiagnostic, ChainSubmissionRow.loadState,
        ChainSubmissionRow.loadConfirmation, column, check,
        StoredChainSubmission.durableState, SubmissionRecordState.durableState,
        ValidatedChainSubmissionConfirmation.confirmation, StoredChainSubmission.reload,
        SubmissionRecordState.reload, StoredChainSubmission.persistedDiagnostic,
        bind, Except.bind, pure, Except.pure, Except.map]
  | tracking candidate => cases diagnostic <;> rfl
  | _ => rfl

/-- Every row is the row of a record of its identity. -/
def Canonical (db : Db) : Prop :=
  ∀ identity row, db.submissions.lookup identity = some row →
    ∃ record : StoredChainSubmission, record.identity = identity ∧ row = record.row

/-- An invariant of each row by itself holds when the row that a step writes meets it. -/
theorem RowInvariant.of_rows {holds : ChainSubmissionIdentity → ChainSubmissionRow → Prop}
    (hrow : ∀ {db identity row new},
      (∀ key old, db.submissions.lookup key = some old → holds key old) →
      RowStep db identity row → row = some new → holds identity new) :
    RowInvariant fun db => ∀ identity row, db.submissions.lookup identity = some row →
      holds identity row where
  empty := by
    intro db hempty identity row hrow
    rw [hempty] at hrow
    cases hrow
  same := by
    intro db db' hI hsame identity row hrow
    rw [show db'.submissions = db.submissions from hsame] at hrow
    exact hI identity row hrow
  step := by
    intro db db' identity row hI hstep hset key new hnew
    rw [hset key] at hnew
    split at hnew
    · next hkey =>
      subst hkey
      exact hrow hI hstep hnew
    · exact hI key new hnew

theorem canonical_invariant : RowInvariant Canonical := by
  refine .of_rows ?_
  intro db identity row new hI hstep hnew
  cases hstep with
  | kept => exact hI identity new hnew
  | reserved digest ordinal now => cases hnew; exact ⟨_, rfl, rfl⟩
  | adopted digest candidate now => cases hnew; exact ⟨_, rfl, rfl⟩
  | moved old record record' hold hload hmove =>
    cases hnew
    exact ⟨record', hmove.bookkept.identity_eq.trans
      (ChainSubmissionRow.loadedFrom hload).identity_eq, rfl⟩
  | withdrawn => cases hnew
  | retired => cases hnew

/-! ## A sample bundle

One bundle whose delegation was imported, under primitives that answer constants:
small enough for the calls of the store to be evaluated on it. -/

def samplePrimitives : Primitives where
  sha256 _ := Bytes32.fill 1
  castVoteBatchSighash _ _ _ := .ok (Bytes32.fill 2)
  delegateAndVoteBatchSighash _ _ _ := .ok (Bytes32.fill 3)
  validateTx1Effects _ := .ok ()
  verifyDelegationSpendAuthSignature _ _ _ := .ok ()
  delegationWire _ := .ok []
  voteWire _ := .ok []
  authorizationDigest _ _ := .ok (Bytes32.fill 3)
  committedPositions _ _ _ _ := .ok (0, [])

def sampleRound : VoteRoundId := ⟨Bytes32.fill 0, leValue_zero_lt⟩

def sampleRoundKey : RoundKey := ⟨sampleRound, "wallet"⟩

instance two_neZero : NeZero 2 := ⟨by decide⟩

/-- The delegation of one of the sample's bundles. -/
def sampleIdentity (bundleIndex : Fin 2) : ChainSubmissionIdentity where
  walletId := "wallet"
  network := .testnet
  voteRoundId := sampleRound
  bundleIndex := bundleIndex
  target := .delegation
  walletId_ne := by decide
  bundleIndex_le := by have := bundleIndex.isLt; unfold u32Max; omega
  target_valid := trivial

def sampleHash : CandidateTransactionHash := Bytes32.fill 7

/-- A bundle imported from a capability package. -/
def sampleBundle : BundleRow :=
  { vanCommRand := some [], totalNoteValue := some 0, addressIndex := some 0
    govComm := some (Bytes32.fill 4).val, delegationTxHash := some sampleHash }

/-- Two bundles whose packages name the same transaction. -/
def sampleDb : Db :=
  { rounds := AList.insert ⟨sampleRound, "wallet"⟩ ⟨.testnet, [], .delegationProved, none⟩ ∅
    bundles := AList.insert (sampleIdentity 1).bundleKey sampleBundle
      (AList.insert (sampleIdentity 0).bundleKey sampleBundle ∅) }

def sampleRequest (bundleIndex : Fin 2) : StoreAdvancementRequest :=
  .importedDelegation (sampleIdentity bundleIndex)

def sampleGeneration : ChainSubmissionGeneration := ⟨sampleIdentity 0, Bytes32.fill 1⟩

/-- The first bundle's transaction is adopted at time 10. -/
def sampleTracking : Db :=
  ((StoreOp.admitSubmission (sampleRequest 0) true 1 10).run samplePrimitives sampleDb).2

/-- The call that confirms it, at a time. -/
def sampleConfirm (now : Nat) : StoreOp :=
  .confirmCommitted (sampleRequest 0) sampleGeneration sampleHash [] true now

theorem sampleTracking_reachable : StoreReachable samplePrimitives sampleTracking :=
  ⟨sampleDb, rfl, .single (.call _)⟩

def sampleVote : VoteRecoveryBundle where
  voteRoundId := sampleRound
  bundleIndex := 0
  proposalId := 1
  voteDecision := 0
  anchorHeight := 0
  vcTreePosition := 0
  singleShare := false
  numOptions := 2
  vanNullifier := Bytes32.fill 5
  voteAuthorityNoteNew := Bytes32.fill 6
  voteCommitment := Bytes32.fill 7
  proof := []
  sharesHash := Bytes32.fill 8
  rVpk := Bytes32.fill 9
  alphaV := Bytes32.fill 10
  voteAuthSig := Bytes64.fill 0
  encryptedShares := []
  shareBlinds := []
  shareComms := []
  batch := some ⟨some (Bytes32.fill 4), Bytes32.fill 3, 0, 1⟩

/-- A vote of the second bundle. -/
def sampleVoteIdentity : ChainSubmissionIdentity :=
  { sampleIdentity 1 with target := .vote 1, target_valid := by decide }

/-- It was signed while the first bundle's delegation is tracked. -/
def sampleVoted : Db :=
  { sampleTracking with
    votes := AList.insert (⟨(sampleIdentity 1).bundleKey, 1⟩ : VoteKey)
      (⟨0, none, none, none, some { sampleVote with bundleIndex := 1, batch := none }⟩ : VoteRow) ∅ }

/-- It is reserved at time 11. -/
def sampleSubmitting : Db :=
  ((StoreOp.admitSubmission ⟨.vote sampleVoteIdentity, [], none⟩ true 1 11).run samplePrimitives
    sampleVoted).2

theorem sampleSubmitting_reachable : StoreReachable samplePrimitives sampleSubmitting :=
  have hvoted : StoreReachable samplePrimitives sampleVoted :=
    sampleTracking_reachable.step (.other _ (by simp only [Same, Db.submissions, sampleVoted]))
  hvoted.step (.call _)

end ZcashVoting
