import ZcashVoting.Delegation.BroadcastSetup

/-!
# ZcashVoting.Delegation.Discard

The discard of delegation setups that were never broadcast is exact.  Its five statements
repeat one guard, each in the state its predecessors left; none of them changes what the
guard reads, so all of them act on the bundles the evidence check clears at the start.
-/

namespace ZcashVoting

open Transaction

variable {db db' : Db} {round : RoundKey} {bundleIndex : Option Nat} {bundle : BundleKey}

/-! ## The bundles a discard is about -/

/-- A stored bundle of the scope for which the evidence check reports nothing. -/
def Db.discardable (db : Db) (round : RoundKey) (bundleIndex : Option Nat) (bundle : BundleKey) :
    Bool :=
  bundle.round = round && bundleIndex.all (bundle.bundleIndex = ·) &&
    (db.bundles.lookup bundle).isSome &&
    (firstBroadcastEvidence db round (.one bundle.bundleIndex)).isNone

theorem isNone_firstBroadcastEvidence :
    (firstBroadcastEvidence db bundle.round (.one bundle.bundleIndex)).isNone
      = !db.isBroadcast bundle := by
  have h : (firstBroadcastEvidence db bundle.round (.one bundle.bundleIndex)).isSome ↔
      db.isBroadcast bundle = true := isBroadcast_iff_evidence
  cases hbroadcast : db.isBroadcast bundle <;> simp_all

/-- The guard of the statements is the evidence check. -/
theorem unbroadcastGuard_eq_discardable :
    unbroadcastGuard round bundleIndex db bundle = db.discardable round bundleIndex bundle := by
  unfold unbroadcastGuard Db.discardable
  by_cases hround : bundle.round = round
  · subst hround
    rw [isNone_firstBroadcastEvidence, Db.isBroadcast]
    cases hrow : db.bundles.lookup bundle with
    | none => simp
    | some row => simp [Bool.and_assoc]
  · simp [hround]

/-! ## The five statements -/

/-- The statements of a discard, each with the guard as it evaluates it. -/
def discardStatements (guard : Db → BundleKey → Bool) : List (Db → Db) := [
  fun db => { db with
    bundles := db.bundles.mapRows fun key row => if guard db key then row.withoutSetup else row },
  fun db => { db with proofs := db.proofs.retain fun key _ => !guard db key },
  fun db => { db with
    keystoneSignatures := db.keystoneSignatures.retain fun key _ => !guard db key },
  fun db => { db with witnesses := db.witnesses.retain fun key _ => !guard db key.1 },
  fun db => { db with
    combinedCastRejections := db.combinedCastRejections.retain fun key _ => !guard db key }]

/-- The database after the first statements of a discard. -/
def discardedAfter (guard : Db → BundleKey → Bool) (statements : Nat) (db : Db) : Db :=
  ((discardStatements guard).take statements).foldl (fun db statement => statement db) db

theorem discardUnbroadcastDelegationSetupWithin_run :
    discardUnbroadcastDelegationSetupWithin round bundleIndex db =
      .ok (db.bundles.rows.countP fun (key, _) => unbroadcastGuard round bundleIndex db key,
        discardedAfter (unbroadcastGuard round bundleIndex) 5 db) := rfl

/-- One statement leaves the guard as it was: of a bundle's row only setup columns are
cleared, and the evidence of the other tables is not touched. -/
theorem unbroadcastGuard_statement {guard : Db → BundleKey → Bool} {statement : Db → Db}
    (h : statement ∈ discardStatements guard) (db : Db) :
    unbroadcastGuard round bundleIndex (statement db) = unbroadcastGuard round bundleIndex db := by
  simp only [discardStatements, List.mem_cons, List.not_mem_nil, or_false] at h
  rcases h with rfl | rfl | rfl | rfl | rfl
  · funext key
    simp only [unbroadcastGuard, Db.hasSubmission, Db.hasVote, Db.hasShare, Table.lookup_mapRows]
    cases db.bundles.lookup key with
    | none => rfl
    | some row => by_cases hkey : guard db key <;> simp [hkey, BundleRow.withoutSetup]
  all_goals rfl

/-- Every statement meets the guard of the start. -/
theorem unbroadcastGuard_discardedAfter (guard : Db → BundleKey → Bool) (statements : Nat)
    (db : Db) : unbroadcastGuard round bundleIndex (discardedAfter guard statements db)
      = unbroadcastGuard round bundleIndex db := by
  unfold discardedAfter
  have hmem : ∀ statement ∈ (discardStatements guard).take statements,
      statement ∈ discardStatements guard := fun _ h => List.mem_of_mem_take h
  generalize (discardStatements guard).take statements = run at hmem
  induction run generalizing db with
  | nil => rfl
  | cons statement run ih =>
    rw [List.foldl_cons, ih _ fun other hother => hmem other (List.mem_cons_of_mem _ hother)]
    exact unbroadcastGuard_statement (hmem statement List.mem_cons_self) db

/-- The discard of a set of bundles. -/
def Db.discard (db : Db) (cleared : BundleKey → Bool) : Db :=
  { db with
    bundles := db.bundles.mapRows fun key row => if cleared key then row.withoutSetup else row
    proofs := db.proofs.retain fun key _ => !cleared key
    keystoneSignatures := db.keystoneSignatures.retain fun key _ => !cleared key
    witnesses := db.witnesses.retain fun key _ => !cleared key.1
    combinedCastRejections := db.combinedCastRejections.retain fun key _ => !cleared key }

/-- Statements that meet one guard discard one set of bundles. -/
theorem discardedAfter_eq_discard :
    discardedAfter (unbroadcastGuard round bundleIndex) 5 db
      = db.discard (unbroadcastGuard round bundleIndex db) := by
  let after := fun statements => discardedAfter (unbroadcastGuard round bundleIndex) statements db
  have hafter : ∀ statements, unbroadcastGuard round bundleIndex (after statements)
      = unbroadcastGuard round bundleIndex db := fun statements =>
    unbroadcastGuard_discardedAfter _ statements db
  have hrun : after 5 = { db.discard (unbroadcastGuard round bundleIndex db) with
      proofs := db.proofs.retain fun key _ => !unbroadcastGuard round bundleIndex (after 1) key
      keystoneSignatures := db.keystoneSignatures.retain fun key _ =>
        !unbroadcastGuard round bundleIndex (after 2) key
      witnesses := db.witnesses.retain fun key _ =>
        !unbroadcastGuard round bundleIndex (after 3) key.1
      combinedCastRejections := db.combinedCastRejections.retain fun key _ =>
        !unbroadcastGuard round bundleIndex (after 4) key } := rfl
  rw [hafter, hafter, hafter, hafter] at hrun
  exact hrun

/-! ## What a discard leaves -/

/-- The bundle's setup columns, proof, signature, witnesses and rejections are gone; its
other columns are kept. -/
structure SetupDiscarded (db db' : Db) (bundle : BundleKey) : Prop where
  row : db'.bundles.lookup bundle = (db.bundles.lookup bundle).map BundleRow.withoutSetup
  proof : db'.proofs.lookup bundle = none
  signature : db'.keystoneSignatures.lookup bundle = none
  witnesses : ∀ position, db'.witnesses.lookup (bundle, position) = none
  rejections : db'.combinedCastRejections.lookup bundle = none

/-- Every row of the bundle in the five tables is kept. -/
structure SetupKept (db db' : Db) (bundle : BundleKey) : Prop where
  row : db'.bundles.lookup bundle = db.bundles.lookup bundle
  proof : db'.proofs.lookup bundle = db.proofs.lookup bundle
  signature : db'.keystoneSignatures.lookup bundle = db.keystoneSignatures.lookup bundle
  witnesses : ∀ position,
    db'.witnesses.lookup (bundle, position) = db.witnesses.lookup (bundle, position)
  rejections : db'.combinedCastRejections.lookup bundle = db.combinedCastRejections.lookup bundle

/-- The tables a discard does not write. -/
def Db.beyondSetup (db : Db) :=
  (db.rounds, db.votes, db.ballotIntent, db.chainSubmissions, db.delegateCastRecovery,
    db.shareDelegations, db.helperSharePlans, db.roundImmediateShare)

theorem setupDiscarded_discard {cleared : BundleKey → Bool} (h : cleared bundle = true) :
    SetupDiscarded db (db.discard cleared) bundle where
  row := by
    rw [Db.discard, Table.lookup_mapRows]
    simp [h]
  proof := by
    rw [Db.discard, Table.lookup_retain_key _ fun key => !cleared key]
    simp [h]
  signature := by
    rw [Db.discard, Table.lookup_retain_key _ fun key => !cleared key]
    simp [h]
  witnesses position := by
    rw [Db.discard, Table.lookup_retain_key _ fun key : BundleKey × Nat => !cleared key.1]
    simp [h]
  rejections := by
    rw [Db.discard, Table.lookup_retain_key _ fun key => !cleared key]
    simp [h]

theorem setupKept_discard {cleared : BundleKey → Bool} (h : cleared bundle = false) :
    SetupKept db (db.discard cleared) bundle where
  row := by
    rw [Db.discard, Table.lookup_mapRows]
    simp [h]
  proof := by
    rw [Db.discard, Table.lookup_retain_key _ fun key => !cleared key]
    simp [h]
  signature := by
    rw [Db.discard, Table.lookup_retain_key _ fun key => !cleared key]
    simp [h]
  witnesses position := by
    rw [Db.discard, Table.lookup_retain_key _ fun key : BundleKey × Nat => !cleared key.1]
    simp [h]
  rejections := by
    rw [Db.discard, Table.lookup_retain_key _ fun key => !cleared key]
    simp [h]

/-- **A discard is exact.**  It succeeds on every database.  Each of its statements meets
the stored bundles of the scope that show no broadcast evidence; these, and no others,
lose their setup, and the tables beyond are as they were. -/
theorem discard_exact (db : Db) (round : RoundKey) (bundleIndex : Option Nat) :
    ∃ db', discardUnbroadcastDelegationSetup round bundleIndex db =
        .ok (db.bundles.rows.countP fun (key, _) => db.discardable round bundleIndex key, db') ∧
      (∀ statements bundle, unbroadcastGuard round bundleIndex
        (discardedAfter (unbroadcastGuard round bundleIndex) statements db) bundle
          = db.discardable round bundleIndex bundle) ∧
      (∀ bundle, db.discardable round bundleIndex bundle = true → SetupDiscarded db db' bundle) ∧
      (∀ bundle, db.discardable round bundleIndex bundle = false → SetupKept db db' bundle) ∧
      db'.beyondSetup = db.beyondSetup := by
  have hguard : unbroadcastGuard round bundleIndex db = db.discardable round bundleIndex :=
    funext fun _ => unbroadcastGuard_eq_discardable
  refine ⟨db.discard (db.discardable round bundleIndex), ?_, ?_, ?_, ?_, rfl⟩
  · rw [discardUnbroadcastDelegationSetup, discardUnbroadcastDelegationSetupWithin_run,
      discardedAfter_eq_discard, hguard]
  · intro statements bundle
    rw [unbroadcastGuard_discardedAfter, hguard]
  · exact fun bundle => setupDiscarded_discard
  · exact fun bundle => setupKept_discard

end ZcashVoting
