import ZcashVoting.ChainSubmission.Store.Runs
import ZcashVoting.Delegation.Setup

/-!
# ZcashVoting.Delegation.BroadcastSetup

Once a delegation may be on chain its governance nullifiers are spent, and the stored
setup is the only thing that reproduces the bundle's voting weight.  Seven statements
write those columns, each with a guard of its own; here each guard is compared with the
one definition of broadcast evidence.
-/

namespace ZcashVoting

open Transaction

variable {db : Db} {bundle : BundleKey} {round : RoundKey} {row : BundleRow} {target : BundleKey}
  {db' : Db}

/-! ## Evidence -/

/-- The bundle shows broadcast evidence. -/
def Db.isBroadcast (db : Db) (bundle : BundleKey) : Bool :=
  ((db.bundles.lookup bundle).any fun row =>
    row.delegationTxHash.isSome || row.vanLeafPosition.isSome) ||
    db.hasSubmission bundle || db.hasVote bundle || db.hasShare bundle

/-- The bundle shows one of the five kinds of evidence. -/
theorem isBroadcast_eq_true {key : BundleKey} : db.isBroadcast key = true ↔
    (∃ row, db.bundles.lookup key = some row ∧ row.delegationTxHash.isSome = true) ∨
    (∃ row, db.bundles.lookup key = some row ∧ row.vanLeafPosition.isSome = true) ∨
    (∃ identity row, db.chainSubmissions.lookup identity = some row ∧ identity.bundleKey = key) ∨
    (∃ vote row, db.votes.lookup vote = some row ∧ vote.bundle = key) ∨
    (∃ share row, db.shareDelegations.lookup share = some row ∧ share.vote.bundle = key) := by
  simp only [Db.isBroadcast, Db.hasSubmission, Db.hasVote, Db.hasShare, Bool.or_eq_true,
    Table.any_eq_true, Option.any_eq_true, decide_eq_true_eq, and_or_left, exists_or, or_assoc]

/-- The ordered checks find evidence exactly if some bundle of the scope shows some. -/
theorem isSome_firstBroadcastEvidence {scope : BundleScope} :
    (firstBroadcastEvidence db round scope).isSome ↔
      ∃ key, scope.filter round key = true ∧ db.isBroadcast key = true := by
  simp only [firstBroadcastEvidence, List.findSome?_isSome_iff, List.exists_mem_cons_iff,
    List.not_mem_nil, Option.isSome_map, false_and, exists_false, or_false, List.find?_isSome,
    Prod.exists, Table.mem_rows, Bool.and_eq_true, isBroadcast_eq_true]
  constructor
  · rintro (⟨key, row, hrow, hscope, hhash⟩ | ⟨key, row, hrow, hscope, hvan⟩ |
      ⟨identity, row, hrow, hscope⟩ | ⟨vote, row, hrow, hscope⟩ | ⟨share, row, hrow, hscope⟩)
    · exact ⟨key, hscope, .inl ⟨row, hrow, hhash⟩⟩
    · exact ⟨key, hscope, .inr (.inl ⟨row, hrow, hvan⟩)⟩
    · exact ⟨_, hscope, .inr (.inr (.inl ⟨identity, row, hrow, rfl⟩))⟩
    · exact ⟨_, hscope, .inr (.inr (.inr (.inl ⟨vote, row, hrow, rfl⟩)))⟩
    · exact ⟨_, hscope, .inr (.inr (.inr (.inr ⟨share, row, hrow, rfl⟩)))⟩
  · rintro ⟨key, hscope, ⟨row, hrow, hhash⟩ | ⟨row, hrow, hvan⟩ | ⟨identity, row, hrow, rfl⟩ |
      ⟨vote, row, hrow, rfl⟩ | ⟨share, row, hrow, rfl⟩⟩
    · exact .inl ⟨key, row, hrow, hscope, hhash⟩
    · exact .inr (.inl ⟨key, row, hrow, hscope, hvan⟩)
    · exact .inr (.inr (.inl ⟨identity, row, hrow, hscope⟩))
    · exact .inr (.inr (.inr (.inl ⟨vote, row, hrow, hscope⟩)))
    · exact .inr (.inr (.inr (.inr ⟨share, row, hrow, hscope⟩)))

theorem filter_one {key : BundleKey} :
    (BundleScope.one bundle.bundleIndex).filter bundle.round key = true ↔ key = bundle := by
  obtain ⟨roundId, walletId, bundleIndex⟩ := key
  obtain ⟨roundId', walletId', bundleIndex'⟩ := bundle
  simp [BundleScope.filter, BundleScope.covers, BundleKey.round, and_assoc]

/-- Evidence of one bundle. -/
theorem isBroadcast_iff_evidence :
    (firstBroadcastEvidence db bundle.round (.one bundle.bundleIndex)).isSome ↔
      db.isBroadcast bundle = true := by
  simp [isSome_firstBroadcastEvidence, filter_one]

/-- A scope that covers a broadcast bundle is refused. -/
theorem refuseIfBroadcast_eq_ok {scope : BundleScope} {action : String}
    (h : refuseIfBroadcast round scope action db = .ok ())
    (hscope : scope.filter round bundle = true) : db.isBroadcast bundle = false := by
  unfold refuseIfBroadcast at h
  split at h
  · cases h
  · next hnone =>
    by_contra hbroadcast
    have := isSome_firstBroadcastEvidence.mpr ⟨bundle, hscope, by simpa using hbroadcast⟩
    simp [hnone] at this

/-! ## Setup writes -/

/-- The row of the bundle is as it was. -/
abbrev RowKept (bundle : BundleKey) : Db → Db → Prop :=
  Same fun db : Db => db.bundles.lookup bundle

theorem loadSetupRow_eq_ok :
    loadSetupRow bundle db = .ok row ↔ db.bundles.lookup bundle = some row := by
  unfold loadSetupRow
  cases db.bundles.lookup bundle <;> simp

/-- Filling in a column that the comparison found filled, or has nothing for. -/
theorem or_eq_self_of_eq_or {stored given : Option Bytes} (h : stored = given.or stored) :
    stored.or given = stored := by
  cases stored <;> cases given <;> simp_all

/-- Replacing a column by the value the comparison found, or by nothing. -/
theorem or_eq_self_of_eq {stored given : Option Bytes} (h : given.isNone ∨ stored = given) :
    given.or stored = stored := by
  cases stored <;> cases given <;> simp_all

/-- What the code compares, with the three columns it does not, is what it writes. -/
theorem withSetup_eq_self {setup : EncodedSetup}
    (hsame : writeChangesNothing row setup = true) (hsecrets : row.paddedNoteSecrets.isSome)
    (hsighash : row.pcztSighash.isSome) (heffects : row.tx1Effects.isSome) :
    row.withSetup setup = row := by
  obtain ⟨secrets, hsecrets⟩ := Option.isSome_iff_exists.mp hsecrets
  obtain ⟨sighash, hsighash⟩ := Option.isSome_iff_exists.mp hsighash
  obtain ⟨effects, heffects⟩ := Option.isSome_iff_exists.mp heffects
  simp only [writeChangesNothing, decide_eq_true_eq] at hsame
  obtain ⟨h1, h2, h3, h4, h5, h6, h7, h8, h9, h10, h11, h12, hpczt, hrk, hgov⟩ := hsame
  have hpczt' := or_eq_self_of_eq_or hpczt
  have hrk' := or_eq_self_of_eq hrk
  have hgov' := or_eq_self_of_eq hgov
  simp only [BundleRow.withSetup, ← h1, ← h2, ← h3, ← h4, ← h5, ← h6, ← h7, ← h8, ← h9, ← h10,
    ← h11, ← h12, hpczt', hrk', hgov', hsecrets, hsighash, heffects, Option.some_or]
  rw [← hsecrets, ← hsighash, ← heffects]

/-- The row has every column that a write fills in without comparing it. -/
def BundleRow.setupFilled (row : BundleRow) : Bool :=
  row.delegationPczt.isSome ||
    (row.paddedNoteSecrets.isSome && row.pcztSighash.isSome && row.tx1Effects.isSome)

/-- Writing one bundle's setup keeps the rows of the others. -/
theorem storeDelegationSetupWithin_other {setup : EncodedSetup} (hne : bundle ≠ target) :
    Within (RowKept bundle) (storeDelegationSetupWithin target setup) := by
  have hwrite : ∀ row, Within (RowKept bundle)
      (write fun db : Db => .ok { db with
        bundles := db.bundles.insert target (BundleRow.withSetup row setup) } :
        Txn Db VotingError Unit) := fun row => Within.write fun db db' h => by
    cases h
    exact AList.lookup_insert_ne hne
  refine (Within.read _).bind fun row => (Within.read _).bind fun _ => ?_
  split
  · exact Within.pure ()
  split
  · exact hwrite row
  · refine (Within.read _).bind fun _ => (hwrite row).bind fun _ => Within.write fun db db' h => ?_
    cases h
    rfl

/-- The write passes its checks and its comparison. -/
def EncodedSetup.Agrees (setup : EncodedSetup) (bundle : BundleKey) (row : BundleRow) : Prop :=
  checkSetupWriteOnce bundle row setup = .ok () ∧ writeChangesNothing row setup = true

/-- A write over a broadcast bundle changes nothing, if the write brings the exact
transaction or the row it agrees with is filled. -/
theorem storeDelegationSetupWithin_broadcast {setup : EncodedSetup}
    (h : storeDelegationSetupWithin bundle setup db = .ok ((), db'))
    (hbroadcast : db.isBroadcast bundle = true)
    (hfilled : setup.delegationPczt.isSome ∨ ∀ row, db.bundles.lookup bundle = some row →
      setup.Agrees bundle row → row.setupFilled = true) :
    db'.bundles.lookup bundle = db.bundles.lookup bundle := by
  obtain ⟨row, hrow, h⟩ := read_bind_eq_ok.mp h
  obtain ⟨_, hchecked, h⟩ := read_bind_eq_ok.mp h
  rw [loadSetupRow_eq_ok] at hrow
  split at h
  · obtain ⟨-, rfl⟩ := pure_eq_ok.mp h
    rfl
  next hpczt =>
  split at h
  · next hsame =>
    cases write_eq_ok.mp h
    have hfill : row.setupFilled = true := by
      refine hfilled.elim (fun hgiven => ?_) (· row hrow ⟨hchecked, hsame⟩)
      -- bringing the transaction to a row without one is a change the comparison sees
      obtain ⟨pczt, hgiven⟩ := Option.isSome_iff_exists.mp hgiven
      exact absurd hsame (by simp_all [writeChangesNothing])
    simp only [BundleRow.setupFilled, hpczt, Bool.false_or, Bool.and_eq_true] at hfill
    rw [AList.lookup_insert, hrow, withSetup_eq_self hsame hfill.1.1 hfill.1.2 hfill.2]
  · obtain ⟨_, hrefuse, -⟩ := read_bind_eq_ok.mp h
    rw [refuseIfBroadcast_eq_ok hrefuse (filter_one.mpr rfl)] at hbroadcast
    exact Bool.noConfusion hbroadcast

/-- The setup columns of a row. -/
def BundleRow.setup (row : BundleRow) : List (Option Bytes) × Option Nat × Option Nat :=
  ([row.vanCommRand, row.dummyNullifiers, row.rhoSigned, row.paddedNoteData, row.nfSigned,
      row.cmxNew, row.alpha, row.rseedSigned, row.rseedOutput, row.govComm, row.paddedNoteSecrets,
      row.pcztSighash, row.tx1Effects, row.delegationPczt, row.rk, row.govNullifiersBlob],
    row.totalNoteValue, row.addressIndex)

/-- The setup columns of a bundle, if it has a row. -/
def Db.setup (db : Db) (bundle : BundleKey) :
    Option (List (Option Bytes) × Option Nat × Option Nat) :=
  (db.bundles.lookup bundle).map (·.setup)

/-- A write that agrees with a row fills in what the row lacks of the three columns. -/
theorem storeDelegationData_fills {setup : DelegationSetup}
    (hrow : db.bundles.lookup bundle = some row)
    (hvalid : validateTx1Effects setup.tx1Effects = .ok ())
    (hagrees : (setup.encode none).Agrees bundle row) (hfilled : row.setupFilled = false) :
    (transact (storeDelegationData bundle setup) db).2.setup bundle ≠ db.setup bundle := by
  simp only [BundleRow.setupFilled, Bool.or_eq_false_iff, Bool.and_eq_false_iff,
    Option.isSome_eq_false_iff, Option.isNone_iff_eq_none] at hfilled
  have hwrite : storeDelegationData bundle setup db = .ok ((), { db with
      bundles := db.bundles.insert bundle (row.withSetup (setup.encode none)) }) := by
    refine read_bind_eq_ok.mpr ⟨(), hvalid, read_bind_eq_ok.mpr ⟨row, loadSetupRow_eq_ok.mpr hrow,
      read_bind_eq_ok.mpr ⟨(), hagrees.1, ?_⟩⟩⟩
    rw [if_neg (by simp [hfilled.1]), if_pos hagrees.2]
    rfl
  have hrun : (transact (storeDelegationData bundle setup) db).2 =
      { db with bundles := db.bundles.insert bundle (row.withSetup (setup.encode none)) } := by
    simp [transact, hwrite]
  simp only [hrun, Db.setup, AList.lookup_insert, hrow, Option.map_some, ne_eq, Option.some.injEq]
  obtain (h | h) | h := hfilled.2 <;>
    simp [BundleRow.setup, BundleRow.withSetup, DelegationSetup.encode, h]

/-- Clearing a row without setup keeps it. -/
theorem withoutSetup_eq_self (h : row.setup = BundleRow.setup {}) :
    row.withoutSetup = row := by
  cases row
  simp_all [BundleRow.setup, BundleRow.withoutSetup]

/-! ## Discards and deletes -/

theorem unbroadcastGuard_of_broadcast {bundleIndex : Option Nat}
    (hbroadcast : db.isBroadcast bundle = true) :
    unbroadcastGuard round bundleIndex db bundle = false := by
  simp only [Db.isBroadcast, Bool.or_eq_true] at hbroadcast
  unfold unbroadcastGuard
  cases hrow : db.bundles.lookup bundle with
  | none => simp
  | some row => simp_all [Option.isSome_iff_ne_none]; grind

/-- A discard keeps the row of a bundle that is out of its guard. -/
theorem discard_kept {bundleIndex : Option Nat} {cleared : Nat}
    (h : discardUnbroadcastDelegationSetupWithin round bundleIndex db = .ok (cleared, db'))
    (hguard : unbroadcastGuard round bundleIndex db bundle = false) :
    db'.bundles.lookup bundle = db.bundles.lookup bundle := by
  obtain ⟨_, -, h⟩ := read_bind_eq_ok.mp h
  simp only [bind_eq_ok, write_eq_ok, pure_eq_ok] at h
  obtain ⟨_, _, h1, _, _, h2, _, _, h3, _, _, h4, _, _, h5, -, rfl⟩ := h
  cases h1
  cases h2
  cases h3
  cases h4
  cases h5
  simp [Table.lookup_mapRows, hguard]

/-- A guard scoped to another bundle leaves the bundle alone. -/
theorem unbroadcastGuard_other (hne : bundle ≠ target) :
    unbroadcastGuard target.round (some target.bundleIndex) db bundle = false := by
  obtain ⟨roundId, walletId, bundleIndex⟩ := bundle
  obtain ⟨roundId', walletId', bundleIndex'⟩ := target
  simp only [unbroadcastGuard, BundleKey.round]
  grind

theorem deleteBundles_kept {condition : BundleKey → Bool} (h : condition bundle = false) :
    (db.deleteBundles condition).bundles.lookup bundle = db.bundles.lookup bundle := by
  rw [Db.deleteBundles, Table.lookup_retain, h]
  cases db.bundles.lookup bundle <;> rfl

/-! ## The seven writers -/

/-- A call of one of the writers of the setup columns, with its arguments. -/
inductive SetupCall where
  | store (bundle : BundleKey) (setup : DelegationSetup)
  | storeWithPczt (bundle : BundleKey) (setup : DelegationSetup)
      (pczt : DelegationPcztFields)
  | replace (bundle : BundleKey) (setup : DelegationSetup)
      (pczt : DelegationPcztFields)
  | discard (round : RoundKey) (bundleIndex : Option Nat)
  | clearUnsigned (round : RoundKey)
  | deleteFrom (round : RoundKey) (fromIndex : Nat)
  | clearRound (round : RoundKey)

/-- The database after the call; a call that fails rolls back. -/
def SetupCall.run : SetupCall → Db → Db
  | .store bundle setup, db => (transact (storeDelegationData bundle setup) db).2
  | .storeWithPczt bundle setup pczt, db =>
    (transact (storeDelegationDataWithPcztFields bundle setup pczt) db).2
  | .replace bundle setup pczt, db =>
    (transact (replaceUnbroadcastDelegationSetup bundle setup pczt) db).2
  | .discard round bundleIndex, db =>
    (transact (discardUnbroadcastDelegationSetup round bundleIndex) db).2
  | .clearUnsigned round, db =>
    (transact (clearUnsignedDelegationSetupFields round) db).2
  | .deleteFrom round fromIndex, db => (transact (deleteBundlesFrom round fromIndex) db).2
  | .clearRound round, db => (transact (clearRoundIfUnbroadcast round) db).2

/-- What two of the guards leave to the state they run in.  A setup write without the
transaction that agrees with the row needs one it cannot fill in.  Clearing unsigned
setups, which asks about neither votes nor shares, needs a row without setup where it
finds no other reason to spare it. -/
def SetupCall.Guarded (db : Db) (bundle : BundleKey) : SetupCall → Prop
  | .store target setup => target = bundle → validateTx1Effects setup.tx1Effects = .ok () →
    ∀ row, db.bundles.lookup bundle = some row → (setup.encode none).Agrees bundle row →
      row.setupFilled = true
  | .clearUnsigned round => ∀ row, db.bundles.lookup bundle = some row →
    unsignedGuard round db bundle row = true → row.setup = BundleRow.setup {}
  | _ => True

/-- A transaction keeps the row if its successful runs do. -/
theorem transact_kept {α : Type} {body : Txn Db VotingError α}
    (h : ∀ a db', body db = .ok (a, db') → db'.bundles.lookup bundle = db.bundles.lookup bundle) :
    (transact body db).2.bundles.lookup bundle = db.bundles.lookup bundle := by
  unfold transact
  cases hbody : body db with
  | error e => rfl
  | ok result => exact h result.1 result.2 hbody

theorem storeDelegationDataInner_kept {setup : DelegationSetup} {pczt : Option DelegationPcztFields}
    (h : storeDelegationDataInner target setup pczt db = .ok ((), db'))
    (hbroadcast : db.isBroadcast bundle = true)
    (hfilled : target = bundle → validateTx1Effects setup.tx1Effects = .ok () → pczt.isSome ∨
      ∀ row, db.bundles.lookup bundle = some row → (setup.encode pczt).Agrees bundle row →
        row.setupFilled = true) :
    db'.bundles.lookup bundle = db.bundles.lookup bundle := by
  obtain ⟨_, hvalid, h⟩ := read_bind_eq_ok.mp h
  by_cases htarget : bundle = target
  · subst htarget
    refine storeDelegationSetupWithin_broadcast h hbroadcast ((hfilled rfl hvalid).imp_left ?_)
    simp [DelegationSetup.encode]
  · exact storeDelegationSetupWithin_other htarget _ _ _ h

theorem replace_kept {setup : DelegationSetup} {pczt : DelegationPcztFields}
    (h : replaceUnbroadcastDelegationSetup target setup pczt db = .ok ((), db'))
    (hbroadcast : db.isBroadcast bundle = true) :
    db'.bundles.lookup bundle = db.bundles.lookup bundle := by
  obtain ⟨_, -, h⟩ := read_bind_eq_ok.mp h
  obtain ⟨_, hrefuse, h⟩ := read_bind_eq_ok.mp h
  obtain ⟨_, discarded, hdiscard, h⟩ := bind_eq_ok.mp h
  by_cases htarget : bundle = target
  · subst htarget
    rw [refuseIfBroadcast_eq_ok hrefuse (filter_one.mpr rfl)] at hbroadcast
    exact Bool.noConfusion hbroadcast
  · calc db'.bundles.lookup bundle = discarded.bundles.lookup bundle :=
        storeDelegationSetupWithin_other htarget _ _ _ h
      _ = db.bundles.lookup bundle := discard_kept hdiscard (unbroadcastGuard_other htarget)

theorem deleteBundlesFrom_kept {fromIndex : Nat} {rows : Nat}
    (h : deleteBundlesFrom round fromIndex db = .ok (rows, db'))
    (hbroadcast : db.isBroadcast bundle = true) :
    db'.bundles.lookup bundle = db.bundles.lookup bundle := by
  obtain ⟨_, -, h⟩ := read_bind_eq_ok.mp h
  obtain ⟨_, hrefuse, h⟩ := read_bind_eq_ok.mp h
  obtain ⟨_, -, h⟩ := read_bind_eq_ok.mp h
  simp only [bind_eq_ok, write_eq_ok, pure_eq_ok] at h
  obtain ⟨_, _, hdeleted, _, _, hpolicy, -, rfl⟩ := h
  cases hdeleted
  cases hpolicy
  have hout : (BundleScope.suffix fromIndex).filter round bundle = false := by
    by_contra hscope
    rw [refuseIfBroadcast_eq_ok hrefuse (by simpa using hscope)] at hbroadcast
    exact Bool.noConfusion hbroadcast
  split <;> exact deleteBundles_kept hout

theorem clearRoundIfUnbroadcast_kept {evidence : Option (Nat × DelegationBroadcastEvidence)}
    (h : clearRoundIfUnbroadcast round db = .ok (evidence, db'))
    (hbroadcast : db.isBroadcast bundle = true) :
    db'.bundles.lookup bundle = db.bundles.lookup bundle := by
  obtain ⟨found, hfound, h⟩ := read_bind_eq_ok.mp h
  cases hfound
  split at h
  · obtain ⟨-, rfl⟩ := pure_eq_ok.mp h
    rfl
  · next hnone =>
    simp only [clearRound, bind_eq_ok, write_eq_ok, pure_eq_ok] at h
    obtain ⟨_, _, hcleared, -, rfl⟩ := h
    cases hcleared
    have hround : bundle.round ≠ round := fun hround =>
      hnone (isSome_firstBroadcastEvidence.mpr ⟨bundle, by simp [BundleScope.filter, hround,
        BundleScope.covers], hbroadcast⟩)
    split
    · exact deleteBundles_kept (by simpa using hround)
    · rfl

/-- Under its guard a call keeps the row of a broadcast bundle. -/
theorem SetupCall.row_kept {call : SetupCall} (hbroadcast : db.isBroadcast bundle = true)
    (hguarded : call.Guarded db bundle) :
    (call.run db).bundles.lookup bundle = db.bundles.lookup bundle := by
  cases call with
  | store target setup =>
    exact transact_kept fun _ _ h => storeDelegationDataInner_kept h hbroadcast
      fun htarget hvalid => .inr (hguarded htarget hvalid)
  | storeWithPczt target setup pczt =>
    exact transact_kept fun _ _ h =>
      storeDelegationDataInner_kept h hbroadcast fun _ _ => .inl rfl
  | replace target setup pczt =>
    exact transact_kept fun _ _ h => replace_kept h hbroadcast
  | discard round bundleIndex =>
    exact transact_kept fun _ _ h =>
      discard_kept h (unbroadcastGuard_of_broadcast hbroadcast)
  | clearUnsigned round =>
    refine transact_kept fun _ db' h => ?_
    cases write_eq_ok.mp h
    rw [Table.lookup_mapRows]
    cases hrow : db.bundles.lookup bundle with
    | none => rfl
    | some row =>
      by_cases hclears : unsignedGuard round db bundle row = true
      · simp [hclears, withoutSetup_eq_self (hguarded row hrow hclears)]
      · simp [hclears]
  | deleteFrom round fromIndex =>
    exact transact_kept fun _ _ h => deleteBundlesFrom_kept h hbroadcast
  | clearRound round =>
    exact transact_kept fun _ _ h => clearRoundIfUnbroadcast_kept h hbroadcast

/-- Without it a setup column of the bundle changes. -/
theorem SetupCall.guarded_of_setup_kept {call : SetupCall}
    (h : (call.run db).setup bundle = db.setup bundle) : call.Guarded db bundle := by
  cases call with
  | store target setup =>
    rintro rfl hvalid row hrow hagrees
    by_contra hfilled
    exact storeDelegationData_fills hrow hvalid hagrees (by simpa using hfilled) h
  | clearUnsigned round =>
    intro row hrow hclears
    have hcleared : (clearUnsignedDelegationSetupFields round db) = .ok ((), { db with
        bundles := db.bundles.mapRows fun key row =>
          if unsignedGuard round db key row then row.withoutSetup else row }) := rfl
    simp only [SetupCall.run, transact, hcleared, Db.setup, Table.lookup_mapRows, hrow,
      Option.map_some, hclears, if_true, Option.some.injEq] at h
    exact h.symm
  | _ => trivial

/-- **Broadcast setup is immutable.**  Where the evidence check reports evidence for a
bundle, a call of a setup writer leaves the bundle's setup columns as they are, and its
row in place, exactly where the two incomplete guards do not run bare; the whole row is
then unchanged. -/
theorem broadcast_setup_immutable (db : Db) (bundle : BundleKey)
    (evidence : Nat × DelegationBroadcastEvidence)
    (h : firstBroadcastEvidence db bundle.round (.one bundle.bundleIndex) = some evidence)
    (call : SetupCall) :
    ((call.run db).setup bundle = db.setup bundle ↔ call.Guarded db bundle) ∧
      (call.Guarded db bundle →
        (call.run db).bundles.lookup bundle = db.bundles.lookup bundle) := by
  have hbroadcast : db.isBroadcast bundle = true :=
    isBroadcast_iff_evidence.mp (Option.isSome_iff_exists.mpr ⟨evidence, h⟩)
  refine ⟨⟨SetupCall.guarded_of_setup_kept, fun hguarded => ?_⟩, SetupCall.row_kept hbroadcast⟩
  rw [Db.setup, SetupCall.row_kept hbroadcast hguarded, Db.setup]

/-! ## The two bare guards -/

/-- A setup of empty values, with effects of the current version. -/
def sampleDelegationSetup : DelegationSetup where
  vanCommRand := []
  dummyNullifiers := []
  rhoSigned := []
  paddedCmx := []
  nfSigned := []
  cmxNew := []
  alpha := []
  rseedSigned := []
  rseedOutput := []
  govComm := []
  totalNoteValue := 0
  addressIndex := 0
  paddedNoteSecrets := []
  pcztSighash := []
  tx1Effects := List.replicate tx1EffectsLen 1

/-- The bundle of the sample round. -/
def sampleKey : BundleKey := (sampleIdentity 0).bundleKey

/-- A locally prepared row that holds the sample setup. -/
def sampleStoredSetup : BundleRow :=
  BundleRow.withSetup { notePositionsBlob := some [] } (sampleDelegationSetup.encode none)

/-- A delegation with a transaction hash whose row predates the effects column. -/
def sampleBroadcastDb : Db :=
  { bundles := AList.insert sampleKey
      { sampleStoredSetup with delegationTxHash := some sampleHash, tx1Effects := none } ∅ }

/-- An unproved bundle with a vote. -/
def sampleVotedDb : Db :=
  { bundles := AList.insert sampleKey sampleStoredSetup ∅
    votes := AList.insert ⟨sampleKey, 1⟩ ⟨0, none, none, none, none⟩ ∅ }

/-- The comparison of a setup write leaves out three columns that the write fills in, and
clearing unsigned setups does not ask for votes: over broadcast bundles the first rewrites
the row and the second empties it. -/
theorem broadcast_setup_rewritten :
    (firstBroadcastEvidence sampleBroadcastDb sampleKey.round (.one 0) =
        some (0, .delegationTxHash) ∧
      ((SetupCall.store sampleKey sampleDelegationSetup).run sampleBroadcastDb).bundles.lookup
          sampleKey =
        some { sampleStoredSetup with delegationTxHash := some sampleHash } ∧
      sampleBroadcastDb.bundles.lookup sampleKey ≠
        some { sampleStoredSetup with delegationTxHash := some sampleHash }) ∧
    firstBroadcastEvidence sampleVotedDb sampleKey.round (.one 0) = some (0, .vote) ∧
      sampleVotedDb.bundles.lookup sampleKey = some sampleStoredSetup ∧
      ((SetupCall.clearUnsigned sampleKey.round).run sampleVotedDb).bundles.lookup sampleKey =
        some { notePositionsBlob := some [] } := by
  decide +kernel

/-- The same delegation with its effects stored. -/
def sampleFilledDb : Db :=
  { bundles := AList.insert sampleKey
      { sampleStoredSetup with delegationTxHash := some sampleHash } ∅ }

theorem broadcast_setup_immutable_filled :
    ((SetupCall.store sampleKey { sampleDelegationSetup with vanCommRand := [1] }).run
      sampleFilledDb).bundles.lookup sampleKey = sampleFilledDb.bundles.lookup sampleKey ∧
    ¬ (SetupCall.store sampleKey sampleDelegationSetup).Guarded sampleBroadcastDb sampleKey := by
  have hkept := broadcast_setup_immutable sampleFilledDb sampleKey (0, .delegationTxHash)
    (by decide +kernel) (.store sampleKey { sampleDelegationSetup with vanCommRand := [1] })
  have hbare := broadcast_setup_immutable sampleBroadcastDb sampleKey (0, .delegationTxHash)
    (by decide +kernel) (.store sampleKey sampleDelegationSetup)
  refine ⟨hkept.2 fun _ _ row hrow _ => ?_, fun hguarded => ?_⟩
  · obtain rfl : _ = row := Option.some.inj ((AList.lookup_insert _).symm.trans hrow)
    decide +kernel
  · exact absurd (hbare.1.mpr hguarded) (by decide +kernel)

end ZcashVoting
