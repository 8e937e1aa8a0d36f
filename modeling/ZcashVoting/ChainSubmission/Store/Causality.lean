import ZcashVoting.ChainSubmission.Store.Runs

/-!
# ZcashVoting.ChainSubmission.Store.Causality

Bundle causality: the submissions of one bundle form a chain, each admitted
after its predecessor reached an authoritative outcome.
-/

namespace ZcashVoting

open Transaction

/-! ## What a move does to the public state -/

/-- A transition leaves an unresolved state, or replays a confirmation. -/
theorem SubmissionTransition.source {s s' : SubmissionRecordState}
    {observation : SubmissionObservation} (h : SubmissionTransition s observation s') :
    s.durableState.isUnresolved = true ∨
      (s' = s ∧ s.durableState = .confirmed) := by
  cases h <;> first | exact .inl rfl | exact .inr ⟨rfl, rfl⟩

/-- A moved record was unresolved, or is confirmed and stays as it was. -/
theorem RecordMove.source {db : Db} {old new : StoredChainSubmission} (h : RecordMove db old new) :
    old.durableState.isUnresolved = true ∨
      (new.state = old.state ∧ old.durableState = .confirmed) := by
  cases h with
  | abandoned now hstate =>
    left; rw [StoredChainSubmission.durableState, hstate]; rfl
  | observed observation state diagnostic now htransition hfree => exact htransition.source
  | retried now hpermit =>
    left
    revert hpermit
    cases hstate : old.state <;>
      simp [SubmissionRecordState.permitsAmbiguousRetry, StoredChainSubmission.durableState,
        SubmissionRecordState.durableState, ChainSubmissionState.isUnresolved, hstate]
  | recovered candidate diagnostic now hstate =>
    left; rw [StoredChainSubmission.durableState, hstate]; rfl
  | confirmed confirmation state now htransition => exact htransition.source

/-! ## The invariant -/

/-- The submissions of a bundle are causally ordered. -/
structure Causal (db : Db) : Prop where
  /-- At most one submission of a bundle is unresolved. -/
  one : ∀ a b rowA rowB, db.submissions.lookup a = some rowA → db.submissions.lookup b = some rowB →
    a.SameBundle b → rowA.state.isUnresolved = true → rowB.state.isUnresolved = true → a = b
  /-- An unresolved delegation has no confirmed vote after it. -/
  delegation : ∀ a b rowA rowB, db.submissions.lookup a = some rowA →
    db.submissions.lookup b = some rowB → a.SameBundle b → a.target = .delegation →
    rowA.state.isUnresolved = true → b.target.castsVotes = true → rowB.state ≠ .confirmed

/-- What admission has established about the bundle of a new row. -/
theorem admissionGuards_eq_ok {identity : ChainSubmissionIdentity} {db : Db} {u : Unit}
    (h : admissionGuards identity db = .ok u) :
    (∀ key row, db.submissions.lookup key = some row → key.SameBundle identity →
      row.state.isUnresolved = false) ∧
    (identity.target = .delegation → ∀ key row, db.submissions.lookup key = some row →
      key.SameBundle identity → key.target.castsVotes = true → row.state ≠ .confirmed) ∧
    (identity.target.isCombined = true → ∀ key row, db.submissions.lookup key = some row →
      key.bundleKey ≠ identity.bundleKey) := by
  obtain ⟨occupied, hoccupied, h⟩ := except_bind_eq_ok.mp h
  obtain ⟨_, hfresh, h⟩ := except_bind_eq_ok.mp h
  obtain ⟨_, -, h⟩ := except_bind_eq_ok.mp h
  obtain ⟨_, hpredecessor, hsuperseded⟩ := except_bind_eq_ok.mp h
  have hfresh := check_eq_ok.mp hfresh
  have hpredecessor := check_eq_ok.mp hpredecessor
  have hsuperseded := check_eq_ok.mp hsuperseded
  refine ⟨fun key row hrow hbundle => ?_, fun htarget key row hrow hbundle hcasts hconfirmed => ?_,
    fun hcombined key row hrow hkey => ?_⟩
  · have := Table.any_eq_false.mp (by simpa [hasUnresolvedPredecessor] using hpredecessor) key row hrow
    simpa [hbundle] using this
  · simp only [htarget, ne_eq, not_true_eq_false, decide_false, Bool.false_or,
      Bool.not_eq_true'] at hsuperseded
    have := Table.any_eq_false.mp hsuperseded key row hrow
    simp [hbundle, hcasts, hconfirmed] at this
  · rw [combinedOccupied, if_pos hcombined] at hoccupied
    split at hoccupied
    · cases hoccupied
    · cases hoccupied
      simp only [Bool.not_eq_true', Bool.or_eq_false_iff] at hfresh
      have := Table.any_eq_false.mp hfresh.2 key row hrow
      simp [hkey] at this

/-- A row set by a step at a bundle, as the invariant needs it: a new one, or one
that was unresolved or confirmed already. -/
theorem RowStep.origin {db : Db} {identity : ChainSubmissionIdentity} {new : ChainSubmissionRow}
    (h : RowStep db identity (some new)) :
    (∃ old, db.submissions.lookup identity = some old ∧
      (old.state.isUnresolved = true ∨ new.state = old.state)) ∨
    (new.state.isUnresolved = true ∧ admissionGuards identity db = .ok ()) := by
  generalize hrow : some new = row at h
  cases h with
  | kept => exact .inl ⟨new, hrow.symm, .inr rfl⟩
  | reserved digest ordinal now hnone hguards => cases hrow; exact .inr ⟨rfl, hguards⟩
  | adopted digest candidate now hnone htarget hguards => cases hrow; exact .inr ⟨rfl, hguards⟩
  | moved old record record' hold hload hmove =>
    cases hrow
    have hstate := (ChainSubmissionRow.loadedFrom hload).state_eq
    refine .inl ⟨old, hold, ?_⟩
    rw [← hstate]
    exact hmove.source.imp id fun hkept => congrArg SubmissionRecordState.durableState hkept.1
  | withdrawn => cases hrow
  | retired => cases hrow

theorem causal_invariant : RowInvariant Causal where
  empty := by
    intro db hempty
    constructor <;> (intro a b rowA rowB ha; rw [hempty] at ha; cases ha)
  same := by
    intro db db' hI hsame
    have htable : db'.submissions = db.submissions := hsame
    exact ⟨by rw [htable]; exact hI.one, by rw [htable]; exact hI.delegation⟩
  step := by
    intro db db' identity row hI hstep hset
    -- A changed row either is new under the guards, or stood in the table before
    -- unresolved or in the same public state.
    have origin : ∀ key new, db'.submissions.lookup key = some new →
        (∃ old, db.submissions.lookup key = some old ∧
          (old.state.isUnresolved = true ∨ new.state = old.state)) ∨
        (key = identity ∧ new.state.isUnresolved = true ∧
          admissionGuards identity db = .ok ()) := by
      intro key new hnew
      rw [hset key] at hnew
      split at hnew
      · next hkey =>
        subst hkey
        subst hnew
        exact hstep.origin.imp id fun h => ⟨rfl, h⟩
      · exact .inl ⟨new, hnew, .inr rfl⟩
    have others : ∀ key new, key ≠ identity → db'.submissions.lookup key = some new →
        db.submissions.lookup key = some new := by
      intro key new hkey hnew
      rwa [hset key, if_neg hkey] at hnew
    have unresolved : ∀ {old new : ChainSubmissionRow},
        (old.state.isUnresolved = true ∨ new.state = old.state) →
        new.state.isUnresolved = true → old.state.isUnresolved = true := by
      intro old new h hnew
      exact h.elim id fun heq => heq ▸ hnew
    constructor
    · intro a b rowA rowB ha hb hbundle hua hub
      by_contra hne
      obtain ⟨oldA, hoA, hfromA⟩ | ⟨rfl, -, hguards⟩ := origin a rowA ha
      · obtain ⟨oldB, hoB, hfromB⟩ | ⟨rfl, -, hguards⟩ := origin b rowB hb
        · exact hne (hI.one a b oldA oldB hoA hoB hbundle (unresolved hfromA hua)
            (unresolved hfromB hub))
        · have := (admissionGuards_eq_ok hguards).1 a oldA hoA hbundle
          rw [unresolved hfromA hua] at this
          cases this
      · have := (admissionGuards_eq_ok hguards).1 b rowB (others b rowB (Ne.symm hne) hb)
          hbundle.symm
        rw [hub] at this
        cases this
    · intro a b rowA rowB ha hb hbundle htarget hua hcasts hconfirmed
      have hne : a ≠ b := by
        rintro rfl
        rw [htarget] at hcasts
        cases hcasts
      obtain ⟨oldA, hoA, hfromA⟩ | ⟨rfl, -, hguards⟩ := origin a rowA ha
      · obtain ⟨oldB, hoB, hfromB⟩ | ⟨rfl, hub, -⟩ := origin b rowB hb
        · rcases hfromB with hub | heq
          · exact hne (hI.one a b oldA oldB hoA hoB hbundle (unresolved hfromA hua) hub)
          · exact hI.delegation a b oldA oldB hoA hoB hbundle htarget (unresolved hfromA hua)
              hcasts (heq ▸ hconfirmed)
        · rw [hconfirmed] at hub
          cases hub
      · exact (admissionGuards_eq_ok hguards).2.1 htarget b rowB
          (others b rowB (Ne.symm hne) hb) hbundle.symm hcasts hconfirmed

/-- A row that appears was admitted. -/
theorem RowStep.admitted {db : Db} {identity : ChainSubmissionIdentity} {new : ChainSubmissionRow}
    (h : RowStep db identity (some new)) (hnone : db.submissions.lookup identity = none) :
    admissionGuards identity db = .ok () := by
  rcases h.origin with ⟨old, hold, -⟩ | ⟨-, hguards⟩
  · rw [hnone] at hold; cases hold
  · exact hguards

/-- In every reachable state each bundle has at most one unresolved submission,
and no unresolved delegation beside a confirmed vote; and a call that creates the
row of a combined batch finds no other row on the bundle. -/
theorem bundle_causality (P : Primitives) (db : Db) (hreach : StoreReachable P db) :
    (∀ a b rowA rowB, db.chainSubmissions.lookup a = some rowA →
      db.chainSubmissions.lookup b = some rowB → a.SameBundle b →
      rowA.state.isUnresolved = true → rowB.state.isUnresolved = true → a = b) ∧
    (∀ a b rowA rowB, db.chainSubmissions.lookup a = some rowA →
      db.chainSubmissions.lookup b = some rowB → a.SameBundle b → a.target = .delegation →
      rowA.state.isUnresolved = true → b.target.castsVotes = true → rowB.state ≠ .confirmed) ∧
    (∀ (op : StoreOp) identity row, identity.target.isCombined = true →
      db.chainSubmissions.lookup identity = none →
      (op.run P db).2.chainSubmissions.lookup identity = some row →
      ∀ key other, db.chainSubmissions.lookup key = some other →
        key.bundleKey ≠ identity.bundleKey) := by
  have hcausal := hreach.invariant causal_invariant
  refine ⟨hcausal.one, hcausal.delegation, ?_⟩
  intro op identity row hcombined hnone hrow
  obtain ⟨new, hstep, hset⟩ := StoreOp.run_takesRowStep P op db
  have hset := hset identity
  rw [show (op.run P db).2.submissions.lookup identity = some row from hrow] at hset
  split at hset
  · next heq =>
    subst heq
    subst hset
    exact (admissionGuards_eq_ok (hstep.admitted hnone)).2.2 hcombined
  · rw [show db.submissions.lookup identity = none from hnone] at hset
    cases hset

/-- On a bundle with an unresolved delegation nothing else is unresolved, no vote is confirmed, and
no call starts a combined batch. -/
theorem bundle_causality_tracking :
    (∀ b rowB, sampleTracking.chainSubmissions.lookup b = some rowB →
      (sampleIdentity 0).SameBundle b → rowB.state.isUnresolved = true → sampleIdentity 0 = b) ∧
    (∀ b rowB, sampleTracking.chainSubmissions.lookup b = some rowB →
      (sampleIdentity 0).SameBundle b → b.target.castsVotes = true → rowB.state ≠ .confirmed) ∧
    ∀ (op : StoreOp) digest, (op.run samplePrimitives sampleTracking).2.chainSubmissions.lookup
      { sampleIdentity 0 with target := .delegateAndVoteBatch digest, target_valid := trivial } =
        none := by
  obtain ⟨hone, hvotes, hcombined⟩ :=
    bundle_causality samplePrimitives sampleTracking sampleTracking_reachable
  obtain ⟨row, hrow, htracking⟩ := Option.map_eq_some_iff.mp (show
    (sampleTracking.chainSubmissions.lookup (sampleIdentity 0)).map (·.state) = some .tracking by
      decide +kernel)
  have hopen : row.state.isUnresolved = true := by rw [htracking]; rfl
  have hempty : ∀ entry ∈ sampleTracking.chainSubmissions.rows,
      entry.1.target.isCombined = false := by decide +kernel
  refine ⟨fun b rowB hb hsame => hone _ b row rowB hrow hb hsame hopen,
    fun b rowB hb hsame => hvotes _ b row rowB hrow hb hsame rfl hopen, fun op digest => ?_⟩
  by_contra hstarted
  obtain ⟨started, hstarted⟩ := Option.ne_none_iff_exists'.mp hstarted
  refine hcombined op _ started rfl ?_ hstarted _ row hrow rfl
  by_contra hfound
  obtain ⟨found, hfound⟩ := Option.ne_none_iff_exists'.mp hfound
  exact absurd (hempty _ (Table.mem_rows.mpr hfound)) (by simp [ChainSubmissionTarget.isCombined])

end ZcashVoting
