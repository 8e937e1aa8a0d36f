import ZcashVoting.RoundPlanning.Coverage
import ZcashVoting.RoundDrive.Steps

/-!
# ZcashVoting.RoundDrive.Signing

The signing material an admission group needs before anything is dispatched.

The driver hands off to its host while a signature is owed, and the handoff is exact: an
admitted step that it lets pass does not fail for want of a signature, and a bundle that
it names has none.  Proving a delegation takes no signature, so a bundle that owes only
its proof is no part of the handoff.
-/

namespace ZcashVoting.RoundDrive

open Transaction

/-- `signer_bundles`: the bundles whose delegation obligations still need signing material. -/
def signerBundles (obligations : List Obligation) (skipped : List Nat) : List Nat :=
  sortedBundles ((obligations.filterMap fun
    | .advanceDelegation bundleIndex false _ _ => some bundleIndex
    | _ => none).filter (· ∉ skipped))

/-- The bundles with a cast that signs its own delegation. -/
def signingCasts (obligations : List Obligation) (skipped : List Nat) : List Nat :=
  (obligations.filterMap fun
    | .cast bundleIndex _ _ true => some bundleIndex
    | _ => none).filter (· ∉ skipped)

/-- Every bundle the round still owes a signature for. -/
def requiredBundles (obligations : List Obligation) (skipped : List Nat) : List Nat :=
  sortedBundles (signerBundles obligations skipped ++ signingCasts obligations skipped)

section

variable (stored : Except VotingError (List KeystoneSignatureRecord))
  (dispatches : List (NextStep × RoundHostContext))

/-- The admitted bundles with delegation work, each with the context of its step. -/
def admittedBundles (required : List Nat) : List (Nat × RoundHostContext) :=
  (dispatches.filter fun (step, _) =>
    needsDelegationSigner step && required.contains (bundleIndex step)).map fun (step, context) =>
      (bundleIndex step, context)

/-- What the context of an admitted bundle can do. -/
inductive SigningMode where
  | noInputs
  | readsStored
  | signsItself
  deriving DecidableEq

def RoundHostContext.signingMode (context : RoundHostContext) : SigningMode :=
  match context.delegation with
  | none => .noInputs
  | some inputs =>
    match inputs.signer with
    | .keystone .stored => .readsStored
    | .keystone (.provided _ _) | .software => .signsItself

/-- The admitted bundles whose context is of one mode. -/
def bundlesInMode (mode : SigningMode) (admitted : List (Nat × RoundHostContext)) : List Nat :=
  (admitted.filter fun (_, context) => context.signingMode = mode).map (·.1)

/-- `missing_signer_bundles`, over the answer of `get_keystone_signatures`. -/
def missingSignerBundles (obligations : List Obligation) (skipped : List Nat) :
    Except VotingError (List Nat) :=
  let required := requiredBundles obligations skipped
  let admitted := admittedBundles dispatches required
  let owed := required.filter (· ∉ bundlesInMode .signsItself admitted)
  let noSigningInputs := bundlesInMode .noInputs admitted
  if required = [] ∨ admitted = [] ∨ owed = [] then .ok []
  -- nothing admitted depends on material that must already exist
  else if bundlesInMode .readsStored admitted = [] then .ok noSigningInputs
  else do
    let records ← stored
    return owed.filter fun bundleIndex =>
      bundleIndex ∈ noSigningInputs ∨ ∀ record ∈ records, record.bundleIndex ≠ bundleIndex

end

/-! ## The handoff is exact -/

section

variable {stored : Except VotingError (List KeystoneSignatureRecord)}
  {dispatches : List (NextStep × RoundHostContext)} {obligations : List Obligation}
  {skipped bundles : List Nat} {obligation : Obligation} {scope : StepScope}
  {refusal : SigningRefusal}

theorem mem_sortedBundles {bundleIndex : Nat} {bundles : List Nat} :
    bundleIndex ∈ sortedBundles bundles ↔ bundleIndex ∈ bundles := by
  simp [sortedBundles]

theorem mem_signingCasts {bundleIndex : Nat} :
    bundleIndex ∈ signingCasts obligations skipped ↔ bundleIndex ∉ skipped ∧
      ∃ drafts prerequisite, .cast bundleIndex drafts prerequisite true ∈ obligations := by
  simp only [signingCasts, List.mem_filter, List.mem_filterMap, decide_eq_true_eq]
  constructor
  · rintro ⟨⟨obligation, hmem, hbundle⟩, hskipped⟩
    split at hbundle <;> cases hbundle
    exact ⟨hskipped, _, _, hmem⟩
  · rintro ⟨hskipped, drafts, prerequisite, hmem⟩
    exact ⟨⟨_, hmem, rfl⟩, hskipped⟩

theorem mem_signerBundles {bundleIndex : Nat} :
    bundleIndex ∈ signerBundles obligations skipped ↔ bundleIndex ∉ skipped ∧
      ∃ phase txHash, .advanceDelegation bundleIndex false phase txHash ∈ obligations := by
  simp only [signerBundles, mem_sortedBundles, List.mem_filter, List.mem_filterMap,
    decide_eq_true_eq]
  constructor
  · rintro ⟨⟨obligation, hmem, hbundle⟩, hskipped⟩
    split at hbundle <;> cases hbundle
    exact ⟨hskipped, _, _, hmem⟩
  · rintro ⟨hskipped, phase, txHash, hmem⟩
    exact ⟨⟨_, hmem, rfl⟩, hskipped⟩

theorem mem_requiredBundles {bundleIndex : Nat} :
    bundleIndex ∈ requiredBundles obligations skipped ↔
      bundleIndex ∈ signerBundles obligations skipped ∨
        bundleIndex ∈ signingCasts obligations skipped := by
  rw [requiredBundles, mem_sortedBundles, List.mem_append]

theorem not_skipped_of_required {bundleIndex : Nat}
    (h : bundleIndex ∈ requiredBundles obligations skipped) : bundleIndex ∉ skipped := by
  rw [mem_requiredBundles, mem_signerBundles, mem_signingCasts] at h
  obtain h | h := h
  · exact h.1
  · exact h.1

theorem mem_admittedBundles {required : List Nat} {entry : Nat × RoundHostContext} :
    entry ∈ admittedBundles dispatches required ↔ ∃ step, (step, entry.2) ∈ dispatches ∧
      needsDelegationSigner step = true ∧ bundleIndex step = entry.1 ∧ entry.1 ∈ required := by
  obtain ⟨bundle, context⟩ := entry
  simp only [admittedBundles, List.mem_map, List.mem_filter, Bool.and_eq_true, List.contains_iff_mem,
    Prod.exists, Prod.mk.injEq]
  constructor
  · rintro ⟨step, own, ⟨hmem, hneeds, hrequired⟩, rfl, rfl⟩
    exact ⟨step, hmem, hneeds, rfl, hrequired⟩
  · rintro ⟨step, hmem, hneeds, rfl, hrequired⟩
    exact ⟨step, context, ⟨hmem, hneeds, hrequired⟩, rfl, rfl⟩

theorem mem_bundlesInMode {mode : SigningMode} {admitted : List (Nat × RoundHostContext)}
    {bundleIndex : Nat} :
    bundleIndex ∈ bundlesInMode mode admitted ↔
      ∃ context, (bundleIndex, context) ∈ admitted ∧ context.signingMode = mode := by
  simp [bundlesInMode]

theorem signingMode_eq_noInputs {context : RoundHostContext} :
    context.signingMode = .noInputs ↔ context.delegation = none := by
  unfold RoundHostContext.signingMode
  cases context.delegation with
  | none => simp
  | some inputs =>
    dsimp only
    split <;> simp

theorem signingMode_of_stored {context : RoundHostContext} {inputs : DelegationStepInputs}
    (hinputs : context.delegation = some inputs) (hsigner : inputs.signer = .keystone .stored) :
    context.signingMode = .readsStored := by
  rw [RoundHostContext.signingMode, hinputs]
  dsimp only
  rw [hsigner]

/-- The mode of a bundle is that of its only step. -/
theorem mode_unique (hdistinct : (dispatches.map fun dispatch => bundleIndex dispatch.1).Nodup)
    {required : List Nat} {mode : SigningMode} {dispatch : NextStep × RoundHostContext}
    (hdispatch : dispatch ∈ dispatches)
    (h : bundleIndex dispatch.1 ∈ bundlesInMode mode (admittedBundles dispatches required)) :
    dispatch.2.signingMode = mode := by
  obtain ⟨context, hadmitted, hmode⟩ := mem_bundlesInMode.mp h
  obtain ⟨step, hmem, -, hbundle, -⟩ := mem_admittedBundles.mp hadmitted
  have heq := List.inj_on_of_nodup_map hdistinct hmem hdispatch hbundle
  rw [← heq]
  exact hmode

/-- An admitted bundle that is owed a signature is named if its context has no inputs, or
if it reads a stored signature that is not there. -/
theorem mem_missingSignerBundles
    (hdistinct : (dispatches.map fun dispatch => bundleIndex dispatch.1).Nodup)
    (h : missingSignerBundles stored dispatches obligations skipped = .ok bundles)
    {dispatch : NextStep × RoundHostContext} (hdispatch : dispatch ∈ dispatches)
    (hneeds : needsDelegationSigner dispatch.1 = true)
    (hrequired : bundleIndex dispatch.1 ∈ requiredBundles obligations skipped)
    (hlacks : dispatch.2.signingMode = .noInputs ∨ dispatch.2.signingMode = .readsStored ∧
      ∃ records, stored = .ok records ∧
        ∀ record ∈ records, record.bundleIndex ≠ bundleIndex dispatch.1) :
    bundleIndex dispatch.1 ∈ bundles := by
  have hadmitted : (bundleIndex dispatch.1, dispatch.2) ∈
      admittedBundles dispatches (requiredBundles obligations skipped) :=
    mem_admittedBundles.mpr ⟨dispatch.1, hdispatch, hneeds, rfl, hrequired⟩
  have hmode : ∀ mode, dispatch.2.signingMode = mode → bundleIndex dispatch.1 ∈
      bundlesInMode mode (admittedBundles dispatches (requiredBundles obligations skipped)) :=
    fun mode hmode => mem_bundlesInMode.mpr ⟨dispatch.2, hadmitted, hmode⟩
  have howed : bundleIndex dispatch.1 ∈ (requiredBundles obligations skipped).filter
      (· ∉ bundlesInMode .signsItself (admittedBundles dispatches
        (requiredBundles obligations skipped))) := by
    refine List.mem_filter.mpr ⟨hrequired, decide_eq_true fun hself => ?_⟩
    rw [mode_unique hdistinct hdispatch hself] at hlacks
    simp at hlacks
  unfold missingSignerBundles at h
  dsimp only at h
  rw [if_neg (by
    rintro (hnone | hnone | hnone)
    · simp [hnone] at hrequired
    · simp [hnone] at hadmitted
    · rw [hnone] at howed
      cases howed)] at h
  split at h
  · next hreads =>
    cases h
    obtain hinputs | ⟨hstored, -⟩ := hlacks
    · exact hmode _ hinputs
    · have hmem := hmode _ hstored
      rw [hreads] at hmem
      cases hmem
  · obtain ⟨records, hrecords, h⟩ := except_bind_eq_ok.mp h
    cases h
    refine List.mem_filter.mpr ⟨howed, decide_eq_true ?_⟩
    obtain hinputs | ⟨-, found, hfound, hnone⟩ := hlacks
    · exact .inl (hmode _ hinputs)
    · rw [hrecords, Except.ok.injEq] at hfound
      exact .inr (hfound ▸ hnone)

theorem resolveStep_eq_some {step : NextStep}
    (h : resolveStep obligations step = .ok (some obligation)) :
    obligation ∈ obligations ∧ obligation.resolves step = .ok true := by
  induction obligations with
  | nil => simp [resolveStep] at h
  | cons head tail ih =>
    simp only [resolveStep, except_bind_eq_ok] at h
    obtain ⟨found, hfound, h⟩ := h
    cases found with
    | true =>
      cases h
      exact ⟨List.mem_cons_self, hfound⟩
    | false =>
      obtain ⟨hmem, hresolves⟩ := ih h
      exact ⟨List.mem_cons_of_mem _ hmem, hresolves⟩

/-- A bundle that is named is not skipped, and has no signing inputs or no stored
signature. -/
theorem missingSignerBundles_lacks
    (h : missingSignerBundles stored dispatches obligations skipped = .ok bundles) {bundle : Nat}
    (hbundle : bundle ∈ bundles) :
    bundle ∉ skipped ∧
      ((∃ dispatch ∈ dispatches, bundleIndex dispatch.1 = bundle ∧ dispatch.2.delegation = none) ∨
        ∃ records, stored = .ok records ∧ ∀ record ∈ records, record.bundleIndex ≠ bundle) := by
  have hinputs : ∀ required, bundle ∈ bundlesInMode .noInputs (admittedBundles dispatches required) →
      bundle ∈ required ∧ ∃ dispatch ∈ dispatches, bundleIndex dispatch.1 = bundle ∧
        dispatch.2.delegation = none := by
    intro required hmem
    obtain ⟨context, hadmitted, hmode⟩ := mem_bundlesInMode.mp hmem
    obtain ⟨step, hdispatch, -, hstep, hrequired⟩ := mem_admittedBundles.mp hadmitted
    exact ⟨hrequired, (step, context), hdispatch, hstep, signingMode_eq_noInputs.mp hmode⟩
  unfold missingSignerBundles at h
  dsimp only at h
  split at h
  · cases h
    cases hbundle
  split at h
  · cases h
    obtain ⟨hrequired, hlacks⟩ := hinputs _ hbundle
    exact ⟨not_skipped_of_required hrequired, .inl hlacks⟩
  · obtain ⟨records, hrecords, h⟩ := except_bind_eq_ok.mp h
    cases h
    obtain ⟨howed, hlacks⟩ := List.mem_filter.mp hbundle
    refine ⟨not_skipped_of_required (List.mem_filter.mp howed).1, ?_⟩
    obtain hlacks | hlacks := of_decide_eq_true hlacks
    · exact .inl (hinputs _ hlacks).2
    · exact .inr ⟨records, hrecords, hlacks⟩

/-- The obligation makes its bundle one that the round owes a signature for. -/
theorem mem_requiredBundles_of_signs (hmem : obligation ∈ obligations)
    (hskipped : obligation.bundleIndex ∉ skipped)
    (hdelegate : ∀ bundleIndex, obligation = .delegate bundleIndex → ∃ drafts prerequisite, .cast bundleIndex drafts prerequisite true ∈ obligations)
    (h : takeSigningMaterial stored scope obligation = .error refusal) :
    obligation.bundleIndex ∈ requiredBundles obligations skipped := by
  rw [mem_requiredBundles, mem_signerBundles, mem_signingCasts]
  cases obligation with
  | delegate bundleIndex => exact .inr ⟨hskipped, hdelegate bundleIndex rfl⟩
  | advanceDelegation bundleIndex imported phase txHash =>
    cases imported with
    | true => cases h
    | false => exact .inl ⟨hskipped, phase, txHash, hmem⟩
  | cast bundleIndex drafts prerequisite signsDelegation =>
    cases signsDelegation with
    | true => exact .inr ⟨hskipped, drafts, prerequisite, hmem⟩
    | false => cases h
  | _ => cases h

/-- The step of an obligation that takes signing material asks for it. -/
theorem step_of_resolves {step : NextStep} (hresolves : obligation.resolves step = .ok true)
    (h : takeSigningMaterial stored scope obligation = .error refusal) :
    needsDelegationSigner step = true ∧ bundleIndex step = obligation.bundleIndex := by
  cases obligation with
  | delegate b =>
    cases step <;> simp_all [Obligation.resolves, needsDelegationSigner, bundleIndex,
      Obligation.bundleIndex]
  | advanceDelegation b imported phase txHash =>
    cases imported with
    | true => cases h
    | false =>
      cases step <;> simp_all [Obligation.resolves, needsDelegationSigner, bundleIndex,
        Obligation.bundleIndex]
  | cast b drafts prerequisite signsDelegation =>
    cases step <;> simp_all [Obligation.resolves, needsDelegationSigner, bundleIndex,
      Obligation.bundleIndex]
  | _ => cases h

/-- The material an obligation needs is missing only where the host gave no inputs, or
where it takes a stored signature that is not there. -/
theorem takeSigningMaterial_refusal
    (h : takeSigningMaterial stored scope obligation = .error refusal)
    (hmissing : refusal.isMissing = true) :
    scope.host.signingMode = .noInputs ∨ scope.host.signingMode = .readsStored ∧
      ∃ records, stored = .ok records ∧
        ∀ record ∈ records, record.bundleIndex ≠ obligation.bundleIndex := by
  have hinputs : ∀ {refusal}, delegationInputs scope = .error refusal →
      refusal.isMissing = true → scope.host.signingMode = .noInputs := fun h hmissing =>
    signingMode_eq_noInputs.mpr (delegationInputs_refusal h hmissing)
  have hsigning : ∀ bundleIndex, (do
      let inputs ← delegationInputs scope
      signerMaterial stored bundleIndex inputs.signer) = .error refusal →
      scope.host.signingMode = .noInputs ∨ scope.host.signingMode = .readsStored ∧
        ∃ records, stored = .ok records ∧
          ∀ record ∈ records, record.bundleIndex ≠ bundleIndex := by
    intro bundleIndex h
    obtain h | ⟨inputs, hok, h⟩ := except_bind_eq_error.mp h
    · exact .inl (hinputs h hmissing)
    · obtain ⟨hsigner, hrecords⟩ := signerMaterial_refusal h hmissing
      exact .inr ⟨signingMode_of_stored (delegationInputs_eq_ok hok) hsigner, hrecords⟩
  cases obligation with
  | delegate bundleIndex =>
    cases hresult : delegationInputs scope with
    | error other =>
      simp only [takeSigningMaterial, hresult, Except.map, Except.error.injEq] at h
      exact .inl (hinputs hresult (h ▸ hmissing))
    | ok inputs => simp [takeSigningMaterial, hresult, Except.map] at h
  | advanceDelegation bundleIndex imported phase txHash =>
    cases imported with
    | true => cases h
    | false => exact hsigning bundleIndex h
  | cast bundleIndex drafts prerequisite signsDelegation =>
    cases signsDelegation with
    | true => exact hsigning bundleIndex h
    | false => cases h
  | _ => cases h

end

/-- **Signature handoff.**  The answer for the steps that one selection admits.  Where it
names no bundle, no admitted step is refused for missing signing material that advances a
delegation, casts with one, or proves one that its bundle owes a cast with; and a bundle
that it names is not skipped, and has no signing inputs or no stored signature. -/
theorem signature_handoff_exact (stored : Except VotingError (List KeystoneSignatureRecord))
    (dispatches : List (NextStep × RoundHostContext)) (obligations : List Obligation)
    (skipped bundles : List Nat) (steps preferred : List NextStep) (concurrency budget : Nat)
    (hadmitted : dispatches.map (·.1) = nextDispatches steps skipped preferred concurrency budget true)
    (h : missingSignerBundles stored dispatches obligations skipped = .ok bundles) :
    (bundles = [] → ∀ dispatch ∈ dispatches, ∀ obligation,
      resolveStep obligations dispatch.1 = .ok (some obligation) →
      (∀ bundleIndex, obligation = .delegate bundleIndex →
        ∃ drafts prerequisite, .cast bundleIndex drafts prerequisite true ∈ obligations) →
      ∀ scope : StepScope, scope.host = dispatch.2 → ∀ refusal,
        takeSigningMaterial stored scope obligation = .error refusal →
          refusal.isMissing = false) ∧
    ∀ bundle ∈ bundles, bundle ∉ skipped ∧
      ((∃ dispatch ∈ dispatches, bundleIndex dispatch.1 = bundle ∧ dispatch.2.delegation = none) ∨
        ∃ records, stored = .ok records ∧ ∀ record ∈ records, record.bundleIndex ≠ bundle) := by
  have hdistinct : (dispatches.map fun dispatch => bundleIndex dispatch.1).Nodup := by
    have hbundles : dispatches.map (fun dispatch => bundleIndex dispatch.1) =
        (dispatches.map (·.1)).map bundleIndex := by
      rw [List.map_map]
      rfl
    rw [hbundles, hadmitted]
    exact nextDispatches_distinct
  constructor
  · intro hnone dispatch hdispatch obligation hresolve hdelegate scope hscope refusal hrefused
    rw [← Bool.not_eq_true]
    intro hmissing
    obtain ⟨hmem, hresolves⟩ := resolveStep_eq_some hresolve
    obtain ⟨hneeds, hbundle⟩ := step_of_resolves hresolves hrefused
    have hstep : dispatch.1 ∈ dispatches.map (·.1) := List.mem_map_of_mem hdispatch
    rw [hadmitted] at hstep
    have hskipped := (nextDispatches_candidates hstep).2
    rw [hbundle] at hskipped
    have hrequired := mem_requiredBundles_of_signs hmem hskipped hdelegate hrefused
    have hlacks := takeSigningMaterial_refusal hrefused hmissing
    rw [← hbundle] at hrequired
    rw [hscope, ← hbundle] at hlacks
    have hnamed := mem_missingSignerBundles hdistinct h hdispatch hneeds hrequired hlacks
    rw [hnone] at hnamed
    cases hnamed
  · intro bundle hbundle
    exact missingSignerBundles_lacks h hbundle

/-- A host that reads the signatures its Keystone device has stored. -/
def keystoneHost : RoundHostContext :=
  ⟨some ⟨⟨.testnet, "round", "wallet", true, none⟩, .keystone .stored⟩⟩

def keystoneScope : StepScope := ⟨.testnet, "round", "wallet", none, keystoneHost⟩

def keystoneRecord : KeystoneSignatureRecord := ⟨0, List.replicate 64 1, List.replicate 32 2⟩

/-- Two delegations to advance, of which the device has signed the first. -/
def submittedDelegations : List Obligation :=
  [.advanceDelegation 0 false .submitted none, .advanceDelegation 1 false .submitted none]

theorem signature_handoff_exact_keystone :
    (missingSignerBundles (.ok [keystoneRecord]) [(.advanceDelegation 0, keystoneHost)]
        (submittedDelegations.take 1) [] = .ok [] ∧
      ∀ refusal, takeSigningMaterial (.ok [keystoneRecord]) keystoneScope
        (.advanceDelegation 0 false .submitted none) = .error refusal →
          refusal.isMissing = false) ∧
    missingSignerBundles (.ok [keystoneRecord]) [(.advanceDelegation 0, keystoneHost)]
        submittedDelegations [] = .ok [1] ∧
      ∃ records, Except.ok [keystoneRecord] = (.ok records : Except VotingError _) ∧
        ∀ record ∈ records, record.bundleIndex ≠ 1 := by
  have hselected : [(NextStep.advanceDelegation 0, keystoneHost)].map (·.1) =
      nextDispatches [.advanceDelegation 0, .advanceDelegation 1] [] [] 1 8 true := by decide
  have hsigned : missingSignerBundles (.ok [keystoneRecord]) [(.advanceDelegation 0, keystoneHost)]
    (submittedDelegations.take 1) [] = .ok [] := by decide
  have hunsigned : missingSignerBundles (.ok [keystoneRecord])
    [(.advanceDelegation 0, keystoneHost)] submittedDelegations [] = .ok [1] := by decide
  refine ⟨⟨hsigned, ?_⟩, hunsigned, ?_⟩
  · exact (signature_handoff_exact _ _ _ _ _ _ _ _ _ hselected hsigned).1 rfl _
      List.mem_cons_self _ (by decide) (by simp) keystoneScope rfl
  · obtain ⟨-, hinputs | hrecords⟩ :=
      (signature_handoff_exact _ _ _ _ _ _ _ _ _ hselected hunsigned).2 1 (by decide)
    · simp [bundleIndex] at hinputs
    · exact hrecords

/-- A round with one prepared bundle whose voter has decided one of two proposals. -/
def undecidedSnapshot : RoundSnapshot :=
  { coveredSnapshot with
    delegations := [⟨0, .prepared, none⟩]
    votes := ∅
    intents := AList.insert 1 (.choice 0) ∅ }

def undecidedObligations : List Obligation :=
  [.blocked 0 (.openBallot [2]), .delegate 0]

/-- While the ballot is open a bundle owes the proof of its delegation and no cast.  The
proof takes the host's delegation inputs, and the handoff does not ask for them. -/
theorem signature_handoff_proof_only :
    (classifyRound samplePrimitives undecidedSnapshot [1, 2]).map (·.obligations) =
        .ok undecidedObligations ∧
      [(NextStep.delegate 0, RoundHostContext.mk none)].map (·.1) =
        nextDispatches [.delegate 0] [] [] 1 8 true ∧
      missingSignerBundles (.ok []) [(.delegate 0, ⟨none⟩)] undecidedObligations [] = .ok [] ∧
      resolveStep undecidedObligations (.delegate 0) = .ok (some (.delegate 0)) ∧
      takeSigningMaterial (.ok []) ⟨.testnet, "round", "wallet", none, ⟨none⟩⟩ (.delegate 0) =
        .error .noInputs := by
  refine ⟨by decide +kernel, by decide, by decide, by decide, by decide⟩

end ZcashVoting.RoundDrive
