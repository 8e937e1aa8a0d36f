import ZcashVoting.RoundPlanning.Projection

/-!
# ZcashVoting.RoundDrive.Selection

Which obligations the round driver dispatches next, and under which lock.
-/

namespace ZcashVoting.RoundDrive

/-- `bundle_index`: every step names its bundle. -/
def bundleIndex : NextStep → Nat
  | .delegate bundleIndex | .advanceDelegation bundleIndex
  | .advanceImportedDelegation bundleIndex | .castVote bundleIndex _ _ | .advanceVote bundleIndex _
  | .advanceVoteBatch bundleIndex _ | .submitShares bundleIndex _ _
  | .confirmShare bundleIndex _ _ => bundleIndex

/-- `round_lock::bundle_scope`: the bundle whose lock the executor takes, none for the
lock of the round. -/
def bundleScope : NextStep → Option Nat
  | .delegate bundleIndex | .advanceDelegation bundleIndex
  | .advanceImportedDelegation bundleIndex | .castVote bundleIndex _ _ | .advanceVote bundleIndex _
  | .advanceVoteBatch bundleIndex _ | .submitShares bundleIndex _ _
  | .confirmShare bundleIndex _ _ => some bundleIndex

/-- `StepLockScope`. -/
inductive StepLockScope where
  | bundle
  | round
  deriving DecidableEq

/-- `lock_scope`. -/
def lockScope (step : NextStep) : StepLockScope :=
  match bundleScope step with
  | some _ => .bundle
  | none => .round

/-- `needs_delegation_signer`: an imported capability advances without a signer. -/
def needsDelegationSigner : NextStep → Bool
  | .delegate _ | .castVote _ _ _ | .advanceDelegation _ => true
  | .advanceImportedDelegation _ | .advanceVote _ _ | .advanceVoteBatch _ _ | .submitShares _ _ _
  | .confirmShare _ _ _ => false

/-! ## Selection -/

section

variable (steps : List NextStep) (skippedBundles : List Nat) (preferred : List NextStep)

/-- One step joins the order of admission, unless it is there, is no candidate or is
skipped. -/
def joinOrder (ordered : List NextStep) (step : NextStep) : List NextStep :=
  if step ∈ steps ∧ bundleIndex step ∉ skippedBundles ∧ step ∉ ordered then ordered ++ [step]
  else ordered

/-- The candidates in the order of admission, the preferred ones first. -/
def admissionOrder : List NextStep :=
  (preferred ++ steps).foldl (joinOrder steps skippedBundles) []

/-- The loop of `next_dispatches`; `bundles` are those of the steps selected so far. -/
def selectBundles (limit : Nat) : List Nat → List NextStep → List NextStep
  | _, [] => []
  | bundles, step :: ordered =>
    if lockScope step = .round then []
    else if bundleIndex step ∈ bundles then selectBundles limit bundles ordered
    else if bundles.length + 1 = limit then [step]
    else step :: selectBundles limit (bundles ++ [bundleIndex step]) ordered

/-- `next_dispatches`. -/
def nextDispatches (maxBundleConcurrency maxDispatches : Nat) (allowParallelBundles : Bool) :
    List NextStep :=
  if maxDispatches = 0 then []
  else match admissionOrder steps skippedBundles preferred with
    | [] => []
    | first :: rest =>
      if lockScope first = .round ∨ !allowParallelBundles then [first]
      else selectBundles (min maxBundleConcurrency maxDispatches) [] (first :: rest)

end

/-! ## What is selected -/

section

variable {steps : List NextStep} {skippedBundles : List Nat} {preferred : List NextStep}

theorem mem_joinOrder {ordered : List NextStep} {step other : NextStep} :
    other ∈ joinOrder steps skippedBundles ordered step ↔
      other ∈ ordered ∨
        (other = step ∧ step ∈ steps ∧ bundleIndex step ∉ skippedBundles) := by
  unfold joinOrder
  split <;> grind

theorem mem_foldl_joinOrder {ordered joining : List NextStep} {step : NextStep} :
    step ∈ joining.foldl (joinOrder steps skippedBundles) ordered ↔
      step ∈ ordered ∨
        (step ∈ joining ∧ step ∈ steps ∧ bundleIndex step ∉ skippedBundles) := by
  induction joining generalizing ordered with
  | nil => simp
  | cons next joining ih =>
    rw [List.foldl_cons, ih, mem_joinOrder]
    grind

/-- Every candidate that is not skipped is in the order of admission, and nothing else. -/
theorem mem_admissionOrder {step : NextStep} :
    step ∈ admissionOrder steps skippedBundles preferred ↔
      step ∈ steps ∧ bundleIndex step ∉ skippedBundles := by
  rw [admissionOrder, mem_foldl_joinOrder]
  grind

theorem selectBundles_subset {limit : Nat} {bundles : List Nat} {ordered : List NextStep} :
    ∀ step ∈ selectBundles limit bundles ordered, step ∈ ordered := by
  fun_induction selectBundles limit bundles ordered <;> grind

/-- The bundles selected are new and distinct. -/
theorem selectBundles_distinct {limit : Nat} {bundles : List Nat} {ordered : List NextStep} :
    ((selectBundles limit bundles ordered).map bundleIndex).Nodup ∧
      ∀ step ∈ selectBundles limit bundles ordered, bundleIndex step ∉ bundles := by
  fun_induction selectBundles limit bundles ordered <;> grind

section

variable {maxBundleConcurrency maxDispatches : Nat} {allowParallelBundles : Bool}

/-- What `next_dispatches` selects: nothing, or a step, or what the loop selects. -/
theorem nextDispatches_cases {selected : List NextStep}
    (h : nextDispatches steps skippedBundles preferred maxBundleConcurrency maxDispatches
      allowParallelBundles = selected) :
    selected = [] ∨ 0 < maxDispatches ∧ ∃ first rest,
      admissionOrder steps skippedBundles preferred = first :: rest ∧
        (selected = [first] ∨
          selected = selectBundles (min maxBundleConcurrency maxDispatches) [] (first :: rest)) := by
  unfold nextDispatches at h
  split at h
  · exact .inl h.symm
  next hbudget =>
  cases hordered : admissionOrder steps skippedBundles preferred with
  | nil =>
    rw [hordered] at h
    exact .inl h.symm
  | cons first rest =>
    rw [hordered] at h
    dsimp only at h
    refine .inr ⟨by omega, first, rest, rfl, ?_⟩
    split at h
    · exact .inl h.symm
    · exact .inr h.symm

/-- Only candidates that are not skipped are selected. -/
theorem nextDispatches_candidates {step : NextStep}
    (h : step ∈ nextDispatches steps skippedBundles preferred maxBundleConcurrency maxDispatches
      allowParallelBundles) : step ∈ steps ∧ bundleIndex step ∉ skippedBundles := by
  suffices hmem : step ∈ admissionOrder steps skippedBundles preferred from
    mem_admissionOrder.mp hmem
  generalize hselected : nextDispatches steps skippedBundles preferred maxBundleConcurrency
    maxDispatches allowParallelBundles = selected at h
  obtain rfl | ⟨-, first, rest, hordered, rfl | rfl⟩ := nextDispatches_cases hselected
  · cases h
  · rw [List.mem_singleton.mp h, hordered]
    exact List.mem_cons_self
  · rw [hordered]
    exact selectBundles_subset step h

/-- No bundle is selected twice. -/
theorem nextDispatches_distinct :
    ((nextDispatches steps skippedBundles preferred maxBundleConcurrency maxDispatches
      allowParallelBundles).map bundleIndex).Nodup := by
  generalize hselected : nextDispatches steps skippedBundles preferred maxBundleConcurrency
    maxDispatches allowParallelBundles = selected
  obtain rfl | ⟨-, first, rest, -, rfl | rfl⟩ := nextDispatches_cases hselected
  · simp
  · simp
  · exact selectBundles_distinct.1

end

end

end ZcashVoting.RoundDrive
