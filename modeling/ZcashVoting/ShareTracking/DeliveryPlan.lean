import ZcashVoting.Helper.Url
import ZcashVoting.SharePolicy.InitialPlacement
import ZcashVoting.ShareTracking.ImmediateShare

/-!
# ZcashVoting.ShareTracking.DeliveryPlan

The durable delivery plan of one committed vote.  It is made once for a generation of the
vote, bound to the recovery it was made from, and checked again whenever it is read.
-/

namespace ZcashVoting

open Transaction

/-- `ShareDeliveryPlan`. -/
structure ShareDeliveryPlan where
  /-- The fleet against which the plan and its target are validated. -/
  configuredServerUrls : List String
  sharePlans : List ShareSubmissionPlan
  placementGuarantee : SharePlacementGuarantee
  deriving DecidableEq

section

variable (U : UrlCrate)

/-! ## Checks of a plan -/

/-- The targets of one share are as many helpers of the fleet as the policy asks for. -/
def validateShareTargets (plannedFleet : List String) (shareIndex : Nat)
    (sharePlan : ShareSubmissionPlan) : Except VotingError (List String) := do
  let targets ← canonicalHelperUrlList U sharePlan.targetServers
  check (targets.length = sharePlan.targetServers.length &&
      targets.length = sharePlan.targetCount &&
      sharePlan.targetCount = shareSubmissionTargetCount plannedFleet.length)
    (.invalidInput s!"helper-share plan {shareIndex} has an invalid target set")
  match targets.find? (· ∉ plannedFleet) with
  | some url => throw (.invalidInput
      s!"helper-share plan {shareIndex} targets helper outside its persisted planning fleet: {url}")
  | none => return targets

/-- The loop of `validate_share_delivery_plan`: what each helper is assigned. -/
def countAssignments (plannedFleet : List String) :
    Nat → ServerUsage → List ShareSubmissionPlan → Except VotingError ServerUsage
  | _, assignments, [] => .ok assignments
  | shareIndex, assignments, sharePlan :: sharePlans => do
    let targets ← validateShareTargets U plannedFleet shareIndex sharePlan
    countAssignments plannedFleet (shareIndex + 1) (targets.foldl ServerUsage.add assignments)
      sharePlans

/-- No helper is assigned more of a complete vote than the quota. -/
def checkAssignments (shareCount : Nat) (plannedFleet : List String) (assignments : ServerUsage) :
    Except VotingError Unit :=
  let quota := shareHelperMaxInitialSharesPerServer
  if shareCount = voteCommitmentShareCount ∧ 2 ≤ plannedFleet.length then
    match (assignments.ascending (· ≤ ·)).find? fun (_, count) => quota < count with
    | some (url, count) => .error (.invalidInput
        s!"persisted helper-share plan assigns {count} shares to {url}, exceeding the initial maximum of {quota}")
    | none => .ok ()
  else .ok ()

/-- `validate_share_delivery_plan`. -/
def validateShareDeliveryPlan (plan : ShareDeliveryPlan) (shareCount : Nat) :
    Except VotingError (List String) := do
  let planned := plan.sharePlans.length
  check (planned = shareCount) (.invalidInput
    s!"persisted helper-share plan count {planned} does not match committed share count {shareCount}")
  let plannedFleet ← canonicalHelperUrlList U plan.configuredServerUrls
  check (plannedFleet ≠ [] && plannedFleet.length = plan.configuredServerUrls.length) (.invalidInput
    "persisted helper-share planning fleet must be nonempty and canonically distinct")
  let assignments ← countAssignments U plannedFleet 0 ∅ plan.sharePlans
  checkAssignments shareCount plannedFleet assignments
  return plannedFleet

end

end ZcashVoting
