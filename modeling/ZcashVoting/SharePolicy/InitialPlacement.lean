import ZcashVoting.Lib.LeastLoaded
import ZcashVoting.Lib.Table
import ZcashVoting.SharePolicy
import ZcashVoting.SharePolicy.ServerOrder

/-!
# ZcashVoting.SharePolicy.InitialPlacement

The initial plan of a vote's shares: when each is submitted and to which helpers.  A
complete vote is spread over its helpers share by share, always to the least loaded ones,
under a quota that no helper may exceed.
-/

namespace ZcashVoting

open LeastLoaded Transaction

/-! ## Submission times -/

/-- `SHARE_SUBMIT_AT_RANDOM_BYTES`. -/
def shareSubmitAtRandomBytes : Nat := 8

/-- `SHARE_SUBMIT_AT_MAX_DELAY_SECONDS`. -/
def shareSubmitAtMaxDelaySeconds : Nat := 100 * 60 * 60

/-- `PlacementParams`: the arguments of `plan_share_submissions_with_preferred_servers`. -/
structure PlacementParams where
  shareCount : Nat
  /-- Ready helpers first, then the others. -/
  rankedServerUrls : List String
  /-- How many of them are ready. -/
  preferredServerCount : Nat
  nowSeconds : Nat
  voteEndTimeSeconds : Nat
  lastMomentBufferSeconds : Option Nat
  singleShare : Bool
  /-- A position in the batch, not a share index. -/
  immediateShareIndex : Option Nat
  submitAtRandomBytes : Bytes
  serverRandomBytes : Bytes
  deriving DecidableEq

/-- `delayed_share_window_seconds`. -/
def delayedShareWindowSeconds (nowSeconds voteEndTimeSeconds : Nat)
    (lastMomentBufferSeconds : Option Nat) (singleShare : Bool) : Option Nat :=
  if singleShare then none
  else match lastMomentBufferSeconds with
    | none | some 0 => none
    | some buffer =>
      let deadline := voteEndTimeSeconds - buffer
      if deadline ≤ nowSeconds then none
      else some (min (deadline - nowSeconds) shareSubmitAtMaxDelaySeconds)

/-- `share_submit_at_random_bytes_required`. -/
def shareSubmitAtRandomBytesRequired (nowSeconds voteEndTimeSeconds : Nat)
    (lastMomentBufferSeconds : Option Nat) (singleShare : Bool) : Nat :=
  if (delayedShareWindowSeconds nowSeconds voteEndTimeSeconds lastMomentBufferSeconds
      singleShare).isSome then shareSubmitAtRandomBytes
  else 0

/-- `scheduled_share_submit_at_from_entropy`. -/
def scheduledShareSubmitAtFromEntropy (nowSeconds voteEndTimeSeconds : Nat)
    (lastMomentBufferSeconds : Option Nat) (singleShare : Bool) (submitAtRandomBytes : Bytes) :
    Except VotingError Nat :=
  match delayedShareWindowSeconds nowSeconds voteEndTimeSeconds lastMomentBufferSeconds
      singleShare with
  | none => .ok 0
  | some windowSeconds => do
    check (shareSubmitAtRandomBytes ≤ submitAtRandomBytes.length)
      (.invalidInput "submit_at_random_bytes must contain at least 8 bytes")
    let sample := leValue (submitAtRandomBytes.take 8)
    let delaySeconds := sample * windowSeconds / 2 ^ 64
    return min (nowSeconds + delaySeconds) u64Max

/-! ## Placement -/

/-- `ShareSubmissionRandomBytesRequired`. -/
structure ShareSubmissionRandomBytesRequired where
  submitAtRandomBytes : Nat
  serverRandomBytes : Nat
  deriving DecidableEq

/-- `share_submission_random_bytes_required`. -/
def shareSubmissionRandomBytesRequired (shareCount serverCount nowSeconds voteEndTimeSeconds : Nat)
    (lastMomentBufferSeconds : Option Nat) (singleShare : Bool) :
    ShareSubmissionRandomBytesRequired where
  submitAtRandomBytes := min (shareSubmitAtRandomBytesRequired nowSeconds voteEndTimeSeconds
    lastMomentBufferSeconds singleShare * shareCount) usizeMax
  serverRandomBytes := min (shareServerOrderRandomBytesRequired serverCount * shareCount) usizeMax

/-- `checked_random_bytes_required`. -/
def checkedRandomBytesRequired (perShare shareCount : Nat) (name : String) :
    Except VotingError Nat :=
  if perShare * shareCount ≤ usizeMax then .ok (perShare * shareCount)
  else .error (.invalidInput s!"{name} requirement overflows usize")

/-- `require_share_servers`. -/
def requireShareServers (serverUrls : List String) : Except VotingError Unit := do
  check (serverUrls ≠ []) (.invalidInput "server_urls must not be empty")
  requireUniqueShareServers serverUrls

/-- The shares each helper has so far. -/
abbrev ServerUsage := Table String Nat

/-- `server_usage.get(server).copied().unwrap_or(0)`. -/
def ServerUsage.of (usage : ServerUsage) (server : String) : Nat := (usage.lookup server).getD 0

/-- `*server_usage.entry(server).or_default() += 1`. -/
def ServerUsage.add (usage : ServerUsage) (server : String) : ServerUsage :=
  usage.insert server (usage.of server + 1)

/-- Helpers are ranked by what they have, then by their random rank. -/
def usagePrecedes (usage : ServerUsage) (a b : String × Nat) : Prop :=
  usage.of a.1 < usage.of b.1 ∨ (usage.of a.1 = usage.of b.1 ∧ a.2 ≤ b.2)

instance (usage : ServerUsage) : DecidableRel (usagePrecedes usage) := fun a b =>
  inferInstanceAs (Decidable (usage.of a.1 < usage.of b.1 ∨ (usage.of a.1 = usage.of b.1 ∧ a.2 ≤ b.2)))

/-- The ranked helpers that the quota leaves, as many as the target asks for. -/
def leastUsed (randomizedOrder : List String) (targetCount : Nat) (maxSharesPerServer : Option Nat)
    (usage : ServerUsage) : List String :=
  (((randomizedOrder.zipIdx.insertionSort (usagePrecedes usage)).filter fun entry =>
    maxSharesPerServer.all (usage.of entry.1 < ·)).take targetCount).map (·.1)

/-- `select_batch_share_submission_targets`. -/
def selectBatchShareSubmissionTargets (serverUrls : List String) (targetCount : Nat)
    (maxSharesPerServer : Option Nat) (usage : ServerUsage) (serverRandomBytes : Bytes) :
    Except VotingError (List String × ServerUsage) := do
  let randomizedOrder ← shuffledShareServerOrder serverUrls serverRandomBytes
  let selected := leastUsed randomizedOrder targetCount maxSharesPerServer usage
  check (selected.length = targetCount) (.invalidInput
    s!"cannot select {targetCount} distinct helpers without exceeding the initial per-helper share quota")
  return (selected, selected.foldl ServerUsage.add usage)

/-- `build_share_submission_plan`. -/
def buildShareSubmissionPlan (immediate : Bool) (targetCount : Nat) (targetServers : List String)
    (submitAt : Nat) : Except VotingError ShareSubmissionPlan :=
  if targetCount ≤ u32Max then .ok ⟨immediate, submitAt, targetCount, targetServers⟩
  else .error (.invalidInput s!"target_count {targetCount} does not fit u32")

section

variable (params : PlacementParams)

/-- A complete vote, to which the quota applies. -/
def PlacementParams.completeNormalBatch : Bool :=
  params.shareCount = voteCommitmentShareCount && !params.singleShare

/-- The fewest helpers to plan over. -/
def PlacementParams.minimumPlanningServerCount : Nat :=
  if params.completeNormalBatch then
    (shareServerSelectionPolicy params.rankedServerUrls.length).minServerCount
  else shareSubmissionTargetCount params.rankedServerUrls.length

/-- `planning_servers`: the ready helpers, and more where the batch needs them. -/
def PlacementParams.planningServers : List String :=
  params.rankedServerUrls.take (min
    (max params.preferredServerCount params.minimumPlanningServerCount)
    params.rankedServerUrls.length)

/-- `max_shares_per_server`. -/
def PlacementParams.maxSharesPerServer : Option Nat :=
  if params.completeNormalBatch && 1 < params.planningServers.length then
    some shareHelperMaxInitialSharesPerServer
  else none

/-- The entropy of one share's submission time. -/
def PlacementParams.submitAtBytesPerShare : Nat :=
  shareSubmitAtRandomBytesRequired params.nowSeconds params.voteEndTimeSeconds
    params.lastMomentBufferSeconds params.singleShare

/-- The entropy of one share's helper order. -/
def PlacementParams.serverBytesPerShare : Nat :=
  shareServerOrderRandomBytesRequired params.rankedServerUrls.length

/-- `immediate_share_index == Some(share_index as u32)`. -/
def PlacementParams.marksImmediate (shareIndex : Nat) : Bool :=
  params.immediateShareIndex = some (shareIndex % 2 ^ 32)

/-- The submission time of one share. -/
def shareSubmitAt (shareIndex : Nat) : Except VotingError Nat :=
  if params.marksImmediate shareIndex then .ok 0
  else scheduledShareSubmitAtFromEntropy params.nowSeconds params.voteEndTimeSeconds
    params.lastMomentBufferSeconds params.singleShare
    ((params.submitAtRandomBytes.drop (shareIndex * params.submitAtBytesPerShare)).take
      params.submitAtBytesPerShare)

/-- One turn of the planning loop. -/
def planShare (shareIndex : Nat) (usage : ServerUsage) :
    Except VotingError (ShareSubmissionPlan × ServerUsage) := do
  let targetCount := shareSubmissionTargetCount params.rankedServerUrls.length
  let (targetServers, usage) ← selectBatchShareSubmissionTargets params.planningServers targetCount
    params.maxSharesPerServer usage
    ((params.serverRandomBytes.drop (shareIndex * params.serverBytesPerShare)).take
      params.serverBytesPerShare)
  let submitAt ← shareSubmitAt params shareIndex
  let plan ← buildShareSubmissionPlan (params.marksImmediate shareIndex) targetCount targetServers
    submitAt
  return (plan, usage)

/-- The planning loop, from a share on. -/
def planShares : Nat → Nat → ServerUsage → Except VotingError (List ShareSubmissionPlan)
  | 0, _, _ => .ok []
  | remaining + 1, shareIndex, usage => do
    let (plan, usage) ← planShare params shareIndex usage
    let plans ← planShares remaining (shareIndex + 1) usage
    return plan :: plans

/-- The checks before the planning loop. -/
def checkPlacement : Except VotingError Unit := do
  requireShareServers params.rankedServerUrls
  check (params.preferredServerCount ≤ params.rankedServerUrls.length)
    (.invalidInput "preferred_server_count must not exceed ranked_server_urls length")
  let submitAtBytesNeeded ← checkedRandomBytesRequired params.submitAtBytesPerShare
    params.shareCount "submit_at_random_bytes"
  let serverBytesNeeded ← checkedRandomBytesRequired params.serverBytesPerShare
    params.shareCount "server_random_bytes"
  check (submitAtBytesNeeded ≤ params.submitAtRandomBytes.length) (.invalidInput
    s!"submit_at_random_bytes must contain at least {submitAtBytesNeeded} bytes")
  check (serverBytesNeeded ≤ params.serverRandomBytes.length) (.invalidInput
    s!"server_random_bytes must contain at least {serverBytesNeeded} bytes")
  let minimum := params.minimumPlanningServerCount
  let quota := shareHelperMaxInitialSharesPerServer
  check (minimum ≤ params.rankedServerUrls.length) (.invalidInput
    s!"complete share batch requires at least {minimum} helpers to keep each helper at or below {quota} initial shares")

/-- `plan_share_submissions_with_preferred_servers`. -/
def planShareSubmissionsWithPreferredServers : Except VotingError (List ShareSubmissionPlan) := do
  let shareCount := params.shareCount
  check (!(params.singleShare && shareCount ≠ 1)) (.invalidInput
    s!"single_share planning requires exactly one share payload, got {shareCount}")
  check (params.immediateShareIndex.all (· < shareCount)) (.invalidInput
    s!"immediate_share_index must be less than share_count {shareCount}")
  if shareCount = 0 then return []
  checkPlacement params
  planShares params shareCount 0 ∅

end

/-! ## Usage -/

theorem ServerUsage.of_add (usage : ServerUsage) (server other : String) :
    (usage.add server).of other = usage.of other + if other = server then 1 else 0 := by
  unfold add
  rw [ServerUsage.of, Table.lookup_insert_eq]
  split
  · next h => rw [h, Option.getD_some]
  · rfl

/-- Adding the selected helpers charges each of them once. -/
theorem ServerUsage.of_foldl_add {selected : List String} (hnodup : selected.Nodup)
    (usage : ServerUsage) (server : String) :
    (selected.foldl ServerUsage.add usage).of server = charge usage.of selected server := by
  induction selected generalizing usage with
  | nil => simp [charge]
  | cons first selected ih =>
    rw [List.nodup_cons] at hnodup
    rw [List.foldl_cons, ih hnodup.2, charge, charge, ServerUsage.of_add]
    by_cases h : server = first
    · subst h
      simp [hnodup.1]
    · simp [h]

/-- The order of ranks is an order by what the helpers have. -/
theorem leastUsed_least {pool order : List String} (hperm : order.Perm pool) (hnodup : pool.Nodup)
    (targetCount : Nat) (maxSharesPerServer : Option Nat) (usage : ServerUsage) :
    Least usage.of pool (leastUsed order targetCount maxSharesPerServer usage) ∧
      (leastUsed order targetCount maxSharesPerServer usage).length =
        min targetCount (pool.countP fun server => maxSharesPerServer.all (usage.of server < ·)) := by
  have htotal : Std.Total (usagePrecedes usage) := ⟨fun a b => by unfold usagePrecedes; omega⟩
  have htrans : IsTrans _ (usagePrecedes usage) :=
    ⟨fun a b c hab hbc => by unfold usagePrecedes at hab hbc ⊢; omega⟩
  have hranked : ((order.zipIdx.insertionSort (usagePrecedes usage)).map (·.1)).Perm pool := by
    refine ((List.perm_insertionSort _ _).map _).trans ?_
    rw [List.zipIdx_map_fst]
    exact hperm
  have hsorted : ((order.zipIdx.insertionSort (usagePrecedes usage)).map (·.1)).Pairwise
      fun a b => usage.of a ≤ usage.of b := by
    refine List.pairwise_map.mpr ((List.pairwise_insertionSort (usagePrecedes usage) _).imp ?_)
    intro a b hab
    unfold usagePrecedes at hab
    omega
  have hform : leastUsed order targetCount maxSharesPerServer usage =
      (((order.zipIdx.insertionSort (usagePrecedes usage)).map (·.1)).filter fun server =>
        maxSharesPerServer.all (usage.of server < ·)).take targetCount := by
    rw [leastUsed, List.map_take, List.filter_map]
    rfl
  rw [hform]
  constructor
  · refine least_take_filter hranked hnodup hsorted (fun a b ha hb => ?_) targetCount
    cases maxSharesPerServer with
    | none => simp at hb
    | some maximum =>
      simp only [Option.all_some, decide_eq_true_eq, decide_eq_false_iff_not] at ha hb
      omega
  · rw [List.length_take, ← List.countP_eq_length_filter, hranked.countP_eq]

end ZcashVoting
