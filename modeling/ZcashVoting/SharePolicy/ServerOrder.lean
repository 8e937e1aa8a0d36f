import ZcashVoting.Lib.Transaction
import ZcashVoting.Types

/-!
# ZcashVoting.SharePolicy.ServerOrder

How many helpers a share goes to, how many a complete batch needs, and the random order
in which helpers are considered.  Randomness is the caller's: the policy consumes bytes.
-/

namespace ZcashVoting

open Transaction

/-! ## Constants and counts -/

/-- `VOTE_COMMITMENT_SHARE_COUNT`: the encrypted shares of one complete vote. -/
def voteCommitmentShareCount : Nat := 16

/-- `SHARE_HELPER_INITIAL_MAX_FRACTION_NUMERATOR`. -/
def shareHelperInitialMaxFractionNumerator : Nat := 3

/-- `SHARE_HELPER_INITIAL_MAX_FRACTION_DENOMINATOR`. -/
def shareHelperInitialMaxFractionDenominator : Nat := 4

/-- `SHARE_HELPER_MAX_INITIAL_SHARES_PER_SERVER`. -/
def shareHelperMaxInitialSharesPerServer : Nat :=
  voteCommitmentShareCount * shareHelperInitialMaxFractionNumerator /
    shareHelperInitialMaxFractionDenominator

/-- `SHARE_HELPER_TARGET_COUNT_CAP`. -/
def shareHelperTargetCountCap : Nat := 10

/-- `share_submission_target_count`: half of the helpers, rounded up and capped. -/
def shareSubmissionTargetCount (serverCount : Nat) : Nat :=
  min (serverCount / 2 + serverCount % 2) shareHelperTargetCountCap

/-- `minimum_complete_batch_planning_server_count`. -/
def minimumCompleteBatchPlanningServerCount (targetCount : Nat) : Nat :=
  if targetCount = 0 then 0
  else (voteCommitmentShareCount * targetCount + shareHelperMaxInitialSharesPerServer - 1) /
    shareHelperMaxInitialSharesPerServer

/-- `ShareServerSelectionPolicy`. -/
structure ShareServerSelectionPolicy where
  targetCount : Nat
  maxSharesPerServer : Nat
  minServerCount : Nat
  preflightSoftTimeoutMilliseconds : Nat := 2000
  preflightHardTimeoutMilliseconds : Nat := 30000
  postTimeoutMilliseconds : Nat := 30000
  initialDeliveryTimeoutMilliseconds : Nat := 60000
  maxConcurrentPosts : Nat := 128
  deriving DecidableEq

/-- `share_server_selection_policy`. -/
def shareServerSelectionPolicy (serverCount : Nat) : ShareServerSelectionPolicy :=
  let targetCount := shareSubmissionTargetCount serverCount
  if serverCount = 0 then
    { targetCount, maxSharesPerServer := 0, minServerCount := 0 }
  else if serverCount = 1 then
    { targetCount, maxSharesPerServer := voteCommitmentShareCount, minServerCount := 1 }
  else
    { targetCount
      maxSharesPerServer := shareHelperMaxInitialSharesPerServer
      minServerCount := minimumCompleteBatchPlanningServerCount targetCount }

/-! ## Random order -/

/-- `share_server_order_random_bytes_required`: eight bytes a swap, saturating. -/
def shareServerOrderRandomBytesRequired (serverCount : Nat) : Nat :=
  min ((serverCount - 1) * 8) usizeMax

/-- `require_unique_share_servers`. -/
def requireUniqueShareServers (serverUrls : List String) : Except VotingError Unit :=
  check serverUrls.Nodup (.invalidInput "server_urls must not contain duplicates")

/-- `slice::swap`. -/
def swapAt {α : Type} (xs : List α) (i j : Nat) : List α :=
  match xs[i]?, xs[j]? with
  | some a, some b => (xs.set i b).set j a
  | _, _ => xs

/-- The loop of `shuffled_share_server_order`, from the last index down to 1. -/
def shuffleFrom {α : Type} : Nat → List α → Bytes → List α
  | 0, ordered, _ => ordered
  | index + 1, ordered, randomBytes =>
    let sample := leValue (randomBytes.take 8)
    shuffleFrom index (swapAt ordered (index + 1) (sample % (index + 2))) (randomBytes.drop 8)

/-- `shuffled_share_server_order`. -/
def shuffledShareServerOrder (serverUrls : List String) (randomBytes : Bytes) :
    Except VotingError (List String) := do
  requireUniqueShareServers serverUrls
  let needed := shareServerOrderRandomBytesRequired serverUrls.length
  let servers := serverUrls.length
  check (needed ≤ randomBytes.length) (.invalidInput
    s!"server_random_bytes must contain at least {needed} bytes for {servers} servers")
  return shuffleFrom (serverUrls.length - 1) serverUrls randomBytes

/-! ## What the counts and the order keep -/

theorem swapAt_perm {α : Type} (xs : List α) (i j : Nat) : (swapAt xs i j).Perm xs := by
  unfold swapAt
  split
  · next a b hi hj =>
    obtain ⟨hilt, rfl⟩ := List.getElem?_eq_some_iff.mp hi
    obtain ⟨hjlt, rfl⟩ := List.getElem?_eq_some_iff.mp hj
    exact List.set_set_perm hilt hjlt
  · exact .refl _

/-- A shuffle only reorders. -/
theorem shuffleFrom_perm {α : Type} (index : Nat) (ordered : List α) (randomBytes : Bytes) :
    (shuffleFrom index ordered randomBytes).Perm ordered := by
  induction index generalizing ordered randomBytes with
  | zero => exact .refl _
  | succ index ih => exact (ih _ _).trans (swapAt_perm _ _ _)

/-- With enough entropy a list of distinct servers is put in some order. -/
theorem shuffledShareServerOrder_eq_ok {serverUrls : List String} {randomBytes : Bytes}
    (hnodup : serverUrls.Nodup)
    (hbytes : shareServerOrderRandomBytesRequired serverUrls.length ≤ randomBytes.length) :
    ∃ order, shuffledShareServerOrder serverUrls randomBytes = .ok order ∧
      order.Perm serverUrls := by
  refine ⟨shuffleFrom (serverUrls.length - 1) serverUrls randomBytes, ?_, shuffleFrom_perm _ _ _⟩
  simp only [shuffledShareServerOrder, requireUniqueShareServers, except_bind_eq_ok, check_eq_ok,
    except_pure_eq_ok]
  exact ⟨(), by simpa using hnodup, (), by simpa using hbytes, trivial⟩

/-- A nonempty fleet has a target, at most half of it rounded up. -/
theorem shareSubmissionTargetCount_bounds {serverCount : Nat} (h : serverCount ≠ 0) :
    0 < shareSubmissionTargetCount serverCount ∧
      shareSubmissionTargetCount serverCount ≤ serverCount ∧
      shareSubmissionTargetCount serverCount ≤ 10 := by
  unfold shareSubmissionTargetCount shareHelperTargetCountCap
  omega

/-- A complete batch fits into the smallest planning pool under the quota, and the fleet
has such a pool. -/
theorem minServerCount_bounds {serverCount : Nat} (h : 2 ≤ serverCount) :
    let pool := (shareServerSelectionPolicy serverCount).minServerCount
    let target := shareSubmissionTargetCount serverCount
    target ≤ pool ∧ pool ≤ serverCount ∧ 2 ≤ pool ∧ 16 * target ≤ 12 * pool := by
  have hne : serverCount ≠ 0 := by omega
  have hne' : serverCount ≠ 1 := by omega
  obtain ⟨hpos, -, hle⟩ := shareSubmissionTargetCount_bounds hne
  simp only [shareServerSelectionPolicy, hne, hne', if_false,
    minimumCompleteBatchPlanningServerCount, Nat.pos_iff_ne_zero.mp hpos, voteCommitmentShareCount,
    shareHelperMaxInitialSharesPerServer, shareHelperInitialMaxFractionNumerator,
    shareHelperInitialMaxFractionDenominator]
  have hhalf : 2 * shareSubmissionTargetCount serverCount ≤ serverCount + 1 := by
    unfold shareSubmissionTargetCount
    omega
  omega

end ZcashVoting
