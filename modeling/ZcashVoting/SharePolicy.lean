import ZcashVoting.Types

/-!
# ZcashVoting.SharePolicy

What the wallet plans for the helper shares of a vote: when and to which helpers each
share goes, and which one share of a round goes at once.
-/

namespace ZcashVoting

/-- `ShareSubmissionPlan`: the plan of one share. -/
structure ShareSubmissionPlan where
  /-- True only for the round's designated immediate share; other shares may have
  `submitAt = 0` too. -/
  immediate : Bool
  /-- Unix seconds, zero for immediate. -/
  submitAt : Nat
  /-- How many helpers the share should reach. -/
  targetCount : Nat
  targetServers : List String
  deriving DecidableEq

/-- `SharePlacementGuarantee`: whether the placement rules hold of every share the vote
ever delivered. -/
inductive SharePlacementGuarantee where
  | strict
  | legacyBestEffort
  deriving DecidableEq

/-- `ImmediateShareKey`: the round's single designated immediate helper share. -/
structure ImmediateShareKey where
  bundleIndex : Nat
  proposalId : Nat
  shareIndex : Nat
  deriving DecidableEq

/-- `IMMEDIATE_SHARE_INDEX`. -/
def immediateShareIndex : Nat := 0

/-- `round_immediate_share_key`: the lowest voted proposal on the highest bundle. -/
def roundImmediateShareKey (highestBundleIndex : Option Nat) (votedProposalIds : List Nat) :
    Option ImmediateShareKey := do
  let bundleIndex ← highestBundleIndex
  let proposalId ← votedProposalIds.min?
  return ⟨bundleIndex, proposalId, immediateShareIndex⟩

end ZcashVoting
