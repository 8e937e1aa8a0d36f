import ZcashVoting.ChainSubmission.Generation

/-!
# ZcashVoting.Vote.Preparation

The ranges in which the proposal, the options and the decision of a draft vote must
lie, and the facts of a vote row that say that the vote has reached the chain.
-/

namespace ZcashVoting

open Transaction

/-! ## Drafts -/

/-- `MIN_VOTE_OPTIONS`. -/
def minVoteOptions : Nat := 2

/-- `MAX_VOTE_OPTIONS`. -/
def maxVoteOptions : Nat := 8

/-- `validate_proposal_id`. -/
def validateProposalId (proposalId : Nat) : Except VotingError Unit :=
  check (minProposalId ≤ proposalId ∧ proposalId ≤ maxProposalId)
    (.invalidInput s!"proposal_id must be {minProposalId}..={maxProposalId}, got {proposalId}")

/-- `validate_vote_options`. -/
def validateVoteOptions (numOptions : Nat) : Except VotingError Unit :=
  check (minVoteOptions ≤ numOptions ∧ numOptions ≤ maxVoteOptions)
    (.invalidInput s!"num_options must be {minVoteOptions}..={maxVoteOptions}, got {numOptions}")

/-- `validate_vote_decision`. -/
def validateVoteDecision (decision numOptions : Nat) : Except VotingError Unit := do
  validateVoteOptions numOptions
  check (decision < numOptions)
    (.invalidInput s!"vote_decision must be in [0, {numOptions}), got {decision}")

/-! ## Stored votes -/

/-- Some fact says the vote has reached the chain
(`tx_hash IS NOT NULL OR vc_tree_position IS NOT NULL`). -/
def VoteRow.reachedChain (row : VoteRow) : Bool := row.txHash.isSome || row.vcTreePosition.isSome

end ZcashVoting
