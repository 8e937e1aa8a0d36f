import ZcashVoting.RoundPlanning.Snapshot

/-!
# ZcashVoting.ShareTracking.ImmediateShare

The one share of a round that is submitted at once.  Which one it is follows from the
complete ballot when the plan of the designated vote is first prepared; from then on it
is durable, and every persisted plan is audited against it.
-/

namespace ZcashVoting

open Transaction

/-! ## The ballot as helper planning sees it -/

/-- A vote the lifecycle owns stands for its decision when no intent is recorded. -/
def withOwnedChoice (round : RoundKey) (db : Db) (decisions : Table Nat BallotIntent)
    (status : VoteSubmissionStatus) : Table Nat BallotIntent :=
  if (decisions.lookup status.proposalId).isSome || !status.phase.isLifecycleOwned then decisions
  else match db.votes.lookup
      ⟨⟨round.roundId, round.walletId, status.bundleIndex⟩, status.proposalId⟩ with
    | some vote => decisions.insert status.proposalId (.choice vote.choice)
    | none => decisions

section

variable (P : Primitives)

/-- `durable_decisions`. -/
def durableDecisions (round : RoundKey) (db : Db) : Except VotingError (Table Nat BallotIntent) := do
  let statuses ← voteSubmissionStatuses P round db
  return statuses.foldl (withOwnedChoice round db) (loadBallotIntents round db)

/-- The decision counts for the roster: it is rostered, or the host could clear it. -/
def countsForRoster (round : RoundKey) (roster : List Nat) (db : Db) (proposalId : Nat) :
    Except VotingError Bool :=
  if proposalId ∈ roster then .ok true
  else do
    let owned ← intentIsLifecycleOwned P round proposalId db
    return !owned

/-- The loop that collects the durable roster. -/
def durableRoster (round : RoundKey) (roster : List Nat) (db : Db) :
    List Nat → Except VotingError (List Nat)
  | [] => .ok []
  | proposalId :: proposalIds => do
    let counts ← countsForRoster P round roster db proposalId
    let rest ← durableRoster round roster db proposalIds
    return if counts then proposalId :: rest else rest

/-- The ballot checks of `derive_immediate_share`. -/
def checkHelperBallot (round : RoundKey) (proposalId : Nat) (proposalIds : List Nat) (db : Db) :
    Except VotingError BallotIntentClassification := do
  check (proposalIds ≠ [])
    (.invalidInput "helper-share planning requires the round's complete proposal roster")
  let decisions ← durableDecisions P round db
  let classification ← classifyBallotIntents proposalIds decisions
  let open_ := classification.openProposals
  check (open_ = [])
    (.invalidInput s!"helper-share planning requires terminal decisions for proposals {open_}")
  let durable ← durableRoster P round classification.roster db
    ((decisions.ascending (· ≤ ·)).map (·.1))
  check (classification.roster = durable) (.invalidInput
    "proposal roster does not exactly match the round's durable ballot intents")
  check ((decisions.lookup proposalId).any fun decision => decision ≠ .skipped) (.invalidInput
    s!"committed proposal {proposalId} is not a chosen member of the round roster")
  return classification

end

/-! ## The designation -/

/-- `immediate_key_for_choices`. -/
def immediateKeyForChoices (round : RoundKey) (choiceProposals : List Nat) (db : Db) :
    Option ImmediateShareKey :=
  roundImmediateShareKey ((db.roundBundles round).map (·.1.bundleIndex)).max? choiceProposals

/-- `immediate_position_for_commitment`. -/
def immediatePositionForCommitment (immediateKey : Option ImmediateShareKey)
    (bundleIndex proposalId : Nat) (payloads : List SharePayload) :
    Except VotingError (Option Nat) :=
  match immediateKey with
  | none => .ok none
  | some key =>
    if key.bundleIndex = bundleIndex ∧ key.proposalId = proposalId then
      let shareIndex := key.shareIndex
      match payloads.findIdx? fun payload => payload.encShare.shareIndex = shareIndex with
      | none => .error (.invalidInput
          s!"derived immediate share index {shareIndex} is not present in the committed vote")
      | some position =>
        if position ≤ u32Max then .ok (some position)
        else .error (.invalidInput "immediate share position exceeds u32")
    else .ok none

/-- `designate_round_immediate_share`: the first writer wins. -/
def designateRoundImmediateShare (round : RoundKey) (proposed : ImmediateShareKey) (db : Db) : Db :=
  match db.roundImmediateShare.lookup round with
  | some _ => db
  | none => { db with roundImmediateShare := db.roundImmediateShare.insert round proposed }

/-- The designation a plan of the vote is made under: the durable one, else the one the
choices derive, which becomes durable if it names this vote. -/
def seedImmediateShare (round : RoundKey) (bundleIndex proposalId : Nat)
    (choiceProposals : List Nat) : Txn Db VotingError (Option ImmediateShareKey) := do
  let immediateKey ← read fun db =>
    .ok ((roundImmediateShare round db).or (immediateKeyForChoices round choiceProposals db))
  write fun db => .ok (
    match immediateKey with
    | some key =>
      if key.bundleIndex = bundleIndex ∧ key.proposalId = proposalId then
        designateRoundImmediateShare round key db
      else db
    | none => db)
  return immediateKey

/-- `derive_immediate_share` after its ballot checks. -/
def designateShare (round : RoundKey) (bundleIndex proposalId : Nat) (payloads : List SharePayload)
    (classification : BallotIntentClassification) :
    Txn Db VotingError (Option ImmediateShareKey × Option Nat) := do
  let immediateKey ← seedImmediateShare round bundleIndex proposalId classification.choiceProposals
  let position ← read fun _ =>
    immediatePositionForCommitment immediateKey bundleIndex proposalId payloads
  return (immediateKey, position)

/-- `derive_immediate_share`. -/
def deriveImmediateShare (P : Primitives) (round : RoundKey) (bundleIndex proposalId : Nat)
    (proposalIds : List Nat) (payloads : List SharePayload) :
    Txn Db VotingError (Option ImmediateShareKey × Option Nat) := do
  let classification ← read (checkHelperBallot P round proposalId proposalIds)
  designateShare round bundleIndex proposalId payloads classification

end ZcashVoting
